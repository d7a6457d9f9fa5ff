import TodoLint.Finding
import TodoLint.Group
import TodoLint.TagMatch

/-!
Rules. A rule looks at each comment on its own, at each group of comments, or in a way of its own at
all tokens.
-/

namespace TodoLint

/-- What a rule looks at, and the complaint that it makes. -/
inductive Inspection where
  /-- A complaint about a comment. -/
  | ofComment (complaint : Vocabulary → Token → Option String)
  /-- A complaint about the text of a group. -/
  | ofGroup (complaint : String → Option String)
  /-- Findings of any kind in a token list. -/
  | ofTokens (findings : Vocabulary → List Token → List Finding)

/-- A rule. The code names it in reports, and no two rules of a registry share one. -/
structure Rule where
  code : Nat
  name : String
  /-- The complaint as a list of rules shows it. -/
  text : String
  inspection : Inspection

namespace Rule

/-- What the rule finds in a token list. Complaints are in the order of the tokens. -/
def evaluate (rule : Rule) (vocabulary : Vocabulary) (tokens : List Token) : List Finding :=
  match rule.inspection with
  | .ofComment complaint =>
      (tokens.filter Token.isComment).filterMap fun comment =>
        (complaint vocabulary comment).map (Finding.ofToken comment rule.code)
  | .ofGroup complaint =>
      (groups (fun text => (vocabulary.find? text).isSome) tokens).filterMap fun group =>
        (complaint group.text).map (Finding.ofToken group.start rule.code)
  | .ofTokens findings => findings vocabulary tokens

end Rule

end TodoLint
