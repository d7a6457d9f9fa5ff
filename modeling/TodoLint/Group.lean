import TodoLint.Token

/-!
Groups of comments. A tagged comment opens a group, and the untagged comments after it
continue the group until code or another tagged comment follows.
-/

namespace TodoLint

/-- A tagged comment and the texts of the comments that continue it, its own included. -/
structure Group where
  start : Token
  lines : List String
deriving DecidableEq, Repr

namespace Group

/-- The group of a tagged comment alone. -/
def opening (comment : Token) : Group :=
  ⟨comment, [comment.text]⟩

/-- The group with one more comment. -/
def push (g : Group) (comment : Token) : Group :=
  { g with lines := g.lines ++ [comment.text] }

/-- The texts of the group, one line each. -/
def text (g : Group) : String :=
  String.intercalate "\n" g.lines

end Group

/-- The groups of a token list, `current` being the group that is still open. -/
def groupsFrom (tagged : String → Bool) (current : Option Group) : List Token → List Group
  | [] => current.toList
  | t :: ts =>
      match t.kind with
      | .newline | .logicalNewline => groupsFrom tagged current ts
      | .other => current.toList ++ groupsFrom tagged none ts
      | .comment =>
          if tagged t.text then
            current.toList ++ groupsFrom tagged (some (.opening t)) ts
          else groupsFrom tagged (current.map (·.push t)) ts

def groups (tagged : String → Bool) (tokens : List Token) : List Group :=
  groupsFrom tagged none tokens

end TodoLint
