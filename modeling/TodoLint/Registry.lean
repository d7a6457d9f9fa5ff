import TodoLint.Rule.Builtin

/-!
Registries: the rules of a check in order, no two with one code, and the vocabulary that
they share.
-/

namespace TodoLint

/-- The rules of a check and their vocabulary. -/
structure Registry where
  vocabulary : Vocabulary
  rules : List Rule

/-- A rule was to be registered under a code that is taken. -/
structure DuplicateCode where
  code : Nat
deriving DecidableEq, Repr

namespace Registry

/-- The registry of all built-in rules over the default vocabulary. -/
def default : Registry :=
  ⟨{}, Rule.builtin⟩

instance : Inhabited Registry :=
  ⟨default⟩

def get? (r : Registry) (code : Nat) : Option Rule :=
  r.rules.find? (·.code == code)

def codes (r : Registry) : List Nat :=
  r.rules.map (·.code)

/-- Adds a rule at the end, unless its code is taken. -/
def register (r : Registry) (rule : Rule) : Except DuplicateCode Registry :=
  if (r.get? rule.code).isSome then .error ⟨rule.code⟩
  else .ok { r with rules := r.rules ++ [rule] }

def ofRules (vocabulary : Vocabulary) (rules : List Rule) : Except DuplicateCode Registry :=
  rules.foldlM register ⟨vocabulary, []⟩

/-- The registry of all built-in rules over a vocabulary. -/
def builtin (vocabulary : Vocabulary) : Except DuplicateCode Registry :=
  ofRules vocabulary Rule.builtin

/-- The registry without the rules of the given codes. -/
def without (r : Registry) (codes : List Nat) : Registry :=
  { r with rules := r.rules.filter fun rule => !codes.contains rule.code }

/-- The registry in one line, as diagnostics show it. -/
def summary (r : Registry) : String :=
  "RuleRegistry \x7b codes: [" ++ String.intercalate ", " (r.codes.map toString) ++ "] \x7d"

/-- All findings in a token list, rule by rule. -/
def check (r : Registry) (tokens : List Token) : List Finding :=
  r.rules.flatMap fun rule => rule.evaluate r.vocabulary tokens

end Registry

end TodoLint
