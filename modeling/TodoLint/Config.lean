import TodoLint.Failure

/-!
Configurations: the two lists of tags and the codes of the rules to leave out.
-/

namespace TodoLint

/-- What a user can set. -/
structure Config where
  tags : List String := ({} : Vocabulary).tags
  badTags : List String := ({} : Vocabulary).badTags
  ignore : List Nat := []
deriving DecidableEq, Repr, Inhabited

namespace Config

def vocabulary (c : Config) : Except VocabularyFault Vocabulary :=
  Vocabulary.ofTags c.tags c.badTags

/-- A code to be ignored that belongs to no built-in rule. -/
def unknownCode? (c : Config) : Option Nat :=
  c.ignore.find? (!(Rule.builtin.map (·.code)).contains ·)

/-- The registry of a configuration: the built-in rules without the ignored ones. An
unknown code is reported before a faulty vocabulary. -/
def registry (c : Config) : Except Failure Registry :=
  match c.unknownCode? with
  | some code => .error (.badConfig (.unknownCode code))
  | none =>
      match c.vocabulary with
      | .error fault => .error (.badConfig (.vocabulary fault))
      | .ok vocabulary =>
          match Registry.builtin vocabulary with
          | .error duplicate => .error (.duplicateCode duplicate)
          | .ok registry => .ok (registry.without c.ignore)

end Config

end TodoLint
