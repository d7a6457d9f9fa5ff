import TodoLint.Config
import TodoLint.Proofs.Rule

/-!
The registry of a configuration, and the order of its findings: by the codes of the rules, and
for each rule by places.
-/

namespace TodoLint

/-- The order of findings by code, row and column. -/
def Finding.Precedes (f g : Finding) : Prop :=
  f.code < g.code ∨ f.code = g.code ∧ f.place.Before g.place

namespace Registry

variable {r : Registry} {tokens : List Token}

/-- All rules look at texts alone. -/
def IsTextual (r : Registry) : Prop :=
  ∀ rule ∈ r.rules, rule.IsTextual

theorem builtin_eq_ok (v : Vocabulary) : builtin v = .ok ⟨v, Rule.builtin⟩ := rfl

/-- Rules in the order of their codes report in this order. -/
theorem pairwise_check (hr : r.IsTextual)
    (hcodes : r.rules.Pairwise fun a b => a.code < b.code)
    (h : (tokens.filter Token.isComment).Pairwise fun a b => a.start.Before b.start) :
    (r.check tokens).Pairwise Finding.Precedes := by
  unfold check
  rw [List.pairwise_flatMap]
  constructor
  · intro rule hrule
    have hcode := fun {f} => @Rule.code_of_mem_evaluate rule r.vocabulary tokens (hr rule hrule) f
    refine (Rule.pairwise_evaluate (hr rule hrule) h).imp_of_mem ?_
    intro f g hf hg hplace
    exact .inr ⟨(hcode hf).trans (hcode hg).symm, hplace⟩
  · refine hcodes.imp_of_mem ?_
    intro a b ha hb hcode f hf g hg
    apply Or.inl
    rwa [Rule.code_of_mem_evaluate (hr a ha) hf, Rule.code_of_mem_evaluate (hr b hb) hg]

theorem check_append_of_not_comment (hr : r.IsTextual) {t : Token} (h : t.kind ≠ .comment) :
    r.check (tokens ++ [t]) = r.check tokens :=
  List.flatMap_congr fun rule hrule => Rule.evaluate_append_of_not_comment (hr rule hrule) h

end Registry

namespace Rule

theorem isTextual_demanding (code : Nat) (name text : String)
    (holds : String → List Char → Bool) : (demanding code name text holds).IsTextual := by
  intro v t u htext
  simp only [htext]

theorem isTextual_of_mem_builtin {rule : Rule} (hrule : rule ∈ builtin) : rule.IsTextual := by
  simp only [builtin, List.mem_cons, List.not_mem_nil, or_false] at hrule
  rcases hrule with rfl | rfl | rfl | rfl | rfl | rfl | rfl
  case inr.inr.inl => trivial
  case inl | inr.inr.inr.inr.inr.inl =>
    intro v t u htext
    simp only [htext]
  all_goals exact isTextual_demanding _ _ _ _

end Rule

theorem Registry.isTextual_default : default.IsTextual :=
  fun _ => Rule.isTextual_of_mem_builtin

/-- The codes that a configuration may ignore. -/
def builtinCodes : List Nat :=
  Rule.builtin.map (·.code)

namespace Config

variable {c : Config} {r : Registry}

theorem unknownCode?_eq_none_iff :
    c.unknownCode? = none ↔ ∀ code ∈ c.ignore, code ∈ builtinCodes := by
  simp [unknownCode?, builtinCodes]

/-- A configuration has a registry if it ignores built-in rules alone and its tags make a
vocabulary. -/
theorem registry_eq_ok_iff :
    c.registry = .ok r ↔ (∀ code ∈ c.ignore, code ∈ builtinCodes) ∧
      ∃ v, c.vocabulary = .ok v ∧ r = (⟨v, Rule.builtin⟩ : Registry).without c.ignore := by
  rw [← unknownCode?_eq_none_iff, registry]
  cases c.unknownCode? with
  | some code => simp
  | none =>
      cases c.vocabulary with
      | error fault => simp
      | ok v => simp [Registry.builtin_eq_ok, eq_comm]

theorem registry_eq_ok (h : c.registry = .ok r) :
    ∃ v, c.vocabulary = .ok v ∧ r = (⟨v, Rule.builtin⟩ : Registry).without c.ignore :=
  (registry_eq_ok_iff.mp h).2

theorem mem_rules {rule : Rule} (h : c.registry = .ok r) :
    rule ∈ r.rules ↔ rule ∈ Rule.builtin ∧ rule.code ∉ c.ignore := by
  obtain ⟨v, -, rfl⟩ := registry_eq_ok h
  simp [Registry.without]

theorem isTextual_registry (h : c.registry = .ok r) : r.IsTextual :=
  fun _ hrule => Rule.isTextual_of_mem_builtin ((mem_rules h).mp hrule).1

/-- A finding comes from a built-in rule that is not ignored, and stands at a comment that this
rule complains about. -/
theorem exists_rule {tokens : List Token} {f : Finding} (h : c.registry = .ok r)
    (hf : f ∈ r.check tokens) :
    ∃ rule ∈ Rule.builtin, rule.code ∉ c.ignore ∧ f.code = rule.code ∧
      ∃ t ∈ rule.subjects r.vocabulary tokens, t.start = f.place := by
  obtain ⟨rule, hrule, hfinding⟩ := List.mem_flatMap.mp hf
  obtain ⟨hbuiltin, hignore⟩ := (mem_rules h).mp hrule
  have hrule := Rule.isTextual_of_mem_builtin hbuiltin
  exact ⟨rule, hbuiltin, hignore, Rule.code_of_mem_evaluate hrule hfinding,
    Rule.exists_subject hrule hfinding⟩

theorem pairwise_code (h : c.registry = .ok r) :
    r.rules.Pairwise fun a b => a.code < b.code := by
  obtain ⟨v, -, rfl⟩ := registry_eq_ok h
  have hbuiltin : Rule.builtin.Pairwise fun a b => a.code < b.code := by
    rw [← List.pairwise_map]
    decide
  exact hbuiltin.sublist List.filter_sublist

end Config

end TodoLint
