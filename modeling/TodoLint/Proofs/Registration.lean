import Mathlib.Data.List.Induction
import Mathlib.Data.List.Nodup
import TodoLint.Registry

/-!
Registries under calls. A registry answers calls that add a rule or leave rules out, and whatever
the calls, no two of its rules share a code (`calls_keep_codes_unique`).
-/

namespace TodoLint

namespace Registry

/-- A call that changes a registry. -/
inductive Call where
  | register (rule : Rule)
  | without (codes : List Nat)

/-- The answer to a call, and the registry after it. A call that is refused leaves the registry as
it is. -/
def call (r : Registry) : Call → Except DuplicateCode Unit × Registry
  | .register rule =>
      match r.register rule with
      | .ok longer => (.ok (), longer)
      | .error fault => (.error fault, r)
  | .without codes => (.ok (), r.without codes)

/-- The registry after several calls. -/
def after (r : Registry) (calls : List Call) : Registry :=
  calls.foldl (fun s c => (s.call c).2) r

/-- A registry as it is made. -/
inductive Made : Registry → Prop
  | ofRules {v : Vocabulary} {rules : List Rule} {r : Registry} (h : ofRules v rules = .ok r) :
      Made r
  | builtin {v : Vocabulary} {r : Registry} (h : builtin v = .ok r) : Made r
  | default : Made default

variable {r : Registry} {rule : Rule} {code : Nat}

/-! ### Codes -/

theorem isSome_get?_iff : (r.get? code).isSome = true ↔ code ∈ r.codes := by
  simp [get?, codes]

theorem get?_eq_some_iff (h : r.codes.Nodup) :
    r.get? code = some rule ↔ r.rules.filter (·.code == code) = [rule] := by
  rw [get?, ← List.head?_filter]
  constructor
  · intro hhead
    obtain ⟨others, hothers⟩ := List.head?_eq_some_iff.mp hhead
    have hcodes : ((rule :: others).map (·.code)).Nodup := by
      rw [← hothers]
      exact h.sublist (List.filter_sublist.map _)
    have hcode : ∀ x ∈ rule :: others, x.code = code := by
      intro x hx
      rw [← hothers] at hx
      simpa using (List.mem_filter.mp hx).2
    -- A second rule would have the code of the first.
    cases others with
    | nil => exact hothers
    | cons x others =>
        simp only [List.map_cons, List.nodup_cons, List.mem_cons, not_or] at hcodes
        have hrule := hcode rule (by simp)
        have hx := hcode x (by simp)
        exact absurd (hrule.trans hx.symm) hcodes.1.1
  · intro hfilter
    rw [hfilter]
    rfl

/-! ### Calls -/

theorem register_of_mem (h : rule.code ∈ r.codes) : r.register rule = .error ⟨rule.code⟩ := by
  rw [register, if_pos (isSome_get?_iff.mpr h)]

theorem register_of_notMem (h : rule.code ∉ r.codes) :
    r.register rule = .ok { r with rules := r.rules ++ [rule] } := by
  rw [register, if_neg (mt isSome_get?_iff.mp h)]

theorem call_register_of_mem (h : rule.code ∈ r.codes) :
    r.call (.register rule) = (.error ⟨rule.code⟩, r) := by
  rw [call, register_of_mem h]

theorem call_register_of_notMem (h : rule.code ∉ r.codes) :
    r.call (.register rule) = (.ok (), { r with rules := r.rules ++ [rule] }) := by
  rw [call, register_of_notMem h]

theorem call_without (codes : List Nat) :
    r.call (.without codes) =
      (.ok (), { r with rules := r.rules.filter fun rule => rule.code ∉ codes }) := by
  simp [call, without]

theorem nodup_codes_call (h : r.codes.Nodup) (c : Call) : (r.call c).2.codes.Nodup := by
  cases c with
  | register rule =>
      by_cases hcode : rule.code ∈ r.codes
      · rwa [call_register_of_mem hcode]
      · rw [call_register_of_notMem hcode, codes, List.map_append, List.map_singleton,
          ← List.concat_eq_append]
        exact h.concat hcode
  | without codes => exact h.sublist (List.filter_sublist.map _)

theorem nodup_codes_after (h : r.codes.Nodup) (calls : List Call) :
    (r.after calls).codes.Nodup := by
  unfold after
  induction calls generalizing r with
  | nil => exact h
  | cons c calls ih => exact ih (nodup_codes_call h c)

/-! ### Registries of given rules -/

theorem foldlM_register_of_nodup {rules : List Rule}
    (h : (r.codes ++ rules.map (·.code)).Nodup) :
    rules.foldlM register r = .ok { r with rules := r.rules ++ rules } := by
  -- The rules move to the registry one by one, and the codes of both together stay the same list.
  induction rules generalizing r with
  | nil => simp [pure, Except.pure]
  | cons rule rules ih =>
      have hcode : rule.code ∉ r.codes := by
        intro hmem
        exact List.disjoint_of_nodup_append h hmem (by simp)
      have hrest := @ih { r with rules := r.rules ++ [rule] } (by simpa [codes] using h)
      rw [List.foldlM_cons, register_of_notMem hcode]
      simpa [bind, Except.bind] using hrest

theorem ofRules_of_nodup (v : Vocabulary) {rules : List Rule}
    (h : (rules.map (·.code)).Nodup) : ofRules v rules = .ok ⟨v, rules⟩ := by
  exact @foldlM_register_of_nodup ⟨v, []⟩ rules h

theorem ofRules_of_repeated (v : Vocabulary) {front back : List Rule}
    (h : (front.map (·.code)).Nodup) (hcode : rule.code ∈ front.map (·.code)) :
    ofRules v (front ++ rule :: back) = .error ⟨rule.code⟩ := by
  have hfront : front.foldlM register ⟨v, []⟩ = .ok ⟨v, front⟩ := ofRules_of_nodup v h
  have htaken : (⟨v, front⟩ : Registry).register rule = .error ⟨rule.code⟩ :=
    register_of_mem hcode
  rw [Registry.ofRules, List.foldlM_append, hfront]
  simp [bind, Except.bind, htaken]

theorem exists_repeated {rules : List Rule} (h : ¬ (rules.map (·.code)).Nodup) :
    ∃ front rule back, front ++ rule :: back = rules ∧ (front.map (·.code)).Nodup ∧
      rule.code ∈ front.map (·.code) := by
  -- From the end, since the repeated code that counts is the first one.
  induction rules using List.reverseRecOn with
  | nil => simp at h
  | append_singleton rules last ih =>
      by_cases hrules : (rules.map (·.code)).Nodup
      · refine ⟨rules, last, [], rfl, hrules, ?_⟩
        by_contra hlast
        rw [List.map_append, List.map_singleton, ← List.concat_eq_append] at h
        exact h (hrules.concat hlast)
      · obtain ⟨front, rule, back, rfl, hfront, hcode⟩ := ih hrules
        exact ⟨front, rule, back ++ [last], by simp, hfront, hcode⟩

theorem ofRules_eq_ok_iff {v : Vocabulary} {rules : List Rule} :
    ofRules v rules = .ok r ↔ (rules.map (·.code)).Nodup ∧ r = ⟨v, rules⟩ := by
  by_cases h : (rules.map (·.code)).Nodup
  · simp [ofRules_of_nodup v h, h, eq_comm]
  · obtain ⟨front, rule, back, rfl, hfront, hcode⟩ := exists_repeated h
    rw [ofRules_of_repeated v hfront hcode]
    simp only [reduceCtorEq, h, false_and]

theorem ofRules_eq_error_iff {v : Vocabulary} {rules : List Rule} {fault : DuplicateCode} :
    ofRules v rules = .error fault ↔
      ∃ front rule back, front ++ rule :: back = rules ∧ (front.map (·.code)).Nodup ∧
        rule.code ∈ front.map (·.code) ∧ fault = ⟨rule.code⟩ := by
  constructor
  · intro herror
    by_cases h : (rules.map (·.code)).Nodup
    · rw [ofRules_of_nodup v h] at herror
      cases herror
    · obtain ⟨front, rule, back, rfl, hfront, hcode⟩ := exists_repeated h
      rw [ofRules_of_repeated v hfront hcode] at herror
      exact ⟨front, rule, back, rfl, hfront, hcode, (Except.error.inj herror).symm⟩
  · rintro ⟨front, rule, back, rfl, hfront, hcode, rfl⟩
    exact ofRules_of_repeated v hfront hcode

theorem Made.nodup_codes (h : r.Made) : r.codes.Nodup := by
  have hbuiltin : (Rule.builtin.map (·.code)).Nodup := by decide
  cases h with
  | ofRules h =>
      obtain ⟨hrules, rfl⟩ := ofRules_eq_ok_iff.mp h
      exact hrules
  | builtin h =>
      obtain ⟨hrules, rfl⟩ := ofRules_eq_ok_iff.mp h
      exact hrules
  | default => exact hbuiltin

/-- However a registry is made and changed, its codes are unique: a code leads to the only rule that
has it, or to none if no rule does. A rule whose code is taken is refused and changes nothing, and
any other rule comes last. Given rules make a registry, in their order, if and only if their codes
differ, and else the first code that occurs again is reported. -/
theorem calls_keep_codes_unique :
    (∀ {start : Registry}, start.Made → ∀ calls : List Call,
      let r := start.after calls
      r.codes.Nodup ∧
      (∀ code, (r.get? code).isSome = true ↔ code ∈ r.codes) ∧
      (∀ code rule, r.get? code = some rule ↔ r.rules.filter (·.code == code) = [rule]) ∧
      (∀ rule, rule.code ∈ r.codes → r.call (.register rule) = (.error ⟨rule.code⟩, r)) ∧
      (∀ rule, rule.code ∉ r.codes →
        r.call (.register rule) = (.ok (), { r with rules := r.rules ++ [rule] })) ∧
      ∀ codes, r.call (.without codes) =
        (.ok (), { r with rules := r.rules.filter fun rule => rule.code ∉ codes })) ∧
    (∀ v rules r, ofRules v rules = .ok r ↔
      (rules.map (·.code)).Nodup ∧ r = ⟨v, rules⟩) ∧
    (∀ v rules fault, ofRules v rules = .error fault ↔
      ∃ front rule back, front ++ rule :: back = rules ∧ (front.map (·.code)).Nodup ∧
        rule.code ∈ front.map (·.code) ∧ fault = ⟨rule.code⟩) := by
  refine ⟨?_, fun _ _ _ => ofRules_eq_ok_iff, fun _ _ _ => ofRules_eq_error_iff⟩
  intro start hstart calls r
  have hcodes : r.codes.Nodup := nodup_codes_after hstart.nodup_codes calls
  refine ⟨hcodes, fun _ => isSome_get?_iff, fun _ _ => get?_eq_some_iff hcodes, ?_, ?_, ?_⟩
  · intro rule hcode
    exact call_register_of_mem hcode
  · intro rule hcode
    exact call_register_of_notMem hcode
  · intro codes
    exact call_without codes

/-- A rule that is refused, and that comes last once the rule with its code is left out. -/
theorem codes_unique_ticket :
    let ticket := Rule.demanding 3 "ticket" "add a ticket" fun _ head => head.contains '#'
    let r := Registry.default.after [.register ticket, .without [3, 7], .register ticket]
    Registry.default.Made ∧ r.codes = [1, 2, 4, 5, 6, 3] ∧ r.codes.Nodup ∧
      r.get? 3 = some ticket ∧ r.call (.register ticket) = (.error ⟨3⟩, r) := by
  intro ticket r
  obtain ⟨hcodes, -, hget, hregister, -⟩ := calls_keep_codes_unique.1 .default
    [.register ticket, .without [3, 7], .register ticket]
  exact ⟨.default, rfl, hcodes, (hget 3 ticket).mpr rfl, hregister ticket (by decide)⟩

end Registry

end TodoLint
