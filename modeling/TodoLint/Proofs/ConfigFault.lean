import TodoLint.Proofs.Registry
import TodoLint.Proofs.Vocabulary

/-!
The faults of a configuration, all of them and in the order in which they are looked for. The
first one is reported, and a configuration without faults has a registry of the built-in rules
that are not ignored (`registry_outcome`).
-/

namespace TodoLint

open Text

/-- A value that is given unless there are faults. The first of them is given in its place. -/
def unlessFaulty {ε α : Type} (faults : List ε) (value : Except ε α) : Except ε α :=
  match faults with
  | [] => value
  | fault :: _ => .error fault

section Faults

variable {ε α β : Type} {value : Except ε α}

theorem unlessFaulty_append (faults later : List ε) :
    unlessFaulty (faults ++ later) value = unlessFaulty faults (unlessFaulty later value) := by
  cases faults with
  | nil => rfl
  | cons fault faults => rfl

theorem unlessFaulty_ite {p : Prop} [Decidable p] {test : Bool} (h : p ↔ test = true)
    (fault : ε) : unlessFaulty (if p then [fault] else []) value =
      if test then .error fault else value := by
  by_cases hp : p
  · rw [if_pos hp, if_pos (h.mp hp)]
    rfl
  · rw [if_neg hp, if_neg (mt h.mpr hp)]
    rfl

theorem unlessFaulty_filter (p : β → Bool) (fault : β → ε) (xs : List β) :
    unlessFaulty ((xs.filter p).map fault) value =
      match xs.find? p with
      | some x => .error (fault x)
      | none => value := by
  rw [← List.head?_filter]
  cases xs.filter p with
  | nil => rfl
  | cons x _ => rfl

theorem unlessFaulty_eq_ok_iff {faults : List ε} {a : α} :
    unlessFaulty faults value = .ok a ↔ faults = [] ∧ value = .ok a := by
  cases faults with
  | nil => simp [unlessFaulty]
  | cons fault faults => simp [unlessFaulty]

theorem unlessFaulty_eq_error_iff {faults : List ε} {a : α} {fault : ε} :
    unlessFaulty faults (.ok a) = .error fault ↔ faults.head? = some fault := by
  cases faults with
  | nil => simp [unlessFaulty]
  | cons first faults => simp [unlessFaulty]

end Faults

namespace Vocabulary

variable {tags badTags : List String}

/-- The faults of two lists of tags. -/
def faults (tags badTags : List String) : List VocabularyFault :=
  (if ∀ tag ∈ tags, isBlankTag tag then [.noTags] else []) ++
    ((tags ++ badTags).filter isBlankTag).map .blankTag ++
    (if ∀ tag ∈ tags, ¬ sameAscii tag canonicalTag then [.noCanonicalTag] else []) ++
    (if ∃ bad ∈ badTags, sameAscii bad canonicalTag then [.badCanonicalTag] else []) ++
    (badTags.filter fun bad => ∀ tag ∈ tags, ¬ sameAscii tag bad).map .unlistedTag

theorem ofTags_eq (tags badTags : List String) :
    ofTags tags badTags = unlessFaulty (faults tags badTags) (.ok ⟨tags, badTags⟩) := by
  have hblank : (∀ tag ∈ tags, isBlankTag tag) ↔ tags.all isBlankTag = true := by simp
  have hcanonical : (∀ tag ∈ tags, ¬ sameAscii tag canonicalTag) ↔
      (!listed tags canonicalTag) = true := by simp [listed]
  have hbad : (∃ bad ∈ badTags, sameAscii bad canonicalTag) ↔
      listed badTags canonicalTag = true := by simp [listed]
  have hunlisted : (fun bad => decide (∀ tag ∈ tags, ¬ sameAscii tag bad)) = (!listed tags ·) := by
    funext bad
    rw [Bool.eq_iff_iff]
    simp [listed]
  rw [faults, unlessFaulty_append, unlessFaulty_append, unlessFaulty_append, unlessFaulty_append,
    unlessFaulty_ite hblank, unlessFaulty_filter, unlessFaulty_ite hcanonical,
    unlessFaulty_ite hbad, hunlisted, unlessFaulty_filter]
  unfold ofTags
  cases (tags ++ badTags).find? isBlankTag with
  | some tag => rfl
  | none =>
      cases badTags.find? (!listed tags ·) with
      | some bad => rfl
      | none => rfl

theorem faults_eq_nil_iff : faults tags badTags = [] ↔ tags ≠ [] ∧
    (∀ tag ∈ tags ++ badTags, isBlankTag tag = false) ∧
    (∃ tag ∈ tags, sameAscii tag canonicalTag = true) ∧
    (∀ bad ∈ badTags, sameAscii bad canonicalTag = false) ∧
    ∀ bad ∈ badTags, ∃ tag ∈ tags, sameAscii tag bad = true := by
  have hnotAll : (∃ tag ∈ tags, isBlankTag tag = false) ∧
      (∀ tag ∈ tags ++ badTags, isBlankTag tag = false) ↔
      tags ≠ [] ∧ ∀ tag ∈ tags ++ badTags, isBlankTag tag = false := by
    refine and_congr_left fun hblank => ?_
    constructor
    · rintro ⟨tag, htag, -⟩
      exact List.ne_nil_of_mem htag
    · intro hne
      obtain ⟨tag, htag⟩ := List.exists_mem_of_ne_nil tags hne
      exact ⟨tag, htag, hblank tag (List.mem_append_left badTags htag)⟩
  rw [← and_assoc, ← hnotAll]
  simp [faults, or_imp, forall_and, and_assoc]

end Vocabulary

namespace Config

/-- The faults of a configuration. -/
def faults (c : Config) : List ConfigFault :=
  (c.ignore.filter (· ∉ builtinCodes)).map .unknownCode ++
    (Vocabulary.faults c.tags c.badTags).map .vocabulary

variable {c : Config} {r : Registry}

theorem registry_eq (c : Config) :
    c.registry = unlessFaulty (c.faults.map Failure.badConfig)
      (.ok ((⟨⟨c.tags, c.badTags⟩, Rule.builtin⟩ : Registry).without c.ignore)) := by
  have hunknown : (fun code => decide (code ∉ builtinCodes)) =
      (!(Rule.builtin.map (·.code)).contains ·) := by
    funext code
    rw [Bool.eq_iff_iff]
    simp [builtinCodes]
  rw [registry, unknownCode?, vocabulary, Vocabulary.ofTags_eq, faults, List.map_append,
    List.map_map, unlessFaulty_append, hunknown, unlessFaulty_filter]
  cases c.ignore.find? (!(Rule.builtin.map (·.code)).contains ·) with
  | some code => rfl
  | none =>
      cases Vocabulary.faults c.tags c.badTags with
      | nil => rfl
      | cons fault faults => rfl

theorem faults_eq_nil_iff : c.faults = [] ↔
    (∀ code ∈ c.ignore, code ∈ builtinCodes) ∧ Vocabulary.faults c.tags c.badTags = [] := by
  simp [faults]

theorem codes_of_registry (h : c.registry = .ok r) :
    r.codes = builtinCodes.filter (· ∉ c.ignore) := by
  obtain ⟨v, -, rfl⟩ := registry_eq_ok h
  simp [Registry.codes, Registry.without, builtinCodes, List.filter_map, Function.comp_def]

/-- A configuration is accepted if it ignores built-in rules alone, lists tags of which none is
blank, among them the canonical one, and discourages listed tags other than that one. The
built-in rules that it does not ignore are then registered, in the order of their codes. In
every other case the first of its faults is reported. -/
theorem registry_outcome (c : Config) :
    ((∃ r, c.registry = .ok r) ↔
      (∀ code ∈ c.ignore, code ∈ [1, 2, 3, 4, 5, 6, 7]) ∧ c.tags ≠ [] ∧
        (∀ tag ∈ c.tags ++ c.badTags, isBlankTag tag = false) ∧
        (∃ tag ∈ c.tags, sameAscii tag canonicalTag = true) ∧
        (∀ bad ∈ c.badTags, sameAscii bad canonicalTag = false) ∧
        ∀ bad ∈ c.badTags, ∃ tag ∈ c.tags, sameAscii tag bad = true) ∧
      (∀ r, c.registry = .ok r → r.codes = [1, 2, 3, 4, 5, 6, 7].filter (· ∉ c.ignore)) ∧
      ∀ failure, c.registry = .error failure ↔
        ∃ fault, c.faults.head? = some fault ∧ failure = .badConfig fault := by
  refine ⟨?_, fun r hr => codes_of_registry hr, fun failure => ?_⟩
  · rw [← Vocabulary.faults_eq_nil_iff]
    refine Iff.trans ?_ faults_eq_nil_iff
    rw [registry_eq]
    simp [unlessFaulty_eq_ok_iff]
  · rw [registry_eq, unlessFaulty_eq_error_iff, List.head?_map, Option.map_eq_some_iff]
    exact exists_congr fun fault => and_congr_right fun _ => eq_comm

example : (⟨["FIXME", " "], ["BUG", "todo"], [3, 8, 9]⟩ : Config).faults =
    [.unknownCode 8, .unknownCode 9, .vocabulary (.blankTag " "), .vocabulary .noCanonicalTag,
      .vocabulary .badCanonicalTag, .vocabulary (.unlistedTag "BUG"),
      .vocabulary (.unlistedTag "todo")] := by
  decide

end Config

end TodoLint
