import Mathlib.Data.List.Basic
import TodoLint.Proofs.Text.Folding
import TodoLint.Text.Bytes
import TodoLint.Text.LetterCase

/-!
Upper-case forms. A form that differs from its character has no lower-case character and at least
one upper-case character, so a text becomes upper-case unless it has a lower-case character without
another form, or no letter with two cases (`isUpperText_upperText_iff`). Most ASCII letters keep
their folding and their number of bytes (`Capitalises`).
-/

namespace TodoLint.Text

/-! ### Runs and tables -/

namespace Strides

/-- No member of the run from `first` to `last` belongs to the table. -/
def avoids (first last step : Nat) : Strides → Bool
  | [] => true
  | r :: rest =>
      if r.last < first then avoids first last step rest
      else if last < r.first then true
      else
        (first == last || step % 2 == 0) && r.step % 2 == 0 && first % 2 != r.first % 2 &&
          avoids first last step rest

/-- All members of the run from `first` to `last` belong to the table. -/
def covers (last step : Nat) : Nat → Strides → Bool
  | _, [] => false
  | first, r :: rest =>
      r.first ≤ first &&
        if r.last < first then covers last step first rest
        else
          (first - r.first) % r.step == 0 &&
            (step % r.step == 0 || r.last < first + step || last < first + step) &&
              (last < first + step * ((r.last - first) / step + 1) ||
                covers last step (first + step * ((r.last - first) / step + 1)) rest)

variable {table : Strides} {first last step k : Nat}

theorem contains_of_avoids (h : table.avoids first last step = true)
    (hlast : first + step * k ≤ last) : table.contains (first + step * k) = false := by
  induction table with
  | nil => rfl
  | cons r rest ih =>
      rw [contains]
      split
      · rfl
      · rename_i hn
        rw [avoids] at h
        split at h
        · rw [ih h, Bool.or_false]
          simp only [Stride.contains, Bool.and_eq_false_iff, decide_eq_false_iff_not]
          omega
        · rw [if_neg (by omega)] at h
          simp only [Bool.and_eq_true, Bool.or_eq_true, beq_iff_eq, bne_iff_ne] at h
          obtain ⟨⟨⟨hstep, hr⟩, hparity⟩, hrest⟩ := h
          -- both runs keep their parity
          have hmember : (first + step * k) % 2 = first % 2 := by
            rcases hstep with rfl | hstep
            · rw [show step * k = 0 by omega, Nat.add_zero]
            · rw [Nat.add_mod, Nat.mul_mod, hstep]
              simp
          have hother : ((first + step * k) - r.first) % r.step ≠ 0 := by
            intro hzero
            have hdvd : 2 ∣ (first + step * k) - r.first :=
              Nat.dvd_trans (Nat.dvd_of_mod_eq_zero hr) (Nat.dvd_of_mod_eq_zero hzero)
            omega
          rw [ih hrest, Bool.or_false]
          simp [Stride.contains, hother]

theorem contains_of_covers (h : table.covers last step first = true)
    (hlast : first + step * k ≤ last) : table.contains (first + step * k) = true := by
  induction table generalizing first k with
  | nil => cases h
  | cons r rest ih =>
      rw [covers, Bool.and_eq_true, decide_eq_true_eq] at h
      obtain ⟨hfirst, h⟩ := h
      rw [contains, if_neg (by omega)]
      split at h
      · rw [ih h hlast, Bool.or_true]
      · simp only [Bool.and_eq_true, Bool.or_eq_true, beq_iff_eq, decide_eq_true_eq] at h
        obtain ⟨⟨hstart, hstep⟩, hrest⟩ := h
        by_cases hn : first + step * k ≤ r.last
        · have hmember : (first + step * k - r.first) % r.step = 0 := by
            rcases Nat.eq_zero_or_pos k with rfl | hk
            · simpa using hstart
            · have hle : step ≤ step * k := Nat.le_mul_of_pos_right step hk
              have hdivides : step % r.step = 0 := by omega
              rw [Nat.sub_add_comm hfirst, Nat.add_mod, hstart, Nat.mul_mod, hdivides]
              simp
          simp [Stride.contains, hmember, hn]
          omega
        · obtain ⟨j, rfl⟩ : ∃ j, k = (r.last - first) / step + 1 + j := by
            apply Nat.exists_eq_add_of_le
            apply Nat.succ_le_of_lt
            apply Nat.div_lt_of_lt_mul
            omega
          rw [Nat.mul_add, ← Nat.add_assoc] at hlast ⊢
          rcases hrest with hend | hrest
          · omega
          · rw [ih hrest hlast, Bool.or_true]

end Strides

/-! ### Upper-case forms -/

theorem forms_avoid_lowerCase : ∀ m ∈ upperSingle,
    lowerCase.avoids m.target (m.target + (m.run.last - m.run.first)) m.run.step = true := by
  decide +kernel

theorem forms_cover_upperCase : ∀ m ∈ upperSingle,
    upperCase.covers (m.target + (m.run.last - m.run.first)) m.run.step m.target = true := by
  decide +kernel

theorem forms_valid : ∀ m ∈ upperSingle,
    m.target + (m.run.last - m.run.first) < 0xD800 ∨
      0xDFFF < m.target ∧ m.target + (m.run.last - m.run.first) < 0x110000 := by
  decide +kernel

theorem several_forms : ∀ entry ∈ upperSeveral,
    (∀ n ∈ entry.2, isLower (Char.ofNat n) = false) ∧
      ∃ n ∈ entry.2, isUpper (Char.ofNat n) = true := by
  decide +kernel

theorem single_form {n image : Nat} (h : upperSingle.find? n = some image) :
    isLower (Char.ofNat image) = false ∧ isUpper (Char.ofNat image) = true := by
  obtain ⟨m, hm, hrun, rfl⟩ := StrideMap.exists_run_of_find? h
  simp only [Stride.contains, Bool.and_eq_true, decide_eq_true_eq, beq_iff_eq] at hrun
  obtain ⟨⟨hfirst, hlast⟩, hstep⟩ := hrun
  obtain ⟨k, hk⟩ := Nat.dvd_of_mod_eq_zero hstep
  have hvalid : (m.target + (n - m.run.first)).isValidChar := by
    have hrange := forms_valid m hm
    unfold Nat.isValidChar
    omega
  have htoNat : (Char.ofNat (m.target + (n - m.run.first))).toNat =
      m.target + (n - m.run.first) := congrArg Char.toNat (dif_pos hvalid)
  rw [isLower, isUpper, htoNat, hk]
  have hle : m.target + m.run.step * k ≤ m.target + (m.run.last - m.run.first) := by omega
  exact ⟨Strides.contains_of_avoids (forms_avoid_lowerCase m hm) hle,
    Strides.contains_of_covers (forms_cover_upperCase m hm) hle⟩

/-- A form that differs from its character is not lower-case and has a capital. -/
theorem upper_cases (c : Char) : upper c = [c] ∨
    (∀ d ∈ upper c, isLower d = false) ∧ ∃ d ∈ upper c, isUpper d = true := by
  unfold upper
  cases hseveral : upperSeveral.lookup c.toNat with
  | some form =>
      right
      obtain ⟨front, back, htable, -⟩ := List.lookup_eq_some_iff.mp hseveral
      obtain ⟨hlower, n, hn, hupper⟩ := several_forms (c.toNat, form) (by simp [htable])
      constructor
      · simpa using hlower
      · exact ⟨Char.ofNat n, List.mem_map_of_mem hn, hupper⟩
  | none =>
      cases hsingle : upperSingle.find? c.toNat with
      | none =>
          left
          simp [StrideMap.apply, hsingle]
      | some image =>
          right
          obtain ⟨hlower, hupper⟩ := single_form hsingle
          simp [StrideMap.apply, hsingle, hlower, hupper]

variable {cs : List Char}

/-- The upper-case form of a text is in capitals if every lower-case character of the text has
another form, and one character is upper-case or has another form. -/
theorem isUpperText_upperText_iff : isUpperText (upperText cs) = true ↔
    (∀ c ∈ cs, isLower c = true → upper c ≠ [c]) ∧
      ∃ c ∈ cs, isUpper c = true ∨ upper c ≠ [c] := by
  have hlower : ∀ c, (∀ d ∈ upper c, isLower d = false) ↔ (isLower c = true → upper c ≠ [c]) := by
    intro c
    by_cases hform : upper c = [c]
    · simp [hform]
    · exact iff_of_true ((upper_cases c).resolve_left hform).1 fun _ => hform
  have hupper : ∀ c, (∃ d ∈ upper c, isUpper d = true) ↔ (isUpper c = true ∨ upper c ≠ [c]) := by
    intro c
    by_cases hform : upper c = [c]
    · simp [hform]
    · exact iff_of_true ((upper_cases c).resolve_left hform).2 (.inr hform)
  simp only [isUpperText, upperText, Bool.and_eq_true, List.all_flatMap, List.any_flatMap,
    List.all_eq_true, List.any_eq_true, Bool.not_eq_true', hlower, hupper]

/-! ### ASCII letters -/

/-- The upper-case form of a character is its ASCII capital, with the same folding and the same
number of bytes. -/
structure Capitalises (c : Char) : Prop where
  upper_eq : upper c = [c.toUpper]
  fold_eq : fold c.toUpper = fold c
  size_eq : c.toUpper.utf8Size = c.utf8Size
  isUpper_toUpper : isUpper c.toUpper = true
  isLower_toUpper : isLower c.toUpper = false

/-- The ASCII letters that no character outside ASCII folds to. -/
def plainLetters : List Char :=
  "abcdefghijlmnopqrtuvwxyz".toList

theorem letters_capitalise : ∀ n ∈ List.range' 65 26 ++ List.range' 97 26,
    upper (Char.ofNat n) = [(Char.ofNat n).toUpper] ∧
      fold (Char.ofNat n).toUpper = fold (Char.ofNat n) ∧
      (Char.ofNat n).toUpper.utf8Size = (Char.ofNat n).utf8Size ∧
      isUpper (Char.ofNat n).toUpper = true ∧ isLower (Char.ofNat n).toUpper = false := by
  decide +kernel

theorem exists_letter_of_fold {c : Char} (h : fold c ∈ plainLetters) :
    ∃ n ∈ List.range' 65 26 ++ List.range' 97 26, Char.ofNat n = c := by
  have hplain : (plainLetters.all fun l => 97 ≤ l.toNat ∧ l.toNat ≤ 122 ∧ l ≠ 'k' ∧ l ≠ 's') =
      true := by decide
  obtain ⟨hlow, hhigh, hk, hs⟩ := of_decide_eq_true (List.all_eq_true.mp hplain _ h)
  have hlower := toLower_eq_fold hlow hhigh hk hs
  rcases toLower_eq_or_exists c with hc | ⟨n, hn, hc⟩
  · rw [← hlower, hc] at hlow hhigh
    refine ⟨c.toNat, List.mem_append_right _ ?_, Char.ofNat_toNat c⟩
    rw [List.mem_range'_1]
    omega
  · exact ⟨n, List.mem_append_left _ hn, hc⟩

theorem capitalises_of_fold {c : Char} (h : fold c ∈ plainLetters) : Capitalises c := by
  obtain ⟨n, hn, rfl⟩ := exists_letter_of_fold h
  obtain ⟨hupper, hfold, hsize, hisUpper, hisLower⟩ := letters_capitalise n hn
  exact ⟨hupper, hfold, hsize, hisUpper, hisLower⟩

theorem upperText_eq_map (h : ∀ c ∈ cs, Capitalises c) : upperText cs = cs.map Char.toUpper := by
  rw [upperText, List.map_eq_flatMap]
  exact List.flatMap_congr fun c hc => (h c hc).upper_eq

theorem map_fold_upperText (h : ∀ c ∈ cs, Capitalises c) :
    (upperText cs).map fold = cs.map fold := by
  rw [upperText_eq_map h, List.map_map]
  exact List.map_congr_left fun c hc => (h c hc).fold_eq

theorem byteLength_upperText (h : ∀ c ∈ cs, Capitalises c) :
    byteLength (upperText cs) = byteLength cs := by
  rw [upperText_eq_map h]
  induction cs with
  | nil => rfl
  | cons c cs ih =>
      have hcs : ∀ d ∈ cs, Capitalises d := fun d hd => h d (List.mem_cons_of_mem c hd)
      rw [List.map_cons, byteLength, byteLength, (h c List.mem_cons_self).size_eq, ih hcs]

theorem isUpperText_upperText (hne : cs ≠ []) (h : ∀ c ∈ cs, Capitalises c) :
    isUpperText (upperText cs) = true := by
  rw [upperText_eq_map h, isUpperText, List.all_map, List.any_map, Bool.and_eq_true,
    List.all_eq_true, List.any_eq_true]
  obtain ⟨c, hc⟩ := List.exists_mem_of_ne_nil cs hne
  exact ⟨fun c hc => by simp [(h c hc).isLower_toUpper], c, hc, (h c hc).isUpper_toUpper⟩

end TodoLint.Text
