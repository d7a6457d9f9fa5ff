import Mathlib.Data.Char
import TodoLint.Text.Blank
import TodoLint.Text.Folding

/-!
White space and letter case. Neither folding nor the lower case of an ASCII letter turns a
letter into white space or back, so a text can be trimmed before or after. On ASCII letters but
`k` and `s` the two agree (`toLower_eq_fold`).
-/

namespace TodoLint.Text

theorem CodePoints.exists_of_contains {n : Nat} {table : CodePoints}
    (h : table.contains n = true) : ∃ i ∈ table, i.1 ≤ n ∧ n ≤ i.2 := by
  induction table with
  | nil => simp [CodePoints.contains] at h
  | cons i table ih =>
      rw [CodePoints.contains] at h
      split at h
      · cases h
      · rename_i hfirst
        rcases Bool.or_eq_true_iff.mp h with hlast | hrest
        · exact ⟨i, List.mem_cons_self, Nat.le_of_not_lt hfirst, by simpa using hlast⟩
        · obtain ⟨j, hj, hn⟩ := ih hrest
          exact ⟨j, List.mem_cons_of_mem i hj, hn⟩

theorem StrideMap.exists_run_of_find? {n image : Nat} {table : StrideMap}
    (h : table.find? n = some image) :
    ∃ m ∈ table, m.run.contains n = true ∧ image = m.target + (n - m.run.first) := by
  induction table with
  | nil => simp [StrideMap.find?] at h
  | cons m table ih =>
      rw [StrideMap.find?] at h
      split at h
      · cases h
      · split at h
        · rename_i hrun
          exact ⟨m, List.mem_cons_self, hrun, (Option.some.inj h).symm⟩
        · obtain ⟨j, hj, hn⟩ := ih h
          exact ⟨j, List.mem_cons_of_mem m hj, hn⟩

theorem StrideMap.exists_of_find? {n image : Nat} {table : StrideMap}
    (h : table.find? n = some image) :
    ∃ m ∈ table, m.run.first ≤ n ∧ n ≤ m.run.last ∧ image = m.target + (n - m.run.first) := by
  obtain ⟨m, hm, hrun, himage⟩ := exists_run_of_find? h
  simp only [Stride.contains, Bool.and_eq_true, decide_eq_true_eq] at hrun
  exact ⟨m, hm, hrun.1.1, hrun.1.2, himage⟩

theorem exists_of_isBlank {c : Char} (h : isBlank c = true) :
    ∃ i ∈ whiteSpace, i.1 ≤ c.toNat ∧ c.toNat ≤ i.2 :=
  CodePoints.exists_of_contains h

theorem whiteSpace_disjoint_run : ∀ i ∈ whiteSpace, ∀ m ∈ simpleFolding,
    m.run.last < i.1 ∨ i.2 < m.run.first := by
  decide +kernel

theorem whiteSpace_disjoint_target : ∀ i ∈ whiteSpace, ∀ m ∈ simpleFolding,
    m.target + (m.run.last - m.run.first) < i.1 ∨ i.2 < m.target := by
  decide +kernel

theorem whiteSpace_pos : ∀ i ∈ whiteSpace, 0 < i.1 := by
  decide

theorem toNat_ofNat_eq_or (n : Nat) :
    (Char.ofNat n).toNat = n ∨ (Char.ofNat n).toNat = 0 := by
  by_cases hn : n.isValidChar
  · exact .inl (congrArg Char.toNat (dif_pos hn))
  · exact .inr (congrArg Char.toNat (dif_neg hn))

theorem isBlank_fold (c : Char) : isBlank (fold c) = isBlank c := by
  unfold fold StrideMap.apply
  cases hfind : simpleFolding.find? c.toNat with
  | none => rfl
  | some image =>
      obtain ⟨m, hm, hfirst, hlast, rfl⟩ := StrideMap.exists_of_find? hfind
      have hc : isBlank c = false := by
        rw [Bool.eq_false_iff]
        intro hblank
        obtain ⟨i, hi, hle, hge⟩ := exists_of_isBlank hblank
        have hdisjoint := whiteSpace_disjoint_run i hi m hm
        omega
      rw [hc, Option.map_some, Option.getD_some, Bool.eq_false_iff]
      intro hblank
      obtain ⟨i, hi, hle, hge⟩ := exists_of_isBlank hblank
      have hdisjoint := whiteSpace_disjoint_target i hi m hm
      have hpositive := whiteSpace_pos i hi
      rcases toNat_ofNat_eq_or (m.target + (c.toNat - m.run.first)) with htoNat | htoNat
      · omega
      · omega

theorem toLower_eq_or_exists (c : Char) :
    c.toLower = c ∨ ∃ n ∈ List.range' 65 26, Char.ofNat n = c := by
  by_cases hc : c.val ≥ 'A'.val ∧ c.val ≤ 'Z'.val
  · have hrange : 65 ≤ c.toNat ∧ c.toNat ≤ 90 := hc
    refine .inr ⟨c.toNat, ?_, Char.ofNat_toNat c⟩
    rw [List.mem_range'_1]
    omega
  · left
    exact dif_neg hc

theorem fold_toLower (c : Char) : fold c.toLower = fold c := by
  rcases toLower_eq_or_exists c with hc | ⟨n, hn, rfl⟩
  · rw [hc]
  · revert n
    decide +kernel

/-- Of all runs that fold to lower-case ASCII letters, those outside ASCII are single characters
that fold to `k` and `s`. -/
theorem run_of_target_ascii : ∀ m ∈ simpleFolding, m.target ≤ 122 →
    97 ≤ m.target + (m.run.last - m.run.first) →
      m.run.last ≤ 90 ∧ 65 ≤ m.run.first ∨
        m.run.last = m.run.first ∧ (m.target = 107 ∨ m.target = 115) := by
  decide +kernel

theorem fold_eq_toLower_of_upper : ∀ n ∈ List.range' 65 26,
    fold (Char.ofNat n) = (Char.ofNat n).toLower := by
  decide +kernel

theorem fold_eq_self_of_not_upper {c : Char} (hupper : ¬ (65 ≤ c.toNat ∧ c.toNat ≤ 90))
    (hlow : 97 ≤ (fold c).toNat) (hhigh : (fold c).toNat ≤ 122) (hk : fold c ≠ 'k')
    (hs : fold c ≠ 's') : fold c = c := by
  cases hfind : simpleFolding.find? c.toNat with
  | none => simp [fold, StrideMap.apply, hfind]
  | some image =>
      exfalso
      have hfold : fold c = Char.ofNat image := by simp [fold, StrideMap.apply, hfind]
      obtain ⟨m, hm, hfirst, hlast, rfl⟩ := StrideMap.exists_of_find? hfind
      have himage : (fold c).toNat = m.target + (c.toNat - m.run.first) := by
        rw [hfold]
        rcases toNat_ofNat_eq_or (m.target + (c.toNat - m.run.first)) with htoNat | htoNat
        · exact htoNat
        · rw [hfold, htoNat] at hlow
          omega
      rcases run_of_target_ascii m hm (by omega) (by omega) with ⟨hupto, hfrom⟩ | ⟨hsingle, htarget⟩
      · exact hupper ⟨by omega, by omega⟩
      · have htoNat : (fold c).toNat = m.target := by omega
        rcases htarget with htarget | htarget
        · exact hk (Char.toNat_inj.mp (htoNat.trans htarget))
        · exact hs (Char.toNat_inj.mp (htoNat.trans htarget))

/-- An ASCII letter other than `k` and `s` is folded to only from itself and its capital. -/
theorem toLower_eq_fold {c : Char} (hlow : 97 ≤ (fold c).toNat) (hhigh : (fold c).toNat ≤ 122)
    (hk : fold c ≠ 'k') (hs : fold c ≠ 's') : c.toLower = fold c := by
  by_cases hupper : 65 ≤ c.toNat ∧ c.toNat ≤ 90
  · have hmem : c.toNat ∈ List.range' 65 26 := by
      rw [List.mem_range'_1]
      omega
    have hfold := fold_eq_toLower_of_upper c.toNat hmem
    rw [Char.ofNat_toNat] at hfold
    exact hfold.symm
  · rw [fold_eq_self_of_not_upper hupper hlow hhigh hk hs]
    exact dif_neg hupper

theorem isBlank_toLower (c : Char) : isBlank c.toLower = isBlank c := by
  rcases toLower_eq_or_exists c with hc | ⟨n, hn, rfl⟩
  · rw [hc]
  · revert n
    decide +kernel

section Trim

variable {f : Char → Char}

theorem trimStart_map (hf : ∀ c, isBlank (f c) = isBlank c) (cs : List Char) :
    trimStart (cs.map f) = (trimStart cs).map f := by
  have hblank : isBlank ∘ f = isBlank := funext hf
  rw [trimStart, List.dropWhile_map, hblank, trimStart]

/-- A map that keeps white space apart from the rest may be applied before trimming or after. -/
theorem trim_map (hf : ∀ c, isBlank (f c) = isBlank c) (cs : List Char) :
    trim (cs.map f) = (trim cs).map f := by
  change (trimStart (trimStart (cs.map f)).reverse).reverse =
    (trimStart (trimStart cs).reverse).reverse.map f
  rw [trimStart_map hf, ← List.map_reverse, trimStart_map hf, List.map_reverse]

end Trim

theorem trim_prefix_trimStart (cs : List Char) : trim cs <+: trimStart cs := by
  unfold trim trimEnd
  rw [← List.reverse_suffix, List.reverse_reverse]
  exact List.dropWhile_suffix isBlank

theorem trimEnd_append (front : List Char) {cs : List Char} (h : allBlank cs = false) :
    trimEnd (front ++ cs) = front ++ trimEnd cs := by
  have hne : cs.reverse.dropWhile isBlank ≠ [] := by
    rw [← trimStart, ne_eq, trimStart_eq_nil_iff, allBlank, List.all_reverse, ← allBlank, h]
    exact Bool.false_ne_true
  unfold trimEnd
  rw [List.reverse_append, List.dropWhile_append, if_neg (by simpa using hne),
    List.reverse_append, List.reverse_reverse]

theorem trim_isInfix (cs : List Char) : trim cs <:+: cs :=
  (trim_prefix_trimStart cs).isInfix.trans (List.dropWhile_suffix isBlank).isInfix

/-- Trimmed text does not begin with white space. -/
theorem isBlank_of_trim_eq_cons {cs rest : List Char} {c : Char} (h : trim cs = c :: rest) :
    isBlank c = false := by
  obtain ⟨back, hback⟩ := trim_prefix_trimStart cs
  have hhead := List.head?_dropWhile_not isBlank cs
  rwa [← trimStart, ← hback, h] at hhead

/-- Trimmed text does not end with white space. -/
theorem allBlank_of_suffix_trim {cs rest : List Char} (h : rest <:+ trim cs) (hne : rest ≠ []) :
    allBlank rest = false := by
  obtain ⟨c, back, hback⟩ := List.exists_cons_of_ne_nil (List.reverse_ne_nil_iff.mpr hne)
  have hprefix : rest.reverse <+: (trimStart cs).reverse.dropWhile isBlank := by
    rw [trim, trimEnd] at h
    rwa [← List.reverse_suffix, List.reverse_reverse]
  obtain ⟨front, hfront⟩ := hprefix
  have hhead := List.head?_dropWhile_not isBlank (trimStart cs).reverse
  rw [← hfront, hback] at hhead
  have hc : c ∈ rest := by
    rw [← List.mem_reverse, hback]
    exact List.mem_cons_self
  rw [allBlank, List.all_eq_false]
  exact ⟨c, hc, by simpa using hhead⟩

end TodoLint.Text
