import Mathlib.Data.List.Infix
import TodoLint.Text.Pattern

/-!
What a pattern matches, without the order of its ways. A way of matching takes a stretch at the
start of the text that the pattern matches, whatever comes behind it (`Pattern.mem_rests_iff`), so
that a pattern occurs in a text exactly where one of its stretches does (`Pattern.occursIn_iff`).
-/

namespace TodoLint.Text.Pattern

/-- The stretches of text that a pattern matches. -/
def Matches : Pattern → List Char → Prop
  | empty, cs => cs = []
  | never, _ => False
  | one accepts, cs => ∃ c, [c] = cs ∧ accepts c = true
  | run accepts least most, cs =>
      (∀ c ∈ cs, accepts c = true) ∧ least ≤ cs.length ∧
        ∀ bound, most = some bound → cs.length ≤ bound
  | seq first second, cs =>
      ∃ front back, front ++ back = cs ∧ first.Matches front ∧ second.Matches back
  | either first second, cs => first.Matches cs ∨ second.Matches cs

variable {accepts : Char → Bool} {least : Nat} {most : Option Nat} {rest cs : List Char} {c : Char}

theorem matches_run_cons_iff :
    (run accepts least most).Matches (c :: cs) ↔
      accepts c = true ∧ most ≠ some 0 ∧
        (run accepts (least - 1) (most.map (· - 1))).Matches cs := by
  cases most with
  | none => simp [Matches, and_assoc]
  | some bound =>
      cases bound with
      | zero => simp [Matches]
      | succ bound => simp [Matches, and_assoc]

theorem matches_run_all_iff :
    (run accepts 0 none).Matches cs ↔ ∀ c ∈ cs, accepts c = true := by
  simp [Matches]

theorem matches_anyOf_iff {ps : List Pattern} :
    (anyOf ps).Matches cs ↔ ∃ p ∈ ps, p.Matches cs := by
  induction ps with
  | nil => simp [anyOf, Matches]
  | cons p ps ih =>
      have hcons : (anyOf (p :: ps)).Matches cs ↔ p.Matches cs ∨ (anyOf ps).Matches cs := Iff.rfl
      rw [hcons, ih, List.exists_mem_cons_iff]

theorem mem_runRests_cons :
    rest ∈ runRests accepts least most (c :: cs) ↔
      (accepts c = true ∧ most ≠ some 0 ∧
          rest ∈ runRests accepts (least - 1) (most.map (· - 1)) cs) ∨
        least = 0 ∧ rest = c :: cs := by
  have hlonger : rest ∈ (if (accepts c && most != some 0) = true then
      runRests accepts (least - 1) (most.map (· - 1)) cs else []) ↔
        accepts c = true ∧ most ≠ some 0 ∧
          rest ∈ runRests accepts (least - 1) (most.map (· - 1)) cs := by
    split
    · rename_i htaken
      rw [Bool.and_eq_true, bne_iff_ne] at htaken
      exact ⟨fun hmem => ⟨htaken.1, htaken.2, hmem⟩, fun h => h.2.2⟩
    · rename_i htaken
      rw [Bool.and_eq_true, bne_iff_ne] at htaken
      exact ⟨fun hmem => absurd hmem List.not_mem_nil, fun h => absurd ⟨h.1, h.2.1⟩ htaken⟩
  rw [runRests]
  by_cases hleast : least = 0
  · rw [if_pos hleast, List.mem_append, hlonger, List.mem_singleton, and_iff_right hleast]
  · rw [if_neg hleast, hlonger, or_iff_left (fun h => hleast h.1)]

theorem mem_runRests :
    rest ∈ runRests accepts least most cs ↔
      ∃ front, front ++ rest = cs ∧ (run accepts least most).Matches front := by
  induction cs generalizing least most with
  | nil =>
      constructor
      · intro hrest
        rw [runRests] at hrest
        split at hrest
        · rename_i hleast
          obtain rfl := List.mem_singleton.mp hrest
          exact ⟨[], rfl, by simp [Matches, hleast]⟩
        · exact absurd hrest List.not_mem_nil
      · rintro ⟨front, hsplit, hfront⟩
        obtain ⟨rfl, rfl⟩ := List.append_eq_nil_iff.mp hsplit
        have hleast : least = 0 := by simpa using hfront.2.1
        simp [runRests, hleast]
  | cons c cs ih =>
      rw [mem_runRests_cons, ih]
      constructor
      · rintro (⟨hc, hmost, front, rfl, hfront⟩ | ⟨rfl, rfl⟩)
        · exact ⟨c :: front, rfl, matches_run_cons_iff.mpr ⟨hc, hmost, hfront⟩⟩
        · exact ⟨[], rfl, by simp [Matches]⟩
      · rintro ⟨front, hsplit, hfront⟩
        cases front with
        | nil =>
            right
            exact ⟨by simpa using hfront.2.1, hsplit⟩
        | cons d front =>
            obtain ⟨rfl, rfl⟩ := List.cons.inj hsplit
            obtain ⟨hc, hmost, hfront⟩ := matches_run_cons_iff.mp hfront
            exact .inl ⟨hc, hmost, front, rfl, hfront⟩

/-- What a way of matching leaves over stands behind a stretch that the pattern matches, and each
such stretch is one of the ways. -/
theorem mem_rests_iff (p : Pattern) :
    rest ∈ p.rests cs ↔ ∃ front, front ++ rest = cs ∧ p.Matches front := by
  induction p generalizing rest cs with
  | empty => simp [rests, Matches]
  | never => simp [rests, Matches]
  | one accepts =>
      cases cs with
      | nil => simp [rests, Matches]
      | cons d cs =>
          simp only [rests, Matches]
          constructor
          · intro hrest
            split at hrest
            · rename_i hd
              exact ⟨[d], by rw [List.mem_singleton.mp hrest]; rfl, d, rfl, hd⟩
            · exact absurd hrest List.not_mem_nil
          · rintro ⟨front, hsplit, c, rfl, hc⟩
            obtain ⟨rfl, rfl⟩ := List.cons.inj hsplit
            rw [if_pos hc]
            exact List.mem_singleton_self _
  | run accepts least most => exact mem_runRests
  | seq first second ihfirst ihsecond =>
      simp only [rests, Matches, List.mem_flatMap, ihfirst, ihsecond]
      constructor
      · rintro ⟨middle, ⟨front, rfl, hfront⟩, back, rfl, hback⟩
        exact ⟨front ++ back, List.append_assoc _ _ _, front, back, rfl, hfront, hback⟩
      · rintro ⟨-, rfl, front, back, rfl, hfront, hback⟩
        exact ⟨back ++ rest, ⟨front, (List.append_assoc _ _ _).symm, hfront⟩, back, rfl, hback⟩
  | either first second ihfirst ihsecond =>
      simp only [rests, Matches, List.mem_append, ihfirst, ihsecond, and_or_left, exists_or]

theorem rests_ne_nil_iff (p : Pattern) :
    p.rests cs ≠ [] ↔ ∃ front, p.Matches front ∧ front <+: cs := by
  constructor
  · intro hne
    obtain ⟨rest, hrest⟩ := List.exists_mem_of_ne_nil _ hne
    obtain ⟨front, hsplit, hfront⟩ := (mem_rests_iff p).mp hrest
    exact ⟨front, hfront, rest, hsplit⟩
  · rintro ⟨front, hfront, rest, hsplit⟩
    exact List.ne_nil_of_mem ((mem_rests_iff p).mpr ⟨front, hsplit, hfront⟩)

/-- A pattern occurs in a text exactly if it matches one of its stretches. -/
theorem occursIn_iff (p : Pattern) :
    p.occursIn cs = true ↔ ∃ stretch, p.Matches stretch ∧ stretch <:+: cs := by
  induction cs with
  | nil =>
      have hstart := @rests_ne_nil_iff [] p
      simpa [occursIn] using hstart
  | cons c cs ih =>
      have hstart := @rests_ne_nil_iff (c :: cs) p
      simp only [occursIn, Bool.or_eq_true, Bool.not_eq_true', List.isEmpty_eq_false_iff, hstart,
        ih, List.infix_cons_iff, and_or_left, exists_or]

end TodoLint.Text.Pattern
