import Mathlib.Data.List.TakeWhile
import TodoLint.Token.Lexeme

/-!
All that a lexeme can be. `Lexeme.Reads` lists the ways to read the start of a text, with the
texts and quotes that each asks for, and `Lexeme.reads_read` says that there are no others.
-/

namespace TodoLint

open Text

/-- A character that opens neither a comment nor a string literal. -/
def IsPlain (c : Char) : Prop :=
  c ≠ '#' ∧ isQuote c = false

theorem isPlain_of_class {accepts : Char → Bool} {c : Char} (h : accepts c = true)
    (hhash : accepts '#' = false) (hdouble : accepts '"' = false)
    (hsingle : accepts '\'' = false) : IsPlain c := by
  refine ⟨?_, ?_⟩
  · rintro rfl
    simp [hhash] at h
  · by_contra hquote
    simp only [isQuote, Bool.not_eq_false, Bool.or_eq_true, beq_iff_eq] at hquote
    rcases hquote with rfl | rfl
    · simp [hdouble] at h
    · simp [hsingle] at h

theorem isPlain_of_isBlank {c : Char} (h : isBlank c = true) : IsPlain c :=
  isPlain_of_class h (by decide) (by decide) (by decide)

theorem isPlain_of_isWordChar {c : Char} (h : isWordChar c = true) : IsPlain c :=
  isPlain_of_class h (by decide) (by decide) (by decide)

theorem eq_nil_of_no_escape {c : Char} {cs : List Char} (hc : c = '\\')
    (hne : ∀ (d : Char) (ds : List Char), c = '\\' → cs = d :: ds → False) : cs = [] := by
  cases cs with
  | nil => rfl
  | cons d ds => exact absurd rfl (hne d ds hc)

/-- A string literal with three quotes ends with them. -/
theorem exists_append_of_closeTriple {q : Char} {cs body rest : List Char}
    (h : closeTriple q cs = some (body, rest)) : ∃ inner, body = inner ++ [q, q, q] := by
  fun_induction closeTriple q cs generalizing body rest with
  | case1 => cases h
  | case2 c cs ih =>
      simp only [Option.map_eq_some_iff, Prod.exists, Prod.mk.injEq] at h
      obtain ⟨body, rest, hclose, rfl, rfl⟩ := h
      obtain ⟨inner, rfl⟩ := ih hclose
      exact ⟨'\\' :: c :: inner, rfl⟩
  | case3 c cs hne after hstrip =>
      simp only [Option.some.injEq, Prod.mk.injEq] at h
      exact ⟨[], h.1.symm⟩
  | case4 c cs hne hstrip ih =>
      simp only [Option.map_eq_some_iff, Prod.exists, Prod.mk.injEq] at h
      obtain ⟨body, rest, hclose, rfl, rfl⟩ := h
      obtain ⟨inner, rfl⟩ := ih hclose
      exact ⟨c :: inner, rfl⟩

namespace Lexeme

/-- The ways to read the start of a text. The word in front of a string literal is empty if
the literal has no prefix. -/
inductive Reads : List Char → Lexeme → Prop
  | blank {c : Char} {cs : List Char} (hc : isBlank c = true) : Reads (c :: cs) .blank
  | comment {cs : List Char} : Reads ('#' :: cs) .comment
  | continuation : Reads ['\\'] .continuation
  | plain {text rest : List Char} (hne : text ≠ []) (htext : ∀ c ∈ text, IsPlain c) :
      Reads (text ++ rest) (.piece text rest)
  | single {word cs body rest : List Char} {q : Char} (hword : ∀ c ∈ word, IsPlain c)
      (hq : isQuote q = true) (hone : stripCopies q 2 cs = none)
      (hclose : closeSingle q cs = (body, rest)) :
      Reads (word ++ q :: cs) (.piece (word ++ q :: body) rest)
  | triple {word cs body rest : List Char} {q : Char} (hword : ∀ c ∈ word, IsPlain c)
      (hq : isQuote q = true) (hclose : closeTriple q cs = some (body, rest)) :
      Reads (word ++ q :: q :: q :: cs) (.piece (word ++ q :: q :: q :: body) rest)
  | unclosed {word cs : List Char} {q : Char} (hword : ∀ c ∈ word, IsPlain c)
      (hq : isQuote q = true) (hopen : closeTriple q cs = none) :
      Reads (word ++ q :: q :: q :: cs) (.unclosed q)

theorem reads_readString {word : List Char} {q : Char} (cs : List Char)
    (hword : ∀ c ∈ word, IsPlain c) (hq : isQuote q = true) :
    Reads (word ++ q :: cs) (readString (word ++ [q]) q cs) := by
  unfold readString
  split
  · rename_i inner hinner
    have hcs : cs = q :: q :: inner := by
      simpa [List.replicate] using eq_of_stripCopies hinner
    subst hcs
    split
    · rename_i body rest hclose
      simpa using Reads.triple hword hq hclose
    · rename_i hopen
      exact .unclosed hword hq hopen
  · rename_i hone
    simpa using Reads.single hword hq hone rfl

/-- The lexeme at the start of a text is read in one of the ways. -/
theorem reads_read (c : Char) (cs : List Char) : Reads (c :: cs) (read c cs) := by
  unfold read
  split
  · rename_i hblank
    exact .blank hblank
  split
  · rename_i hhash
    subst hhash
    exact .comment
  rename_i hhash
  split
  · rename_i hslash
    obtain ⟨rfl, rfl⟩ := hslash
    exact .continuation
  split
  · rename_i hquote
    exact @reads_readString [] c cs (by simp) hquote
  rename_i hquote
  have hplain : IsPlain c := ⟨hhash, by simpa using hquote⟩
  split
  · have hsplit := List.takeWhile_append_dropWhile (p := isWordChar) (l := cs)
    have hword : ∀ d ∈ c :: cs.takeWhile isWordChar, IsPlain d := by
      intro d hd
      rcases List.mem_cons.mp hd with rfl | hd
      · exact hplain
      · exact isPlain_of_isWordChar (List.mem_takeWhile_imp hd)
    simp only
    split
    · rename_i hdrop
      have hreads := @Reads.plain _ [] (List.cons_ne_nil _ _) hword
      rw [hdrop, List.append_nil] at hsplit
      simpa [hsplit] using hreads
    · rename_i q after hdrop
      rw [hdrop] at hsplit
      split
      · rename_i hopen
        simp only [Bool.and_eq_true] at hopen
        have hreads := reads_readString after hword hopen.1
        rwa [List.cons_append, hsplit] at hreads
      · have hreads := @Reads.plain _ (q :: after) (List.cons_ne_nil _ _) hword
        rwa [List.cons_append, hsplit] at hreads
  · exact @Reads.plain [c] cs (by simp) (by simpa using hplain)

section Cases

variable {c : Char} {cs : List Char}

theorem isBlank_of_read (h : read c cs = .blank) : isBlank c = true := by
  have hreads := reads_read c cs
  generalize htext : c :: cs = text at hreads
  rw [h] at hreads
  cases hreads with
  | blank hc => exact (List.cons.inj htext).1 ▸ hc

theorem eq_hash_of_read (h : read c cs = .comment) : c = '#' := by
  have hreads := reads_read c cs
  generalize htext : c :: cs = text at hreads
  rw [h] at hreads
  cases hreads with
  | comment => exact (List.cons.inj htext).1

theorem eq_backslash_of_read (h : read c cs = .continuation) : c = '\\' ∧ cs = [] := by
  have hreads := reads_read c cs
  generalize htext : c :: cs = text at hreads
  rw [h] at hreads
  cases hreads with
  | continuation => exact List.cons.inj htext

/-- At the end of a line a backslash stands in no piece of plain text. -/
theorem getLast?_ne_of_read {text : List Char}
    (h : read c cs = .piece text []) (hplain : ∀ d ∈ text, IsPlain d) :
    text.getLast? ≠ some '\\' := by
  obtain ⟨tail, rfl, hcs⟩ := read_eq_piece h
  rw [List.append_nil] at hcs
  subst hcs
  have hhash : c ≠ '#' := (hplain c List.mem_cons_self).1
  have hquote : ∀ d ∈ c :: tail, isQuote d = false := fun d hd => (hplain d hd).2
  have hblank : ¬ isBlank c = true := by
    intro hc
    simp [read, hc] at h
  have hslash : ¬ (c = '\\' ∧ tail = []) := by
    rintro ⟨rfl, rfl⟩
    rw [show read '\\' [] = .continuation by decide] at h
    cases h
  have hopen : ¬ isQuote c = true := by simp [hquote c List.mem_cons_self]
  rw [read, if_neg hblank, if_neg hhash, if_neg hslash, if_neg hopen] at h
  split at h
  · rename_i hword
    simp only at h
    split at h
    · injection h with htext
      have htail := (List.cons.inj htext).2
      intro hlast
      have hmem : '\\' ∈ c :: tail := List.mem_of_getLast? hlast
      rcases List.mem_cons.mp hmem with rfl | hmem
      · cases hword
      · rw [← htail] at hmem
        exact absurd (List.mem_takeWhile_imp hmem) (by decide)
    · rename_i q rest hdrop
      have hq : q ∈ tail := List.dropWhile_subset isWordChar (hdrop ▸ List.mem_cons_self)
      simp [hquote q (List.mem_cons_of_mem c hq)] at h
  · injection h with htext htail
    subst htail
    simpa using hslash

end Cases

end Lexeme

end TodoLint
