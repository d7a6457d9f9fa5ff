import TodoLint.Proofs.Token.Tiling

/-!
The tokens of a source give the source back. Tokens that tile a text stand in it one after the
other, each at the offset of its start, and only white space and backslashes at ends of lines
lie between them (`tokenize_lossless`).
-/

namespace TodoLint

open Text

theorem Position.row_le_row_advance (p : Position) (cs : List Char) :
    p.row ≤ (p.advance cs).row := by
  by_cases hcs : cs = []
  · rw [hcs, Position.advance_nil]
  · rcases p.before_advance hcs with hrow | ⟨hrow, -⟩
    · exact Nat.le_of_lt hrow
    · exact Nat.le_of_eq hrow

/-- Reading a text leads to the row of its last line at least. -/
theorem Text.Line.Splits.length_le {text : List Char} {lines : List Line}
    (h : Line.Splits text lines) (row : Nat) :
    row + lines.length ≤ (Position.advance ⟨row, 1⟩ text).row + 1 := by
  induction h generalizing row with
  | nil => exact Nat.le_succ row
  | @cons line rest lines hne hends hrest ih =>
      rw [Position.advance_append, List.length_cons]
      by_cases hfeed : '\n' ∈ line.terminator
      · rw [Line.chars, Position.advance_line _ hends hfeed, Nat.add_comm lines.length,
          ← Nat.add_assoc]
        exact ih (row + 1)
      · obtain rfl := hrest.eq_nil (hends.rest_eq_nil hfeed)
        rw [← Position.advance_append]
        exact Nat.succ_le_succ (Position.row_le_row_advance ⟨row, 1⟩ _)

/-- The place `p` has `n` characters before it in a text with the given lines, and `cs` is the
text from there on. -/
structure Locates (lines : List Line) (n : Nat) (p : Position) (cs : List Char) : Prop where
  offset_advance : ∀ {a b : List Char}, a ++ b = cs → (p.advance a).offset lines = n + a.length
  length_le : lines.length ≤ (p.advance cs).row
  length_eq : (lines.flatMap Line.chars).length = n + cs.length

namespace Locates

variable {lines : List Line} {n : Nat} {p : Position} {cs : List Char}

theorem start (text : List Char) : Locates (Line.split text) 0 ⟨1, 1⟩ text where
  offset_advance := fun hab => by
    rw [Nat.zero_add]
    exact Position.offset_advance (Line.splits_split text) hab
  length_le := by
    have hlength := (Line.splits_split text).length_le 1
    omega
  length_eq := by rw [Line.flatMap_chars_split, Nat.zero_add]

theorem offset_eq (h : Locates lines n p cs) : p.offset lines = n :=
  h.offset_advance (List.nil_append cs)

theorem drop {part : List Char} (h : Locates lines n p (part ++ cs)) :
    Locates lines (n + part.length) (p.advance part) cs where
  offset_advance := fun {a b} hab => by
    rw [← Position.advance_append, h.offset_advance (by rw [List.append_assoc, hab]),
      List.length_append, Nat.add_assoc]
  length_le := by
    rw [← Position.advance_append]
    exact h.length_le
  length_eq := by
    rw [h.length_eq, List.length_append, Nat.add_assoc]

theorem tail {c : Char} (h : Locates lines n p (c :: cs)) :
    Locates lines (n + 1) (p.after c) cs :=
  @drop lines n p cs [c] h

/-- At the end of the text the start of the next row is as far from the start as the place. -/
theorem nextRow (h : Locates lines n p []) : Locates lines n ⟨p.row + 1, 1⟩ [] where
  offset_advance := fun {a b} hab => by
    obtain ⟨rfl, -⟩ := List.append_eq_nil_iff.mp hab
    have hall : lines.take p.row = lines := List.take_of_length_le h.length_le
    simpa [Position.offset, hall] using h.length_eq
  length_le := Nat.le_succ_of_le h.length_le
  length_eq := h.length_eq

end Locates

namespace Tiles

variable {p q : Position} {cs rest : List Char} {ts : List Token} {t : Token}

theorem standsAt_of_mem (h : Tiles p cs ts q rest) (ht : t ∈ ts) : t.StandsAt t.start := by
  induction h with
  | done => exact absurd ht List.not_mem_nil
  | gap _ _ ih => exact ih ht
  | token hstands _ _ ih | emptyBreak hstands _ _ ih =>
      rcases List.mem_cons.mp ht with rfl | hmem
      · rwa [hstands.start_eq]
      · exact ih hmem
  | endText _ ih => exact ih ht

/-! ### The order of starts -/

theorem atOrBefore (h : Tiles p cs ts q rest) : p.AtOrBefore q := by
  induction h with
  | done => exact .inl rfl
  | gap _ _ ih => exact .inr ((Position.before_after _ _).trans_atOrBefore ih)
  | token _ hne _ ih => exact .inr ((Position.before_advance _ hne).trans_atOrBefore ih)
  | emptyBreak _ _ _ ih | endText _ ih =>
      exact .inr ((Position.before_nextRow _).trans_atOrBefore ih)

theorem atOrBefore_start (h : Tiles p cs ts q rest) (ht : t ∈ ts) : p.AtOrBefore t.start := by
  induction h with
  | done => exact absurd ht List.not_mem_nil
  | gap _ _ ih => exact .inr ((Position.before_after _ _).trans_atOrBefore (ih ht))
  | token hstands hne _ ih =>
      rcases List.mem_cons.mp ht with rfl | hmem
      · exact .inl hstands.start_eq.symm
      · exact .inr ((Position.before_advance _ hne).trans_atOrBefore (ih hmem))
  | emptyBreak hstands _ _ ih =>
      rcases List.mem_cons.mp ht with rfl | hmem
      · exact .inl hstands.start_eq.symm
      · exact .inr ((Position.before_nextRow _).trans_atOrBefore (ih hmem))
  | endText _ ih => exact .inr ((Position.before_nextRow _).trans_atOrBefore (ih ht))

theorem start_before (h : Tiles p cs ts q rest) (ht : t ∈ ts) : t.start.Before q := by
  induction h with
  | done => exact absurd ht List.not_mem_nil
  | gap _ _ ih => exact ih ht
  | token hstands hne hrest ih =>
      rcases List.mem_cons.mp ht with rfl | hmem
      · rw [hstands.start_eq]
        exact (Position.before_advance _ hne).trans_atOrBefore hrest.atOrBefore
      · exact ih hmem
  | emptyBreak hstands _ hrest ih =>
      rcases List.mem_cons.mp ht with rfl | hmem
      · rw [hstands.start_eq]
        exact (Position.before_nextRow _).trans_atOrBefore hrest.atOrBefore
      · exact ih hmem
  | endText _ ih => exact ih ht

theorem pairwise_start (h : Tiles p cs ts q rest) :
    ts.Pairwise fun a b => a.start.Before b.start := by
  induction h with
  | done => exact .nil
  | gap _ _ ih => exact ih
  | token hstands hne hrest ih =>
      refine .cons (fun u hu => ?_) ih
      rw [hstands.start_eq]
      exact (Position.before_advance _ hne).trans_atOrBefore (hrest.atOrBefore_start hu)
  | emptyBreak hstands _ hrest ih =>
      refine .cons (fun u hu => ?_) ih
      rw [hstands.start_eq]
      exact (Position.before_nextRow _).trans_atOrBefore (hrest.atOrBefore_start hu)
  | endText _ ih => exact ih

/-! ### The offsets of tokens -/

variable {lines : List Line} {n : Nat}

/-- The text from the start of a token on begins with the text of the token. -/
theorem locates_start (h : Tiles p cs ts q rest) (hp : Locates lines n p cs) (ht : t ∈ ts) :
    ∃ before after, before ++ (t.text.toList ++ after) = cs ∧
      Locates lines (n + before.length) t.start (t.text.toList ++ after) := by
  induction h generalizing n with
  | done => exact absurd ht List.not_mem_nil
  | @gap _ _ c _ _ _ _ _ ih =>
      obtain ⟨before, after, rfl, hstart⟩ := ih hp.tail ht
      refine ⟨c :: before, after, rfl, ?_⟩
      rwa [List.length_cons, Nat.add_comm before.length, ← Nat.add_assoc]
  | @token _ _ u cs _ _ hstands _ _ ih =>
      rcases List.mem_cons.mp ht with rfl | hmem
      · exact ⟨[], cs, rfl, by rwa [hstands.start_eq]⟩
      · obtain ⟨before, after, rfl, hstart⟩ := ih hp.drop hmem
        refine ⟨u.text.toList ++ before, after, List.append_assoc _ _ _, ?_⟩
        rwa [List.length_append, ← Nat.add_assoc]
  | emptyBreak hstands hempty _ ih =>
      rcases List.mem_cons.mp ht with rfl | hmem
      · exact ⟨[], [], by simp [hempty], by simpa [hempty, hstands.start_eq] using hp⟩
      · exact ih hp.nextRow hmem
  | endText _ ih => exact ih hp.nextRow ht

theorem le_offset (h : Tiles p cs ts q rest) (hp : Locates lines n p cs) (ht : t ∈ ts) :
    n ≤ t.start.offset lines := by
  obtain ⟨before, after, -, hstart⟩ := h.locates_start hp ht
  rw [hstart.offset_eq]
  exact Nat.le_add_right n before.length

theorem offset_add_length_le (h : Tiles p cs ts q rest) (hp : Locates lines n p cs)
    (ht : t ∈ ts) : t.start.offset lines + t.text.length ≤ n + cs.length := by
  obtain ⟨before, after, rfl, hstart⟩ := h.locates_start hp ht
  rw [hstart.offset_eq]
  simp only [List.length_append, String.length_toList]
  omega

theorem pairwise_offset (h : Tiles p cs ts q rest) (hp : Locates lines n p cs) :
    ts.Pairwise fun a b => a.start.offset lines + a.text.length ≤ b.start.offset lines := by
  induction h generalizing n with
  | done => exact .nil
  | gap _ _ ih => exact ih hp.tail
  | token hstands _ hrest ih =>
      refine .cons (fun u hu => ?_) (ih hp.drop)
      rw [hstands.start_eq, hp.offset_eq, ← String.length_toList]
      exact hrest.le_offset hp.drop hu
  | emptyBreak hstands hempty hrest ih =>
      refine .cons (fun u hu => ?_) (ih hp.nextRow)
      rw [hstands.start_eq, hp.offset_eq, ← String.length_toList, hempty]
      exact hrest.le_offset hp.nextRow hu
  | endText _ ih => exact ih hp.nextRow

end Tiles

/-- A token has the character with `i` characters before it in its text. -/
def Token.Covers (lines : List Line) (t : Token) (i : Nat) : Prop :=
  t.start.offset lines ≤ i ∧ i < t.start.offset lines + t.text.length

theorem Tiles.isGap_of_getElem? {p q : Position} {cs : List Char} {ts : List Token}
    {lines : List Line} {n i : Nat} {c : Char} (h : Tiles p cs ts q [])
    (hp : Locates lines n p cs) (hc : cs[i]? = some c)
    (huncovered : ∀ t ∈ ts, ¬ t.Covers lines (n + i)) : IsGap c (cs.drop (i + 1)) := by
  generalize hrest : ([] : List Char) = rest at h
  induction h generalizing n i with
  | done => simp [← hrest] at hc
  | gap hgap _ ih =>
      cases i with
      | zero =>
          obtain rfl : _ = c := by simpa using hc
          exact hgap
      | succ i =>
          refine ih hp.tail hc ?_ hrest
          rwa [Nat.add_assoc, Nat.add_comm 1]
  | @token _ _ u cs _ _ hstands _ _ ih =>
      -- a character of the token is covered, and one after it is counted from there
      rcases Nat.lt_or_ge i u.text.toList.length with hi | hi
      · refine absurd ?_ (huncovered u List.mem_cons_self)
        rw [Token.Covers, hstands.start_eq, hp.offset_eq, ← String.length_toList]
        exact ⟨Nat.le_add_right n i, Nat.add_lt_add_left hi n⟩
      · obtain ⟨j, rfl⟩ := Nat.exists_eq_add_of_le hi
        rw [List.getElem?_append_right hi, Nat.add_sub_cancel_left] at hc
        rw [Nat.add_assoc, List.drop_length_add_append]
        refine ih hp.drop hc (fun t ht => ?_) hrest
        rw [Nat.add_assoc]
        exact huncovered t (List.mem_cons_of_mem u ht)
  | emptyBreak _ _ _ _ => simp at hc
  | endText _ _ => simp at hc

theorem Tiles.exists_gaps {p q : Position} {cs rest : List Char} {ts : List Token}
    (h : Tiles p cs ts q rest) :
    ∃ gaps last, gaps.length = ts.length ∧
      (List.zipWith (fun gap t => gap ++ t.text.toList) gaps ts).flatten ++ (last ++ rest) = cs ∧
      ∀ gap ∈ last :: gaps, ∀ c ∈ gap, isBlank c = true ∨ c = '\\' := by
  induction h with
  | done => exact ⟨[], [], rfl, rfl, by simp⟩
  | @gap _ _ c _ _ ts hgap _ ih =>
      have hc : isBlank c = true ∨ c = '\\' := hgap.imp_right And.left
      obtain ⟨gaps, last, hlength, rfl, hgaps⟩ := ih
      cases gaps with
      | nil =>
          refine ⟨[], c :: last, hlength, rfl, ?_⟩
          simpa [hc] using hgaps
      | cons gap gaps =>
          obtain ⟨t, ts, rfl⟩ := List.exists_cons_of_length_eq_add_one hlength.symm
          refine ⟨(c :: gap) :: gaps, last, hlength, rfl, ?_⟩
          simpa [hc] using hgaps
  | token _ _ _ ih =>
      obtain ⟨gaps, last, hlength, rfl, hgaps⟩ := ih
      exact ⟨[] :: gaps, last, by simp [hlength], by simp, by simpa using hgaps⟩
  | emptyBreak _ hempty _ ih =>
      obtain ⟨gaps, last, hlength, htext, hgaps⟩ := ih
      exact ⟨[] :: gaps, last, by simp [hlength], by simpa [hempty] using htext,
        by simpa using hgaps⟩
  | endText _ ih => exact ih

/-! ### The tokens of a source -/

/-- Tokens that a text can be rebuilt from. -/
structure Lossless (text : List Char) (tokens : List Token) : Prop where
  /-- A token stands in the text where it starts. -/
  slice : ∀ t ∈ tokens,
    (text.drop (t.start.offset (Line.split text))).take t.text.length = t.text.toList
  stop_le_start : tokens.Pairwise fun a b =>
    a.start.offset (Line.split text) + a.text.length ≤ b.start.offset (Line.split text)
  start_before : tokens.Pairwise fun a b => a.start.Before b.start
  /-- Only line breaks and the mark at the end may be empty. -/
  stop_eq : ∀ t ∈ tokens.dropLast, t.kind = .comment ∨ t.kind = .other →
    t.text ≠ "" ∧
      t.stop.offset (Line.split text) = t.start.offset (Line.split text) + t.text.length
  endMark_eq : tokens.getLast? = some (endMark (Line.split text).length)
  gap : ∀ i c, text[i]? = some c → (∀ t ∈ tokens, ¬ t.Covers (Line.split text) i) →
    IsGap c (text.drop (i + 1))
  rebuild : ∃ gaps, gaps.length = tokens.length ∧
    (List.zipWith (fun gap t => gap ++ t.text.toList) gaps tokens).flatten = text ∧
      ∀ gap ∈ gaps, ∀ c ∈ gap, isBlank c = true ∨ c = '\\'

theorem tiles_of_tokenize {source : String} {tokens : List Token}
    (h : tokenize source = .ok tokens) :
    ∃ body, tokens = body ++ [endMark (Line.split source.toList).length] ∧
      Tiles ⟨1, 1⟩ source.toList body ⟨(Line.split source.toList).length + 1, 1⟩ [] := by
  obtain ⟨hpending, rfl⟩ := tokenize_eq_ok_iff.mp h
  refine ⟨_, rfl, ?_⟩
  have hfits : source.toList ≠ [] → ({} : Carry).Fits 1 := by
    intro _ opened hopened
    simp at hopened
  have htiles := tiles_scanLines (Line.splits_split source.toList) hfits
  simp only [Carry.place, Carry.held, hpending, List.nil_append] at htiles
  rwa [Nat.add_comm 1] at htiles

theorem lossless_of_tiles {text : List Char} {body : List Token}
    (h : Tiles ⟨1, 1⟩ text body ⟨(Line.split text).length + 1, 1⟩ []) :
    Lossless text (body ++ [endMark (Line.split text).length]) := by
  have hstart := Locates.start text
  have hend : (endMark (Line.split text).length).start.offset (Line.split text) =
      text.length := by
    simp [-List.length_flatMap, endMark, Position.offset, Line.flatMap_chars_split]
  constructor
  case slice =>
    intro t ht
    rcases List.mem_append.mp ht with hbody | hmark
    · obtain ⟨before, after, hsplit, hlocates⟩ := h.locates_start hstart hbody
      rw [hlocates.offset_eq, Nat.zero_add, ← hsplit, List.drop_left, ← String.length_toList,
        List.take_left]
    · obtain rfl := List.mem_singleton.mp hmark
      rfl
  case stop_le_start =>
    refine List.pairwise_append.mpr ⟨h.pairwise_offset hstart, List.pairwise_singleton _ _, ?_⟩
    intro t ht mark hmark
    obtain rfl := List.mem_singleton.mp hmark
    rw [hend]
    simpa using h.offset_add_length_le hstart ht
  case start_before =>
    refine List.pairwise_append.mpr ⟨h.pairwise_start, List.pairwise_singleton _ _, ?_⟩
    intro t ht mark hmark
    obtain rfl := List.mem_singleton.mp hmark
    exact h.start_before ht
  case stop_eq =>
    intro t ht hkind
    rw [List.dropLast_concat] at ht
    have hbreak : ¬ t.IsBreak := by
      rcases hkind with hkind | hkind <;> simp [Token.IsBreak, hkind]
    have hstands := h.standsAt_of_mem ht
    obtain ⟨before, after, -, hlocates⟩ := h.locates_start hstart ht
    refine ⟨fun hempty => hstands.text_ne_nil hbreak (by simp [hempty]), ?_⟩
    rw [hstands.stop_eq hbreak, hlocates.offset_advance rfl, hlocates.offset_eq,
      String.length_toList]
  case endMark_eq =>
    exact List.getLast?_concat
  case gap =>
    intro i c hc huncovered
    refine h.isGap_of_getElem? hstart hc ?_
    intro t ht
    rw [Nat.zero_add]
    exact huncovered t (List.mem_append_left _ ht)
  case rebuild =>
    obtain ⟨gaps, last, hlength, htext, hgaps⟩ := h.exists_gaps
    refine ⟨gaps ++ [last], by simp [hlength], ?_, ?_⟩
    · rw [List.zipWith_append hlength, List.flatten_append]
      simpa [endMark] using htext
    · simpa [or_imp, forall_and, and_comm] using hgaps

/-- The tokens of a source are lossless and stand where they say. -/
theorem tokenize_lossless {source : String} {tokens : List Token}
    (h : tokenize source = .ok tokens) : Lossless source.toList tokens := by
  obtain ⟨body, rfl, htiles⟩ := tiles_of_tokenize h
  exact lossless_of_tiles htiles

/-- A string literal over two rows, a backslash before a line feed, and a carriage return at
the end. -/
theorem lossless_joined_rows :
    ∃ tokens, tokenize "é = r'''a\r\nb''' + \\\n1 # TODO: c\r" = .ok tokens ∧
      tokens.length = 8 ∧
      Lossless "é = r'''a\r\nb''' + \\\n1 # TODO: c\r".toList tokens := by
  have hlength : (tokenize "é = r'''a\r\nb''' + \\\n1 # TODO: c\r").toOption.map List.length =
      some 8 := by
    decide +kernel
  cases h : tokenize "é = r'''a\r\nb''' + \\\n1 # TODO: c\r" with
  | error fault => simp [h, Except.toOption] at hlength
  | ok tokens =>
      rw [h] at hlength
      exact ⟨tokens, rfl, Option.some.inj hlength, tokenize_lossless h⟩

end TodoLint
