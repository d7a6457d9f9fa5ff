import TodoLint.Proofs.Text.Json
import TodoLint.Text.Reading

/-!
A reader of JSON documents. It reads every document as the value that the document denotes, so
that a document denotes one value (`Document.unique`).
-/

namespace TodoLint.Text

section Steps

variable {σ α : Type} {step : σ → List Char → Reading (σ ⊕ α)} {state next : σ} {value : α}
  {cs rest : List Char}

theorem readSteps_of_inr (h : step state cs = some (.inr value, rest)) :
    readSteps step state cs = some (value, rest) := by
  rw [readSteps, h]

theorem readSteps_of_inl (h : step state cs = some (.inl next, rest))
    (hlt : rest.length < cs.length) : readSteps step state cs = readSteps step next rest := by
  rw [readSteps, h]
  exact dif_pos hlt

end Steps

namespace Json

/-! ### Reader -/

def skipSpace (cs : List Char) : List Char :=
  cs.dropWhile isSpace

/-- A number in four hexadecimal digits. -/
def readUnit (cs : List Char) : Reading Nat :=
  if cs.length < 4 then none else (hexValue? (cs.take 4)).map (·, cs.drop 4)

/-- The second of two surrogates, the first of which is known. -/
def readLow (high : Nat) : List Char → Reading Char
  | '\\' :: 'u' :: cs =>
      match readUnit cs with
      | none => none
      | some (low, rest) =>
          if 0xDC00 ≤ low ∧ low < 0xE000 then
            some (Char.ofNat (0x10000 + 0x400 * (high - 0xD800) + (low - 0xDC00)), rest)
          else none
  | _ => none

/-- A character of a string. -/
def readChar : List Char → Reading Char
  | '\\' :: 'u' :: cs =>
      match readUnit cs with
      | none => none
      | some (n, rest) =>
          if n < 0xD800 ∨ 0xE000 ≤ n then some (Char.ofNat n, rest)
          else if n < 0xDC00 then readLow n rest
          else none
  | '\\' :: letter :: cs => (shortEscapes.lookup letter).map (·, cs)
  | c :: cs => if 0x20 ≤ c.toNat ∧ c ≠ '"' ∧ c ≠ '\\' then some (c, cs) else none
  | [] => none

/-- A step in a string: its closing quote, or another character. -/
def stringStep (read : List Char) : List Char → Reading (List Char ⊕ List Char)
  | '"' :: cs => some (.inr read, cs)
  | cs => (readChar cs).map fun (c, rest) => (.inl (read ++ [c]), rest)

def readString : List Char → Reading String
  | '"' :: cs => (readSteps stringStep [] cs).map fun (text, rest) => (String.ofList text, rest)
  | _ => none

def readNumeral (cs : List Char) : Reading Nat :=
  let digits := cs.takeWhile Char.isDigit
  if digits = [] ∨ (digits.head? = some '0' ∧ digits ≠ ['0']) then none
  else some (Nat.ofDigitChars 10 digits 0, cs.dropWhile Char.isDigit)

/-- A step in a list: an item, and the comma or the closing bracket behind it. -/
def itemStep {α : Type} (item : List Char → Reading α) (close : Char) (read : List α)
    (cs : List Char) : Reading (List α ⊕ List α) :=
  match item (skipSpace cs) with
  | none => none
  | some (x, rest) =>
      match skipSpace rest with
      | [] => none
      | c :: next =>
          if c = ',' then some (.inl (read ++ [x]), next)
          else if c = close then some (.inr (read ++ [x]), next)
          else none

/-- The items of a list and its closing bracket. -/
def readList {α : Type} (item : List Char → Reading α) (close : Char) (cs : List Char) :
    Reading (List α) :=
  match skipSpace cs with
  | [] => none
  | c :: rest => if c = close then some ([], rest) else readSteps (itemStep item close) [] cs

def readField (value : List Char → Reading Json) (cs : List Char) : Reading (String × Json) :=
  match readString cs with
  | none => none
  | some (key, rest) =>
      match skipSpace rest with
      | ':' :: next => (value (skipSpace next)).map fun (j, after) => ((key, j), after)
      | _ => none

/-- A value in which brackets are not deeper than `depth`. -/
def readValue : Nat → List Char → Reading Json
  | 0, _ => none
  | _ + 1, 't' :: 'r' :: 'u' :: 'e' :: cs => some (bool true, cs)
  | _ + 1, 'f' :: 'a' :: 'l' :: 's' :: 'e' :: cs => some (bool false, cs)
  | _ + 1, '"' :: cs => (readString ('"' :: cs)).map fun (s, rest) => (string s, rest)
  | depth + 1, '[' :: cs =>
      (readList (readValue depth) ']' cs).map fun (items, rest) => (array items, rest)
  | depth + 1, '\x7b' :: cs =>
      (readList (readField (readValue depth)) '\x7d' cs).map fun (fields, rest) =>
        (object fields, rest)
  | _ + 1, cs => (readNumeral cs).map fun (n, rest) => (number n, rest)

/-- The value of a document. Brackets in a text are not deeper than the text is long. -/
def read? (text : List Char) : Option Json :=
  match readValue text.length (skipSpace text) with
  | none => none
  | some (j, rest) => if skipSpace rest = [] then some j else none

/-! ### Strings and numbers -/

variable {c : Char} {cs piece text gap rest : List Char} {s : String} {n : Nat}

theorem readUnit_append {digits : List Char} (hlength : digits.length = 4)
    (hvalue : hexValue? digits = some n) (rest : List Char) :
    readUnit (digits ++ rest) = some (n, rest) := by
  rw [readUnit, if_neg (by simp [hlength]), List.take_left' hlength, List.drop_left' hlength,
    hvalue]
  rfl

theorem lookup_shortEscapes {e : Char × Char} (h : e ∈ shortEscapes) :
    e.1 ≠ 'u' ∧ shortEscapes.lookup e.1 = some e.2 := by
  have hall : (shortEscapes.all fun e =>
      e.1 ≠ 'u' ∧ shortEscapes.lookup e.1 = some e.2) = true := by decide
  exact of_decide_eq_true (List.all_eq_true.mp hall e h)

theorem toNat_lt (c : Char) : c.toNat < 0xD800 ∨ 0xE000 ≤ c.toNat ∧ c.toNat < 0x110000 := by
  rcases c.valid with h | h
  · exact .inl h
  · exact .inr h

theorem readChar_append (h : CharText c piece) (rest : List Char) :
    readChar (piece ++ rest) = some (c, rest) := by
  have hscalar := toNat_lt c
  cases h with
  | plain hcontrol hquote hslash => simp [readChar, hcontrol, hquote, hslash]
  | short h => simp [readChar, lookup_shortEscapes h]
  | code hlength hvalue =>
      simp only [List.cons_append, readChar, readUnit_append hlength hvalue, Char.ofNat_toNat]
      rw [if_pos (by omega)]
  | surrogates hfirst hhigh hsecond hlow hlt hvalue =>
      simp only [List.cons_append, List.append_assoc, readChar, readLow,
        readUnit_append hfirst hhigh, readUnit_append hsecond hlow, Nat.add_sub_cancel_left]
      rw [if_neg (by omega), if_pos (by omega), if_pos (by omega), ← hvalue, Char.ofNat_toNat]

/-- A closing quote is no character of a string. -/
theorem exists_cons_of_charText (h : CharText c piece) :
    ∃ d ds, piece = d :: ds ∧ d ≠ '"' := by
  cases h with
  | plain _ hquote _ => exact ⟨c, [], rfl, hquote⟩
  | short _ => exact ⟨_, _, rfl, by decide⟩
  | code _ _ => exact ⟨_, _, rfl, by decide⟩
  | surrogates _ _ _ _ _ _ => exact ⟨_, _, rfl, by decide⟩

theorem readSteps_stringStep (h : Spells cs text) (read rest : List Char) :
    readSteps stringStep read (text ++ '"' :: rest) = some (read ++ cs, rest) := by
  induction h generalizing read with
  | nil =>
      rw [List.append_nil]
      exact readSteps_of_inr rfl
  | @cons c cs piece text hc _ ih =>
      obtain ⟨d, ds, rfl, hquote⟩ := exists_cons_of_charText hc
      have hchar := readChar_append hc (text ++ '"' :: rest)
      rw [List.cons_append] at hchar
      have hstep : stringStep read (d :: (ds ++ (text ++ '"' :: rest))) =
          some (.inl (read ++ [c]), text ++ '"' :: rest) := by
        rw [stringStep, hchar]
        · rfl
        · intro cs hcs
          exact hquote (List.cons.inj hcs).1
      have hlt : (text ++ '"' :: rest).length < (d :: (ds ++ (text ++ '"' :: rest))).length := by
        simp only [List.length_cons, List.length_append]
        omega
      rw [List.append_assoc, List.cons_append, readSteps_of_inl hstep hlt, ih]
      simp

theorem readString_append (h : StringText s text) (rest : List Char) :
    readString (text ++ rest) = some (s, rest) := by
  cases h with
  | quoted h =>
      have hsteps := readSteps_stringStep h [] rest
      simp [readString, hsteps]

/-- The text does not begin with a digit. -/
def Stops (rest : List Char) : Prop :=
  ∀ c ∈ rest.head?, c.isDigit = false

theorem readNumeral_append (h : Numeral n text) (hrest : Stops rest) :
    readNumeral (text ++ rest) = some (n, rest) := by
  have hnone : rest.takeWhile Char.isDigit = [] ∧ rest.dropWhile Char.isDigit = rest := by
    cases rest with
    | nil => exact ⟨rfl, rfl⟩
    | cons c rest => simp [hrest c rfl]
  have hwell : ¬(text = [] ∨ (text.head? = some '0' ∧ text ≠ ['0'])) := by
    rintro (hnil | ⟨hzero, hpadded⟩)
    · exact h.ne_nil hnil
    · exact hpadded (h.not_padded hzero)
  rw [readNumeral, List.takeWhile_append_of_pos h.isDigit, List.dropWhile_append_of_pos h.isDigit,
    hnone.1, hnone.2, List.append_nil]
  simp only [if_neg hwell, h.value]

/-! ### Lists and fields -/

theorem skipSpace_append (hgap : Gap gap) (cs : List Char) : skipSpace (gap ++ cs) = skipSpace cs :=
  List.dropWhile_append_of_pos hgap

theorem skipSpace_cons (hc : isSpace c = false) (cs : List Char) :
    skipSpace (c :: cs) = c :: cs :=
  List.dropWhile_cons_of_neg (by simp [hc])

theorem stops_cons (hc : c.isDigit = false) (cs : List Char) : Stops (c :: cs) := by
  intro d hd
  rw [← Option.some.inj hd]
  exact hc

theorem stops_append (hgap : Gap gap) (hrest : Stops rest) : Stops (gap ++ rest) := by
  cases gap with
  | nil => exact hrest
  | cons c gap =>
      have hdigit : ∀ d, isSpace d = true → d.isDigit = false := by
        intro d hd
        simp only [isSpace, Bool.or_eq_true, decide_eq_true_eq] at hd
        rcases hd with ((rfl | rfl) | rfl) | rfl <;> rfl
      exact stops_cons (hdigit c (hgap c List.mem_cons_self)) (gap ++ rest)

/-- The text begins with a character that is neither white space nor a closing bracket. -/
def Opens (text : List Char) : Prop :=
  ∃ c cs, text = c :: cs ∧ isSpace c = false ∧ c ≠ ']' ∧ c ≠ '\x7d'

theorem Opens.skipSpace_append (h : Opens text) (hgap : Gap gap) (rest : List Char) :
    skipSpace (gap ++ (text ++ rest)) = text ++ rest := by
  obtain ⟨c, cs, rfl, hc, -, -⟩ := h
  rw [Json.skipSpace_append hgap]
  exact skipSpace_cons hc (cs ++ rest)

section Lists

variable {α : Type} {P : α → List Char → Prop} {item : List Char → Reading α} {bound : Nat}
  {close : Char} {xs : List α}

/-- The reader reads the texts of `P` up to a length, where no digit follows. -/
def ReadsUpTo (item : List Char → Reading α) (P : α → List Char → Prop) (bound : Nat) : Prop :=
  ∀ ⦃x text⦄, P x text → text.length ≤ bound →
    ∀ ⦃rest⦄, Stops rest → item (text ++ rest) = some (x, rest)

theorem itemStep_append (hitem : ReadsUpTo item P bound) (hopens : ∀ x text, P x text → Opens text)
    {x : α} {before after : List Char} (hbefore : Gap before) (hx : P x text)
    (hlength : text.length ≤ bound) (hafter : Gap after) (read : List α)
    (hspace : isSpace c = false) (hdigit : c.isDigit = false) :
    itemStep item close read (before ++ text ++ after ++ c :: rest) =
      if c = ',' then some (.inl (read ++ [x]), rest)
      else if c = close then some (.inr (read ++ [x]), rest)
      else none := by
  have hstops := stops_append hafter (stops_cons hdigit rest)
  rw [itemStep, List.append_assoc, List.append_assoc, (hopens x text hx).skipSpace_append hbefore,
    hitem hx hlength hstops]
  simp only [skipSpace_append hafter, skipSpace_cons hspace]

theorem not_space_of_close (hclose : close = ']' ∨ close = '\x7d') :
    isSpace close = false ∧ close.isDigit = false ∧ close ≠ ',' := by
  rcases hclose with rfl | rfl
  · decide
  · decide

theorem readSteps_itemStep (hitem : ReadsUpTo item P bound)
    (hopens : ∀ x text, P x text → Opens text) (hclose : close = ']' ∨ close = '\x7d')
    (h : Separated P xs text) (hne : xs ≠ []) (hlength : text.length ≤ bound) (read : List α)
    (rest : List Char) :
    readSteps (itemStep item close) read (text ++ close :: rest) = some (read ++ xs, rest) := by
  obtain ⟨hspace, hdigit, hcomma⟩ := not_space_of_close hclose
  induction h generalizing read with
  | none _ => exact absurd rfl hne
  | last hbefore hx hafter =>
      simp only [List.length_append] at hlength
      apply readSteps_of_inr
      rw [itemStep_append hitem hopens hbefore hx (by omega) hafter read hspace hdigit,
        if_neg hcomma, if_pos rfl]
  | @cons x xs before text after later hbefore hx hafter hxs _ ih =>
      simp only [List.length_append, List.length_cons] at hlength
      have hstep : itemStep item close read
          (before ++ text ++ after ++ ',' :: (later ++ close :: rest)) =
            some (.inl (read ++ [x]), later ++ close :: rest) := by
        rw [itemStep_append hitem hopens hbefore hx (by omega) hafter read rfl rfl, if_pos rfl]
      have hlt : (later ++ close :: rest).length <
          (before ++ text ++ after ++ ',' :: (later ++ close :: rest)).length := by
        simp only [List.length_cons, List.length_append]
        omega
      rw [List.append_assoc, List.cons_append, readSteps_of_inl hstep hlt,
        ih hxs (by omega), List.append_assoc]
      rfl

theorem exists_item_of_separated (h : Separated P xs text) (hne : xs ≠ []) :
    ∃ before x item later, Gap before ∧ P x item ∧ text = before ++ (item ++ later) := by
  cases h with
  | none _ => exact absurd rfl hne
  | @last x before item after hbefore hx _ =>
      exact ⟨before, x, item, after, hbefore, hx, List.append_assoc before item after⟩
  | @cons x _ before item after rest hbefore hx _ _ _ =>
      exact ⟨before, x, item, after ++ ',' :: rest, hbefore, hx, by simp⟩

theorem readList_append (hitem : ReadsUpTo item P bound) (hopens : ∀ x text, P x text → Opens text)
    (hclose : close = ']' ∨ close = '\x7d') (h : Separated P xs text)
    (hlength : text.length ≤ bound) (rest : List Char) :
    readList item close (text ++ close :: rest) = some (xs, rest) := by
  by_cases hne : xs = []
  · subst hne
    cases h with
    | none hgap =>
        rw [readList, skipSpace_append hgap, skipSpace_cons (not_space_of_close hclose).1]
        exact if_pos rfl
  · have hsteps := readSteps_itemStep hitem hopens hclose h hne hlength [] rest
    obtain ⟨before, x, first, later, hbefore, hx, rfl⟩ := exists_item_of_separated h hne
    obtain ⟨c, cs, rfl, hspace, hsquare, hcurly⟩ := hopens x first hx
    have hother : c ≠ close := by
      rcases hclose with rfl | rfl
      · exact hsquare
      · exact hcurly
    rw [readList, List.append_assoc, List.append_assoc, skipSpace_append hbefore,
      List.cons_append, skipSpace_cons hspace]
    simp only [if_neg hother]
    simpa using hsteps

end Lists

theorem readField_append {P : Json → List Char → Prop} {value : List Char → Reading Json}
    {bound : Nat} (hvalue : ReadsUpTo value P bound) (hopens : ∀ j text, P j text → Opens text) :
    ReadsUpTo (readField value) (FieldText P) bound := by
  intro f text h hlength rest hrest
  cases h with
  | @field key j keyText before after text hkey hbefore hafter hj =>
      simp only [List.length_append, List.length_cons] at hlength
      have hcolon : skipSpace (before ++ ':' :: (after ++ (text ++ rest))) =
          ':' :: (after ++ (text ++ rest)) := by
        rw [skipSpace_append hbefore, skipSpace_cons rfl]
      simp only [readField, List.append_assoc, List.cons_append, readString_append hkey, hcolon]
      rw [(hopens j text hj).skipSpace_append hafter, hvalue hj (by omega) hrest]
      rfl

/-! ### Values -/

theorem opens_stringText (h : StringText s text) : Opens text := by
  cases h with
  | quoted _ => exact ⟨_, _, rfl, rfl, by decide, by decide⟩

theorem opens_fieldText {P : Json → List Char → Prop} {f : String × Json}
    (h : FieldText P f text) : Opens text := by
  cases h with
  | field hkey _ _ _ =>
      obtain ⟨c, cs, rfl, hc⟩ := opens_stringText hkey
      exact ⟨c, _, rfl, hc⟩

theorem ne_of_isDigit (h : c.isDigit = true) : ∀ d : Char, d.isDigit = false → c ≠ d := by
  rintro d hd rfl
  rw [h] at hd
  cases hd

theorem opens_of_isDigit (h : c.isDigit = true) (cs : List Char) : Opens (c :: cs) := by
  have hother := ne_of_isDigit h
  exact ⟨c, cs, rfl, by simp [isSpace, hother], hother _ rfl, hother _ rfl⟩

theorem opens_of_writes {j : Json} (h : Writes j text) : Opens text := by
  cases h with
  | number h =>
      obtain ⟨c, cs, rfl⟩ := List.exists_cons_of_ne_nil h.ne_nil
      exact opens_of_isDigit (h.isDigit c List.mem_cons_self) cs
  | string h => exact opens_stringText h
  | yes | no | array _ | object _ => exact ⟨_, _, rfl, rfl, by decide, by decide⟩

theorem readValue_of_isDigit (h : c.isDigit = true) (depth : Nat) (cs : List Char) :
    readValue (depth + 1) (c :: cs) =
      (readNumeral (c :: cs)).map fun (n, rest) => (number n, rest) := by
  rw [readValue]
  all_goals
    intro rest hrest
    exact ne_of_isDigit h _ rfl (List.cons.inj hrest).1

theorem readsUpTo_readValue (bound : Nat) : ReadsUpTo (readValue bound) Writes bound := by
  induction bound with
  | zero =>
      intro j text h hlength
      obtain ⟨c, cs, rfl, -⟩ := opens_of_writes h
      simp at hlength
  | succ bound ih =>
      intro j text h hlength rest hrest
      cases h with
      | yes => rfl
      | no => rfl
      | number h =>
          obtain ⟨c, cs, rfl⟩ := List.exists_cons_of_ne_nil h.ne_nil
          have hread := readNumeral_append h hrest
          rw [List.cons_append] at hread ⊢
          rw [readValue_of_isDigit (h.isDigit c List.mem_cons_self), hread]
          rfl
      | string h =>
          have hread := readString_append h rest
          cases h with
          | quoted _ =>
              rw [List.cons_append, List.cons_append] at hread ⊢
              rw [readValue, hread]
              rfl
      | @array items text h =>
          simp only [List.length_cons, List.length_append] at hlength
          have hread : readList (readValue bound) ']' (text ++ ']' :: rest) = some (items, rest) :=
            readList_append ih (fun _ _ => opens_of_writes) (.inl rfl) h (by omega) rest
          simp [readValue, hread]
      | @object fields text h =>
          simp only [List.length_cons, List.length_append] at hlength
          have hread : readList (readField (readValue bound)) '\x7d' (text ++ '\x7d' :: rest) =
              some (fields, rest) :=
            readList_append (readField_append ih fun _ _ => opens_of_writes)
              (fun _ _ => opens_fieldText) (.inr rfl) h (by omega) rest
          simp [readValue, hread]

/-! ### Documents -/

theorem read?_of_document {j : Json} (h : Document j text) : read? text = some j := by
  cases h with
  | @document before text after hbefore h hafter =>
      have hend : skipSpace after = [] := by
        rw [← List.append_nil after, skipSpace_append hafter]
        rfl
      have hstops : Stops after := by
        have hnil : Stops [] := by
          intro c hc
          cases hc
        simpa using stops_append hafter hnil
      have hlength : text.length ≤ (before ++ (text ++ after)).length := by
        simp only [List.length_append]
        omega
      rw [read?, List.append_assoc, (opens_of_writes h).skipSpace_append hbefore,
        readsUpTo_readValue _ h hlength hstops]
      exact if_pos hend

/-- A document denotes one value. -/
theorem Document.unique {j k : Json} (hj : Document j text) (hk : Document k text) : j = k :=
  Option.some.inj ((read?_of_document hj).symm.trans (read?_of_document hk))

end Json

end TodoLint.Text
