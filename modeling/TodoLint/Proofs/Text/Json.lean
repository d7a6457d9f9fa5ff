import Mathlib.Tactic.SplitIfs
import TodoLint.Text.Json
import TodoLint.Text.Numeral

/-!
The texts that write a JSON document, by the grammar of JSON without null and with natural numbers
alone. White space may stand around every value, and every character of a string may be escaped.
Both layouts of a document write it (`writes_compact`, `writes_indented`).
-/

namespace TodoLint.Text.Json

/-! ### Grammar -/

/-- White space between the parts of a document. -/
def isSpace (c : Char) : Bool :=
  c = ' ' || c = '\t' || c = '\n' || c = '\r'

def Gap (cs : List Char) : Prop :=
  ∀ c ∈ cs, isSpace c = true

/-- The characters that one letter after a backslash stands for. -/
def shortEscapes : List (Char × Char) :=
  [('"', '"'), ('\\', '\\'), ('/', '/'), ('b', '\x08'), ('f', '\x0c'), ('n', '\n'), ('r', '\r'),
    ('t', '\t')]

def hexValue? (digits : List Char) : Option Nat :=
  digits.foldlM (fun n c => (digit? 16 c).map (16 * n + ·)) 0

/-- What stands for a character inside a string: the character itself, or an escape. A character
above U+FFFF may be escaped as two surrogates. -/
inductive CharText : Char → List Char → Prop
  | plain {c : Char} (hcontrol : 0x20 ≤ c.toNat) (hquote : c ≠ '"') (hslash : c ≠ '\\') :
      CharText c [c]
  | short {letter c : Char} (h : (letter, c) ∈ shortEscapes) : CharText c ['\\', letter]
  | code {c : Char} {digits : List Char} (hlength : digits.length = 4)
      (hvalue : hexValue? digits = some c.toNat) : CharText c ('\\' :: 'u' :: digits)
  | surrogates {c : Char} {first second : List Char} {high low : Nat}
      (hfirst : first.length = 4) (hhigh : hexValue? first = some (0xD800 + high))
      (hsecond : second.length = 4) (hlow : hexValue? second = some (0xDC00 + low))
      (hlt : low < 0x400) (hvalue : c.toNat = 0x10000 + 0x400 * high + low) :
      CharText c ('\\' :: 'u' :: first ++ '\\' :: 'u' :: second)

/-- What stands for a text inside a string. -/
inductive Spells : List Char → List Char → Prop
  | nil : Spells [] []
  | cons {c : Char} {cs piece rest : List Char} (hc : CharText c piece) (hcs : Spells cs rest) :
      Spells (c :: cs) (piece ++ rest)

inductive StringText : String → List Char → Prop
  | quoted {s : String} {inner : List Char} (h : Spells s.toList inner) :
      StringText s ('"' :: inner ++ ['"'])

/-- Decimal digits that write a number. There is no zero in front. -/
structure Numeral (n : Nat) (digits : List Char) : Prop where
  ne_nil : digits ≠ []
  isDigit : ∀ c ∈ digits, c.isDigit = true
  not_padded : digits.head? = some '0' → digits = ['0']
  value : Nat.ofDigitChars 10 digits 0 = n

/-- Texts of several things, with commas between them and gaps around them. -/
inductive Separated {α : Type} (P : α → List Char → Prop) : List α → List Char → Prop
  | none {gap : List Char} (h : Gap gap) : Separated P [] gap
  | last {x : α} {before text after : List Char} (hbefore : Gap before) (hx : P x text)
      (hafter : Gap after) : Separated P [x] (before ++ text ++ after)
  | cons {x : α} {xs : List α} {before text after rest : List Char} (hbefore : Gap before)
      (hx : P x text) (hafter : Gap after) (hne : xs ≠ []) (hxs : Separated P xs rest) :
      Separated P (x :: xs) (before ++ text ++ after ++ ',' :: rest)

/-- A key and a value with a colon between them. -/
inductive FieldText (P : Json → List Char → Prop) : String × Json → List Char → Prop
  | field {key : String} {value : Json} {keyText before after text : List Char}
      (hkey : StringText key keyText) (hbefore : Gap before) (hafter : Gap after)
      (hvalue : P value text) :
      FieldText P (key, value) (keyText ++ before ++ ':' :: after ++ text)

/-- The text writes the value, without white space around it. -/
inductive Writes : Json → List Char → Prop
  | yes : Writes (bool true) ['t', 'r', 'u', 'e']
  | no : Writes (bool false) ['f', 'a', 'l', 's', 'e']
  | number {n : Nat} {digits : List Char} (h : Numeral n digits) : Writes (number n) digits
  | string {s : String} {text : List Char} (h : StringText s text) : Writes (string s) text
  | array {items : List Json} {text : List Char} (h : Separated Writes items text) :
      Writes (array items) ('[' :: text ++ [']'])
  | object {fields : List (String × Json)} {text : List Char}
      (h : Separated (FieldText Writes) fields text) :
      Writes (object fields) ('\x7b' :: text ++ ['\x7d'])

/-- The text is a JSON document that denotes the value. -/
inductive Document : Json → List Char → Prop
  | document {j : Json} {before text after : List Char} (hbefore : Gap before)
      (h : Writes j text) (hafter : Gap after) : Document j (before ++ text ++ after)

/-! ### Characters, strings and numbers -/

theorem hexValue?_hexDigit : ∀ n < 0x20,
    hexValue? ['0', '0', hexDigit (n / 16), hexDigit (n % 16)] = some n := by
  decide

theorem charText_escape (c : Char) : CharText c (escape c) := by
  unfold escape
  split_ifs with hquote hslash _ _ _ _ _ hcontrol
  iterate 7
    · subst c
      exact .short (by decide)
  · exact .code rfl (hexValue?_hexDigit c.toNat hcontrol)
  · exact .plain (Nat.le_of_not_lt hcontrol) hquote hslash

theorem spells_flatMap_escape (cs : List Char) : Spells cs (cs.flatMap escape) := by
  induction cs with
  | nil => exact .nil
  | cons c cs ih => exact .cons (charText_escape c) ih

theorem stringText_stringText (s : String) : StringText s (stringText s) :=
  .quoted (spells_flatMap_escape s.toList)

theorem eq_zero_of_head?_toDigits {n : Nat} (h : (Nat.toDigits 10 n).head? = some '0') :
    n = 0 := by
  induction n using Nat.strongRecOn with
  | ind n ih =>
      rw [Nat.toDigits_eq_if (by omega)] at h
      split at h
      · rename_i hlt
        have hdigit : ∀ d < 10, d.digitChar = '0' → d = 0 := by decide
        exact hdigit n hlt (by simpa using h)
      · rename_i hle
        obtain ⟨d, ds, hds⟩ := List.exists_cons_of_ne_nil (@Nat.toDigits_ne_nil (n / 10) 10)
        have hzero := ih (n / 10) (by omega) (by simpa [hds] using h)
        omega

theorem numeral_toDigits (n : Nat) : Numeral n (Nat.toDigits 10 n) where
  ne_nil := Nat.toDigits_ne_nil
  isDigit c hc := Nat.isDigit_of_mem_toDigits (by omega) (by omega) hc
  not_padded h := by
    rw [eq_zero_of_head?_toDigits h]
    rfl
  value := Nat.ofDigitChars_toDigits (by omega) (by omega)

/-! ### Layouts -/

@[elab_as_elim]
theorem induction {P : Json → Prop} (bool : ∀ b, P (bool b)) (number : ∀ n, P (number n))
    (string : ∀ s, P (string s)) (array : ∀ items, (∀ j ∈ items, P j) → P (array items))
    (object : ∀ fields, (∀ f ∈ fields, P f.2) → P (object fields)) (j : Json) : P j :=
  @Json.rec P (fun items => ∀ j ∈ items, P j) (fun fields => ∀ f ∈ fields, P f.2) (fun f => P f.2)
    bool number string array object (by simp)
    (fun _ _ hj hjs => List.forall_mem_cons.mpr ⟨hj, hjs⟩) (by simp)
    (fun _ _ hf hfs => List.forall_mem_cons.mpr ⟨hf, hfs⟩) (fun _ _ hj => hj) j

theorem compactItems_eq (items : List Json) :
    compactItems items = items.flatMap fun item => ',' :: item.compact := by
  induction items with
  | nil => rfl
  | cons item items ih => rw [compactItems, ih, List.flatMap_cons]

/-- A field in the compact layout. -/
def compactField (f : String × Json) : List Char :=
  stringText f.1 ++ ':' :: f.2.compact

theorem compactFields_eq (fields : List (String × Json)) :
    compactFields fields = fields.flatMap fun f => ',' :: compactField f := by
  induction fields with
  | nil => rfl
  | cons f fields ih =>
      rw [compactFields, ih, List.flatMap_cons]
      simp [compactField]

theorem indentedItems_eq (depth : Nat) (items : List Json) :
    indentedItems depth items =
      items.flatMap fun item => ',' :: newLine (depth + 1) ++ item.indented (depth + 1) := by
  induction items with
  | nil => rfl
  | cons item items ih => rw [indentedItems, ih, List.flatMap_cons]

/-- A field in the indented layout. -/
def indentedField (depth : Nat) (f : String × Json) : List Char :=
  stringText f.1 ++ ':' :: ' ' :: f.2.indented depth

theorem indentedFields_eq (depth : Nat) (fields : List (String × Json)) :
    indentedFields depth fields =
      fields.flatMap fun f => ',' :: newLine (depth + 1) ++ indentedField (depth + 1) f := by
  induction fields with
  | nil => rfl
  | cons f fields ih =>
      rw [indentedFields, ih, List.flatMap_cons]
      simp [indentedField]

theorem gap_nil : Gap [] := by
  intro c hc
  cases hc

theorem gap_newLine (depth : Nat) : Gap (newLine depth) := by
  intro c hc
  rcases List.mem_cons.mp hc with rfl | hspace
  · rfl
  · rw [List.eq_of_mem_replicate hspace]
    rfl

/-- Both layouts put one gap before every item and another behind the last one. -/
theorem separated_flatMap {α : Type} {P : α → List Char → Prop} {write : α → List Char}
    {before after : List Char} (hbefore : Gap before) (hafter : Gap after) {x : α} {xs : List α}
    (h : ∀ y ∈ x :: xs, P y (write y)) :
    Separated P (x :: xs)
      (before ++ write x ++ (xs.flatMap fun y => ',' :: before ++ write y) ++ after) := by
  induction xs generalizing x with
  | nil => simpa using Separated.last hbefore (h x (by simp)) hafter
  | cons y ys ih =>
      have hrest := ih fun z hz => h z (List.mem_cons_of_mem x hz)
      simpa using Separated.cons hbefore (h x (by simp)) gap_nil (List.cons_ne_nil y ys) hrest

theorem writes_compact (j : Json) : Writes j j.compact := by
  induction j using induction with
  | bool b =>
      cases b with
      | false => exact .no
      | true => exact .yes
  | number n => exact .number (numeral_toDigits n)
  | string s => exact .string (stringText_stringText s)
  | array items ih =>
      cases items with
      | nil => exact .array (.none gap_nil)
      | cons item items =>
          have h := separated_flatMap gap_nil gap_nil ih
          rw [compact, compactItems_eq]
          simpa using Writes.array h
  | object fields ih =>
      cases fields with
      | nil => exact .object (.none gap_nil)
      | cons f fields =>
          have hfield : ∀ g ∈ f :: fields, FieldText Writes g (compactField g) := by
            intro g hg
            simpa [compactField] using
              FieldText.field (stringText_stringText g.1) gap_nil gap_nil (ih g hg)
          have h := separated_flatMap gap_nil gap_nil hfield
          rw [compact, compactFields_eq]
          simpa [compactField] using Writes.object h

theorem writes_indented (depth : Nat) (j : Json) : Writes j (j.indented depth) := by
  induction j using induction generalizing depth with
  | bool b =>
      cases b with
      | false => exact .no
      | true => exact .yes
  | number n => exact .number (numeral_toDigits n)
  | string s => exact .string (stringText_stringText s)
  | array items ih =>
      cases items with
      | nil => exact .array (.none gap_nil)
      | cons item items =>
          have h := separated_flatMap (gap_newLine (depth + 1)) (gap_newLine depth)
            fun j hj => ih j hj (depth + 1)
          rw [indented, indentedItems_eq]
          simpa using Writes.array h
  | object fields ih =>
      cases fields with
      | nil => exact .object (.none gap_nil)
      | cons f fields =>
          have hspace : Gap [' '] := by
            intro c hc
            rw [List.mem_singleton.mp hc]
            rfl
          have hfield : ∀ g ∈ f :: fields, FieldText Writes g (indentedField (depth + 1) g) := by
            intro g hg
            simpa [indentedField] using
              FieldText.field (stringText_stringText g.1) gap_nil hspace (ih g hg (depth + 1))
          have h := separated_flatMap (gap_newLine (depth + 1)) (gap_newLine depth) hfield
          rw [indented, indentedFields_eq]
          simpa [indentedField] using Writes.object h

end TodoLint.Text.Json
