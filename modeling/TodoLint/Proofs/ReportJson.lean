import TodoLint.Proofs.Text.JsonReader
import TodoLint.Report.Layout

/-!
Reports as JSON. Both layouts are documents of one and the same value, and a report can be read back
from either (`json_lossless`).
-/

namespace TodoLint

namespace Text.Json

/-! ### Parts of a value -/

/-- The value of a field that is given once. -/
def field? (fields : List (String × Json)) (name : String) : Option Json :=
  match fields.filter (·.1 == name) with
  | [f] => some f.2
  | _ => none

/-- The values of the fields of a record. They are given by an object in any order, perhaps among
others, or by a list in the order of the fields. -/
def record? (names : List String) : Json → Option (List Json)
  | object fields => names.mapM (field? fields)
  | array items => if items.length = names.length then some items else none
  | _ => none

def text? : Json → Option String
  | string s => some s
  | _ => none

def flag? : Json → Option Bool
  | bool b => some b
  | _ => none

/-- A number of at most 64 bits. -/
def count? : Json → Option Nat
  | number n => if n < UInt64.size then some n else none
  | _ => none

def list? {α : Type} (item : Json → Option α) : Json → Option (List α)
  | array items => items.mapM item
  | _ => none

theorem count?_number {n : Nat} (h : n < UInt64.size) : count? (number n) = some n :=
  if_pos h

theorem list?_map {α : Type} {item : Json → Option α} {write : α → Json} {xs : List α}
    (h : ∀ x ∈ xs, item (write x) = some x) : list? item (array (xs.map write)) = some xs := by
  rw [list?]
  induction xs with
  | nil => rfl
  | cons x xs ih =>
      have hxs := ih fun y hy => h y (List.mem_cons_of_mem x hy)
      rw [List.map_cons, List.mapM_cons, h x List.mem_cons_self, hxs]
      rfl

end Text.Json

open Text

/-! ### Reports -/

def FileFinding.ofJson? (j : Json) : Option FileFinding :=
  match j.record? ["path", "row", "col", "code", "message"] with
  | some [path, row, col, code, message] => do
      return ⟨← path.text?, ← row.count?, ← col.count?, ← code.text?, ← message.text?⟩
  | _ => none

def InputFailure.ofJson? (j : Json) : Option InputFailure :=
  match j.record? ["path", "reason", "unreadable"] with
  | some [path, reason, unreadable] => do
      return ⟨← path.text?, ← reason.text?, ← unreadable.flag?⟩
  | _ => none

theorem FileFinding.ofJson?_toJson {f : FileFinding} (hrow : f.row < UInt64.size)
    (hcol : f.col < UInt64.size) : ofJson? f.toJson = some f := by
  have hrecord : f.toJson.record? ["path", "row", "col", "code", "message"] =
      some [.string f.path, .number f.row, .number f.col, .string f.code, .string f.message] := rfl
  simp [ofJson?, hrecord, Json.count?_number, hrow, hcol, Json.text?]

theorem InputFailure.ofJson?_toJson (f : InputFailure) : ofJson? f.toJson = some f := by
  have hrecord : f.toJson.record? ["path", "reason", "unreadable"] =
      some [.string f.path, .string f.reason, .bool f.unreadable] := rfl
  simp [ofJson?, hrecord, Json.text?, Json.flag?]

namespace Report

def ofJson? (j : Json) : Option Report :=
  match j.record? ["files_checked", "findings", "failures"] with
  | some [filesChecked, findings, failures] => do
      return ⟨← filesChecked.count?, ← findings.list? FileFinding.ofJson?,
        ← failures.list? InputFailure.ofJson?⟩
  | _ => none

/-- The report that a JSON document gives. -/
def decode? (text : String) : Option Report :=
  (Json.read? text.toList).bind ofJson?

/-- All numbers of the report have at most 64 bits. -/
structure Fits (r : Report) : Prop where
  filesChecked : r.filesChecked < UInt64.size
  places : ∀ f ∈ r.findings, f.row < UInt64.size ∧ f.col < UInt64.size

variable {r s : Report} {format other : Format} {color : Bool}

theorem ofJson?_toJson (h : r.Fits) : ofJson? r.toJson = some r := by
  have hrecord : r.toJson.record? ["files_checked", "findings", "failures"] =
      some [.number r.filesChecked, .array (r.findings.map FileFinding.toJson),
        .array (r.failures.map InputFailure.toJson)] := rfl
  have hfindings : Json.list? FileFinding.ofJson? (.array (r.findings.map FileFinding.toJson)) =
      some r.findings :=
    Json.list?_map fun f hf => FileFinding.ofJson?_toJson (h.places f hf).1 (h.places f hf).2
  have hfailures : Json.list? InputFailure.ofJson? (.array (r.failures.map InputFailure.toJson)) =
      some r.failures :=
    Json.list?_map fun f _ => InputFailure.ofJson?_toJson f
  simp [ofJson?, hrecord, Json.count?_number h.filesChecked, hfindings, hfailures]

theorem document_render (hformat : format ≠ .text) (color : Bool) (r : Report) :
    Json.Document r.toJson (r.render format color).toList := by
  have hdocument : ∀ text, Json.Writes r.toJson text → Json.Document r.toJson text := by
    intro text h
    simpa using Json.Document.document Json.gap_nil h Json.gap_nil
  cases format with
  | text => exact absurd rfl hformat
  | json =>
      rw [render, String.toList_ofList]
      exact hdocument _ (Json.writes_compact r.toJson)
  | jsonIndented =>
      rw [render, String.toList_ofList]
      exact hdocument _ (Json.writes_indented 0 r.toJson)

theorem decode?_render (hformat : format ≠ .text) (h : r.Fits) (color : Bool) :
    decode? (r.render format color) = some r := by
  rw [decode?, Json.read?_of_document (document_render hformat color r)]
  exact ofJson?_toJson h

/-- A report in JSON of either layout is a document, which denotes the value of the report and
nothing else. The report can be read back from it, so that different reports are never written
alike, in one layout or in two. -/
theorem json_lossless (hformat : format ≠ .text) (h : r.Fits) (color : Bool) :
    (∀ j, Json.Document j (r.render format color).toList ↔ j = r.toJson) ∧
      decode? (r.render format color) = some r ∧
      ∀ s : Report, s.Fits → ∀ other ≠ .text, ∀ paint,
        s.render other paint = r.render format color → s = r := by
  have hdocument := document_render hformat color r
  refine ⟨fun j => ⟨fun hj => hj.unique hdocument, ?_⟩, decode?_render hformat h color, ?_⟩
  · rintro rfl
    exact hdocument
  · intro s hs other hother paint hsame
    have hdecoded := decode?_render hother hs paint
    rw [hsame, decode?_render hformat h color] at hdecoded
    exact (Option.some.inj hdecoded).symm

theorem json_lossless_largest :
    ∃ r : Report, r = ⟨UInt64.size - 1,
        [⟨"a\"\\\u0001\u2028.py", 1, UInt64.size - 1, "T007", "T007: \t"⟩],
        [⟨"", "\x7f/é😀", true⟩]⟩ ∧
      r.Fits ∧ Format.jsonIndented ≠ .text ∧ decode? (r.render .jsonIndented false) = some r ∧
      ∀ s : Report, s.Fits → ∀ other ≠ .text, ∀ paint,
        s.render other paint = r.render .jsonIndented false → s = r := by
  refine ⟨_, rfl, ?fits, by decide, ?read⟩
  case fits => exact ⟨by decide, by decide⟩
  case read => exact (json_lossless (by decide) ⟨by decide, by decide⟩ false).2

example : (⟨0, [], [⟨"\"\n\u0001", "é", true⟩]⟩ : Report).render .json false =
    "\x7b\"files_checked\":0,\"findings\":[],\"failures\":[\x7b\"path\":\"\\\"\\n\\u0001\"," ++
      "\"reason\":\"é\",\"unreadable\":true\x7d]\x7d" := by
  decide

end Report

end TodoLint
