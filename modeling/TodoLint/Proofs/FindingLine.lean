import TodoLint.Diagnostic
import TodoLint.Proofs.Contribution
import TodoLint.Proofs.Text.Substring
import TodoLint.Report.Layout

/-!
Findings as they are reported: to a caller, to a host program, and in the lines of a report. The
line of a finding takes its message apart again, and no colon in the text of the finding or in a
tag leads it astray (`surfaces_agree`).
-/

namespace TodoLint

open Text

theorem colon_notMem_codeName (code : Nat) : ':' ∉ (codeName code).toList := by
  have hdigits : ∀ c ∈ Nat.toDigits 10 code, c.isDigit = true := fun c hc =>
    Nat.isDigit_of_mem_toDigits (by omega) (by omega) hc
  intro hcolon
  rw [codeName, String.toList_append, List.mem_append] at hcolon
  rcases hcolon with hmark | hcode
  · exact absurd hmark (by decide)
  · rw [Nat.toString_eq_repr, Nat.toList_repr] at hcode
    exact absurd (hdigits ':' hcode) (by decide)

namespace Report

/-- The text of a message is that of the finding, whatever colons and spaces it has. -/
theorem messageText_message (f : Finding) : messageText f.message = f.text := by
  have hmessage : f.message.toList =
      (codeName f.code).toList ++ ([':', ' '] ++ f.text.toList) := by
    simp [Finding.message]
  have hafter : afterFirst? [':', ' '] f.message.toList = some f.text.toList := by
    rw [hmessage]
    exact afterFirst?_append_of_notMem [' '] _ (colon_notMem_codeName f.code)
  rw [messageText, hafter]
  exact String.ofList_toList

end Report

/-- The line of a finding in plain text, put together from the finding itself. -/
def Finding.line (path : String) (f : Finding) : String :=
  path ++ ":" ++ toString f.row ++ ":" ++ toString f.col ++ ": " ++ "T00" ++ toString f.code ++
    " " ++ f.text ++ "\n"

theorem Report.findingLine_ofFinding (path : String) (f : Finding) :
    findingLine false (.ofFinding path f) = f.line path := by
  simp only [findingLine, FileFinding.ofFinding, messageText_message, codeName, Style.paint,
    Bool.false_eq_true, if_false, Finding.line, String.append_assoc]

theorem Registry.diagnose_of_ok {r : Registry} {source : String} {tokens : List Token}
    (h : tokenize source = .ok tokens) :
    r.diagnose source = .ok ((r.check tokens).map fun f => ⟨f.row, f.col, f.message, {}⟩) := by
  rw [diagnose, checkSource_eq_ok h]
  rfl

/-- A source that has tokens has the same findings in the same order for a caller, for a host
program and in a report. Their messages give the code and the text of the finding, and the report
in plain text writes both as they are. -/
theorem surfaces_agree (r : Registry) {source : String} {tokens : List Token}
    (h : tokenize source = .ok tokens) (path : String) :
    ∃ findings diagnostics report,
      r.checkSource source = .ok findings ∧
      r.diagnose source = .ok diagnostics ∧
      Report.ofSource r path source = .ok report ∧
      diagnostics.map (fun d => (d.row, d.col, d.message)) =
        findings.map (fun f => (f.row, f.col, "T00" ++ toString f.code ++ ": " ++ f.text)) ∧
      report.findings.map (fun f => (f.path, f.row, f.col, f.code, f.message)) =
        findings.map (fun f => (path, f.row, f.col, "T00" ++ toString f.code,
          "T00" ++ toString f.code ++ ": " ++ f.text)) ∧
      report.findings.map (Report.findingLine false) = findings.map (Finding.line path) ∧
      report.render .text false =
        String.join (findings.map (Finding.line path)) ++ "\nChecked 1 files\n" ++
          report.verdictLine false := by
  have hlines : ((r.check tokens).map (FileFinding.ofFinding path)).map
      (Report.findingLine false) = (r.check tokens).map (Finding.line path) := by
    rw [List.map_map]
    exact List.map_congr_left fun f _ => Report.findingLine_ofFinding path f
  refine ⟨_, _, _, Registry.checkSource_eq_ok h, Registry.diagnose_of_ok h,
    Report.ofSource_of_ok path h, ?diagnostics, ?findings, hlines, ?text⟩
  case diagnostics =>
    rw [List.map_map]
    rfl
  case findings =>
    rw [List.map_map]
    rfl
  case text =>
    have hfiles : "\nChecked " ++ (Nat.repr 1 ++ " files\n") = "\nChecked 1 files\n" := by decide
    rw [Report.render, Report.toText, hlines, ← hfiles]
    simp [String.join, String.append_assoc]

/-- Colons and spaces in a tag, in the text of a rule of its own, and in the path. -/
theorem surfaces_agree_colons :
    let echo : Rule :=
      ⟨UInt32.size - 1, "echo", "comment", .ofComment fun _ t => some (": " ++ t.text)⟩
    let r : Registry := ⟨{ tags := ["TODO", "a: b"], badTags := ["a: b"] }, [.badTag, echo]⟩
    ∃ tokens findings report, tokenize "# A: B\n" = .ok tokens ∧
      r.checkSource "# A: B\n" = .ok findings ∧
      Report.ofSource r "x: y.py" "# A: B\n" = .ok report ∧
      report.findings.map (Report.findingLine false) = findings.map (Finding.line "x: y.py") ∧
      report.render .text false =
        "x: y.py:1:1: T001 use TODO instead of A: B for consistency\n" ++
          "x: y.py:1:1: T004294967295 : # A: B\n\nChecked 1 files\n2 findings\n" := by
  intro echo r
  have htext : (Report.ofSource r "x: y.py" "# A: B\n").toOption.map (·.render .text false) =
      some ("x: y.py:1:1: T001 use TODO instead of A: B for consistency\n" ++
        "x: y.py:1:1: T004294967295 : # A: B\n\nChecked 1 files\n2 findings\n") := by
    decide +kernel
  cases h : tokenize "# A: B\n" with
  | error fault =>
      rw [Report.ofSource_of_error "x: y.py" h] at htext
      cases htext
  | ok tokens =>
      obtain ⟨findings, _, report, hfindings, -, hreport, -, -, hlines, -⟩ :=
        surfaces_agree r h "x: y.py"
      rw [hreport] at htext
      exact ⟨tokens, findings, report, rfl, hfindings, hreport, hlines, Option.some.inj htext⟩

end TodoLint
