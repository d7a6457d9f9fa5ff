import TodoLint.Log.Directive

/-!
The filter that selects the log records to be shown. Its specification is a list of
directives, separated by commas. Of the directives that are about a record, the most
special one decides.
-/

namespace TodoLint

open Text

abbrev LogFilter := List LogDirective

namespace LogFilter

/-- The filter of a specification. Without any directive it lets errors through. -/
def ofSpec (spec : String) : Except LogSpecFault LogFilter := do
  let texts := (splitAll ',' spec.toList).filter (· ≠ [])
  let directives ← texts.mapM LogDirective.ofText
  return if directives = [] then [{ rank := LogLevel.error.rank }] else directives

/-- The directive that decides about a target: the last of the most special ones. -/
def deciding? (f : LogFilter) (target : String) : Option LogDirective :=
  (f.filter (·.concerns target)).foldl (fun best d =>
    match best with
    | some b => if b.isWithin d then some d else some b
    | none => some d) none

def shows (f : LogFilter) (r : LogRecord) : Bool :=
  match f.deciding? r.target with
  | some d => r.level.rank ≤ d.rank
  | none => false

end LogFilter

end TodoLint
