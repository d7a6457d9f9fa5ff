import TodoLint.Failure
import TodoLint.Log

/-!
What a check uses up and leaves behind besides its results: the standard input and the
log.
-/

namespace TodoLint

/-- The standard input that is still to be read, and the records made so far. -/
structure Session where
  stdin : ByteArray := .empty
  log : Array LogRecord := #[]

/-- A computation that may read standard input and make records. -/
abbrev SessionM := StateM Session

/-- Makes a record. -/
def record (level : LogLevel) (target message : String) : SessionM Unit :=
  modify fun s => { s with log := s.log.push ⟨level, target, message⟩ }

/-- The rest of standard input as text. Nothing is left of it afterwards, even if it is no
text. -/
def readStdin : SessionM (Except Failure String) := do
  let bytes := (← get).stdin
  modify ({ · with stdin := .empty })
  return (decodeText bytes).mapError .stdinUnreadable

end TodoLint
