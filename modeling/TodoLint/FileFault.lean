/-!
Reasons why a file or directory cannot be read.
-/

namespace TodoLint

/-- Why a path cannot be read as text. -/
inductive FileFault where
  | notFound
  | notDirectory
  | isDirectory
  | nameTooLong
  | linkLoop
  /-- The path holds the character NUL. -/
  | nulInPath
  | notUtf8
  /-- Any other reason, in the words of the system. -/
  | other (reason : String)
deriving DecidableEq, Repr

def FileFault.message : FileFault → String
  | notFound => "No such file or directory (os error 2)"
  | notDirectory => "Not a directory (os error 20)"
  | isDirectory => "Is a directory (os error 21)"
  | nameTooLong => "File name too long (os error 36)"
  | linkLoop => "Too many levels of symbolic links (os error 40)"
  | nulInPath => "file name contained an unexpected NUL byte"
  | notUtf8 => "stream did not contain valid UTF-8"
  | other reason => reason

/-- The wording of a fault at a path in a directory walk. -/
def FileFault.walkMessage (path : String) (fault : FileFault) : String :=
  "IO error for operation on " ++ path ++ ": " ++ fault.message

/-- The text that bytes encode. -/
def decodeText (bytes : ByteArray) : Except FileFault String :=
  match String.fromUTF8? bytes with
  | some text => .ok text
  | none => .error .notUtf8

end TodoLint
