import TraceText.Text.Basic

/-!
# Failures of input and output

## Main definitions

* `IoError` — a failure of input or output
* `IoError.notFound`, `notDirectory`, `isDirectory`, `tooLarge`, `nameTooLong`, `notUtf8` — those
  that the library raises itself
-/

namespace TraceText

/-- The failures that are told apart.  A read or a write that is only interrupted is tried again
below this level, and is none of them. -/
inductive IoErrorKind where
  /-- Nobody reads what is written. -/
  | brokenPipe
  /-- The input ended too early. -/
  | unexpectedEof
  | other
  deriving DecidableEq, Repr, Inhabited

/-- A failure of input or output. -/
structure IoError where
  kind : IoErrorKind
  message : Text
  deriving DecidableEq, Repr, Inhabited

namespace IoError

/-- A path leads to nothing. -/
def notFound : IoError := ⟨.other, "No such file or directory (os error 2)"⟩

/-- A path leads through a file. -/
def notDirectory : IoError := ⟨.other, "Not a directory (os error 20)"⟩

/-- A directory is used as a file. -/
def isDirectory : IoError := ⟨.other, "Is a directory (os error 21)"⟩

/-- A file would become larger than a file can be. -/
def tooLarge : IoError := ⟨.other, "File too large (os error 27)"⟩

/-- A path, or a name in it, is too long. -/
def nameTooLong : IoError := ⟨.other, "File name too long (os error 36)"⟩

/-- Bytes are not UTF-8. -/
def notUtf8 : IoError := ⟨.other, "stream did not contain valid UTF-8"⟩

end IoError

end TraceText
