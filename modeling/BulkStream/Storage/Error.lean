/-!
Failures of reading and writing files. Those of the operating system bear its number in their text.
-/
namespace BulkStream

inductive DiskError
  | notFound
  | permissionDenied
  | notDirectory
  | isDirectory
  | noSpace
  | nameTooLong
  | invalidName
  /-- The call was cut short by a signal and may be repeated. -/
  | interrupted
  /-- Data was asked of an input that has none. -/
  | emptyInput
  | other (text : String)
deriving DecidableEq, Repr

def DiskError.message : DiskError → String
  | .notFound => "No such file or directory (os error 2)"
  | .permissionDenied => "Permission denied (os error 13)"
  | .notDirectory => "Not a directory (os error 20)"
  | .isDirectory => "Is a directory (os error 21)"
  | .noSpace => "No space left on device (os error 28)"
  | .nameTooLong => "File name too long (os error 36)"
  | .invalidName => "file name contained an unexpected NUL byte"
  | .interrupted => "Interrupted system call (os error 4)"
  | .emptyInput => "input file is empty"
  | .other text => text

end BulkStream
