/-!
# File faults

The reasons for which an operation on the file tree fails, with the wording the
system gives them.
-/

namespace CompileOrder

/-- Why a path could not be used. -/
inductive FileFault where
  /-- Nothing has this name. -/
  | notFound
  /-- Something other than a directory stands where one is needed. -/
  | notDirectory
  /-- A directory stands where a file is needed. -/
  | isDirectory
  /-- Something has this name already. -/
  | alreadyExists
  /-- The directory still has entries. -/
  | notEmpty
  /-- The path or one of its names is longer than the system allows. -/
  | nameTooLong
  /-- More links would have to be followed than the system allows. -/
  | tooManyLinks
  /-- There is no such device. -/
  | noDevice
  /-- The system does not do this with what the path leads to. -/
  | invalid
  /-- What the path leads to is in use. -/
  | busy
  /-- The system does not allow this. -/
  | notPermitted
  /-- The path holds a NUL character, which no name can. -/
  | nulInName
  /-- The contents are not UTF-8. -/
  | notUtf8
  /-- Nothing is open that could be used. -/
  | notOpen
  /-- There is no room for what is written. -/
  | noRoom
  deriving DecidableEq, Repr

/-- The system's words for a fault. -/
def FileFault.words : FileFault → String
  | .notFound => "No such file or directory"
  | .notDirectory => "Not a directory"
  | .isDirectory => "Is a directory"
  | .alreadyExists => "File exists"
  | .notEmpty => "Directory not empty"
  | .nameTooLong => "File name too long"
  | .tooManyLinks => "Too many levels of symbolic links"
  | .noDevice => "No such device or address"
  | .invalid => "Invalid argument"
  | .busy => "Device or resource busy"
  | .notPermitted => "Operation not permitted"
  | .nulInName => "file name contained an unexpected NUL byte"
  | .notUtf8 => "stream did not contain valid UTF-8"
  | .notOpen => "Bad file descriptor"
  | .noRoom => "No space left on device"

/-- The system's number for a fault, if it is one of the system's. -/
def FileFault.number? : FileFault → Option Nat
  | .notFound => some 2
  | .notDirectory => some 20
  | .isDirectory => some 21
  | .alreadyExists => some 17
  | .notEmpty => some 39
  | .nameTooLong => some 36
  | .tooManyLinks => some 40
  | .noDevice => some 6
  | .invalid => some 22
  | .busy => some 16
  | .notPermitted => some 1
  | .notOpen => some 9
  | .noRoom => some 28
  | .nulInName | .notUtf8 => none

/-- The wording of a fault. -/
def FileFault.message (f : FileFault) : String :=
  match f.number? with
  | some n => f.words ++ " (os error " ++ toString n ++ ")"
  | none => f.words

end CompileOrder
