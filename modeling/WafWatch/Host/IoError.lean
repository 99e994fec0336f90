/-!
This module holds the errors with which the operating system answers.
-/

namespace WafWatch

/--
Why the operating system refuses something.
-/
inductive IoError where
  | notFound
  | permissionDenied
  | notDirectory
  | isDirectory
  | addressInUse
  | addressNotAvailable
  /-- A path holds a NUL character. -/
  | badPath
  /-- The content of a file is no text. -/
  | notText
  /-- Any other reason, in words. -/
  | other (reason : String)
  deriving DecidableEq, Repr, Inhabited

namespace IoError

/--
The number of an error, if the operating system has numbered it.
-/
def number? : IoError → Option Nat
  | .notFound => some 2
  | .permissionDenied => some 13
  | .notDirectory => some 20
  | .isDirectory => some 21
  | .addressInUse => some 98
  | .addressNotAvailable => some 99
  | .badPath => none
  | .notText => none
  | .other _ => none

def reason : IoError → String
  | .notFound => "No such file or directory"
  | .permissionDenied => "Permission denied"
  | .notDirectory => "Not a directory"
  | .isDirectory => "Is a directory"
  | .addressInUse => "Address already in use"
  | .addressNotAvailable => "Cannot assign requested address"
  | .badPath => "file name contained an unexpected NUL byte"
  | .notText => "stream did not contain valid UTF-8"
  | .other reason => reason

def message (error : IoError) : String :=
  match error.number? with
  | some n => s!"{error.reason} (os error {n})"
  | none => error.reason

end IoError

end WafWatch
