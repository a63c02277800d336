/-!
What the operating system says when it refuses something.
-/

namespace ModemBench

inductive SystemError where
  | notPermitted
  | missing
  | tooManyArguments
  /-- What is to be started is no program. -/
  | badFormat
  | badDescriptor
  | denied
  | present
  /-- Some part of a path before its end is a file. -/
  | throughFile
  | isFolder
  | badArgument
  | nameTooLong
  | notEmpty
  | other (number : Nat) (text : String)
deriving Repr, DecidableEq

namespace SystemError

def text : SystemError → String
  | notPermitted => "Operation not permitted"
  | missing => "No such file or directory"
  | tooManyArguments => "Argument list too long"
  | badFormat => "Exec format error"
  | badDescriptor => "Bad file descriptor"
  | denied => "Permission denied"
  | present => "File exists"
  | throughFile => "Not a directory"
  | isFolder => "Is a directory"
  | badArgument => "Invalid argument"
  | nameTooLong => "File name too long"
  | notEmpty => "Directory not empty"
  | other _ text => text

def number : SystemError → Nat
  | notPermitted => 1
  | missing => 2
  | tooManyArguments => 7
  | badFormat => 8
  | badDescriptor => 9
  | denied => 13
  | present => 17
  | throughFile => 20
  | isFolder => 21
  | badArgument => 22
  | nameTooLong => 36
  | notEmpty => 39
  | other number _ => number

def message (e : SystemError) : String :=
  s!"{e.text} (os error {e.number})"

end SystemError

end ModemBench
