/-!
# Faults of the operating system

What a file, a socket or a stream can answer instead of its content. Most faults are the system's
own and are written as its text and number; a few are told in words.
-/

namespace RecordRelay

/-- The faults that the **system** numbers. -/
inductive OsFault where
  | notFound
  | alreadyExists
  | notADirectory
  | isADirectory
  | nameTooLong
  | noSpace
  | tooManyLinks
  | addressInUse
  deriving DecidableEq, Repr

/-- The number of a fault. -/
def OsFault.number : OsFault → Nat
  | notFound => 2
  | alreadyExists => 17
  | notADirectory => 20
  | isADirectory => 21
  | noSpace => 28
  | nameTooLong => 36
  | tooManyLinks => 40
  | addressInUse => 98

/-- The system's text for a fault. -/
def OsFault.text : OsFault → String
  | notFound => "No such file or directory"
  | alreadyExists => "File exists"
  | notADirectory => "Not a directory"
  | isADirectory => "Is a directory"
  | noSpace => "No space left on device"
  | nameTooLong => "File name too long"
  | tooManyLinks => "Too many levels of symbolic links"
  | addressInUse => "Address already in use"

/-- A fault of a file, a socket or a stream. -/
inductive IoFault where
  /-- A fault that the system numbers. -/
  | os (fault : OsFault)
  /-- A name that holds a NUL character. -/
  | nulInName
  /-- A text that is no UTF-8. -/
  | notText
  /-- Any other fault, in words. -/
  | told (text : String)
  deriving DecidableEq, Repr

/-- The words for a fault. -/
def IoFault.message : IoFault → String
  | os fault => fault.text ++ " (os error " ++ toString fault.number ++ ")"
  | nulInName => "file name contained an unexpected NUL byte"
  | notText => "stream did not contain valid UTF-8"
  | told text => text

end RecordRelay
