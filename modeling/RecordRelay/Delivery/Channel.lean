/-!
# Channels

The tasks of a publisher talk over **channels**, each of which holds a bounded number of things. A
channel counts its free places, and the count has an end. So there are channels of every size from
one up to the greatest, and of no other: whoever asks for one of another size gets no answer at all,
but crashes.
-/

namespace RecordRelay.Channel

/-- The **greatest size** of a channel: all that a word of 64 bits can count, over eight. -/
def greatest : Nat := (UInt64.size - 1) >>> 3

/-- Why whoever asks for a channel **crashes**. -/
inductive Crash where
  /-- The channel is to hold nothing. -/
  | noPlace
  /-- Its places cannot be counted. -/
  | tooLarge
  deriving DecidableEq, Repr

/-- The words for a crash. -/
def Crash.message : Crash → String
  | noPlace => "mpsc bounded channel requires buffer > 0"
  | tooLarge =>
    "a semaphore may not have more than MAX_PERMITS permits (" ++ toString greatest ++ ")"

/-- **Makes a channel** of a size. -/
def make (size : Nat) : Except Crash Unit :=
  if size = 0 then .error .noPlace
  else if greatest < size then .error .tooLarge
  else .ok ()

end RecordRelay.Channel
