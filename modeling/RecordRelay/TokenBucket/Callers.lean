import RecordRelay.TokenBucket

/-!
# Callers of a bucket

Threads that share a bucket take turns at it behind a lock. A call **reads the clock before it has
the lock**, so others may come in between, and the instants reach the bucket in whatever order the
calls get the lock. The clock is shared, and it does not go back.
-/

namespace RecordRelay.TokenBucket

/-- A bucket, its clock and those who wait for its lock. -/
structure Callers (α : Type) where
  /-- The instant that the clock shows. -/
  clock : Int
  /-- The bucket. -/
  bucket : TokenBucket α
  /-- The threads that read the clock and wait for the lock, with the instants that they read. -/
  waiting : List (Nat × Int)

namespace Callers

/-- What can **happen next**. -/
inductive Action where
  /-- Time passes. -/
  | pass (nanos : Nat)
  /-- A thread calls: it reads the clock. -/
  | call (thread : Nat)
  /-- A thread that has called gets the lock and asks for a token. -/
  | lock (thread : Nat)
  deriving DecidableEq, Repr

/-- What can **occur**. -/
inductive Occurrence where
  /-- A thread read the clock. -/
  | read (thread : Nat) (instant : Int)
  /-- A call ended: whose it was, the instant it came with, and whether it was granted. -/
  | decided (thread : Nat) (instant : Int) (granted : Bool)
  deriving DecidableEq, Repr

variable {α : Type} [Quantity α]

/-- A full bucket that is made at this instant and that nobody has called yet. -/
def start (limits : Limits) (created : Int) : Callers α := ⟨created, full limits created, []⟩

/-- **One step**: the state after it and what occurred, or nothing if it cannot happen now. A thread
makes one call at a time. -/
def step (limits : Limits) (a : Action) (st : Callers α) :
    Option (Callers α × List Occurrence) :=
  match a with
  | .pass nanos => some ({ st with clock := st.clock + nanos }, [])
  | .call thread =>
    match st.waiting.lookup thread with
    | some _ => none
    | none =>
      some ({ st with waiting := st.waiting ++ [(thread, st.clock)] }, [.read thread st.clock])
  | .lock thread =>
    match st.waiting.lookup thread with
    | none => none
    | some instant =>
      let r := st.bucket.take limits instant
      some ({ st with bucket := r.2, waiting := st.waiting.erase (thread, instant) },
        [.decided thread instant r.1])

end Callers

end RecordRelay.TokenBucket
