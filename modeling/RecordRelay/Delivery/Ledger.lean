import RecordRelay.Delivery.Message

/-!
# The ledger of failed deliveries

The ledger counts every failed delivery and keeps the reports of the latest few, oldest first.
-/

namespace RecordRelay

namespace Ledger

/-- How many reports a ledger keeps. -/
def kept : Nat := 32

end Ledger

/-- A **ledger** of failed deliveries. -/
structure Ledger where
  /-- How many deliveries failed. -/
  count : Nat
  /-- The latest reports, oldest first. -/
  recent : List Undelivered
  /-- All reports are kept while there are few, and then as many as fit. -/
  length_recent : recent.length = min count Ledger.kept
  deriving DecidableEq

namespace Ledger

/-- A ledger without entries. -/
def empty : Ledger := ⟨0, [], rfl⟩

/-- **Records** a failure. The oldest report leaves when there are too many. -/
def record (l : Ledger) (f : Undelivered) : Ledger where
  count := l.count + 1
  recent := (l.recent ++ [f]).drop (l.recent.length + 1 - kept)
  length_recent := by
    rw [List.length_drop, List.length_append, List.length_singleton, l.length_recent]
    omega

/-- The ledger of these failures, the first one recorded first. -/
def ofList (failures : List Undelivered) : Ledger := failures.foldl record empty

end Ledger

end RecordRelay
