import Mathlib.Algebra.GroupWithZero.Nat
import Mathlib.Tactic.SplitIfs
import RecordRelay.Proofs.Delivery.History

/-!
# What the counters say of a trace

The metrics are moved by events, and a publisher's events are read off its trace. So a counter that
one kind of occurrence moves, and no other, says how many of them there were, and the sum of a
distribution adds up what they carried (`moved_events`).
-/

namespace RecordRelay

namespace Metrics

/-- The moves of a series add up, whatever it starts from. -/
theorem foldl_moves (s : Series) (moves : List (Series × Nat)) (n : Nat) :
    moves.foldl (fun n (t, k) => if t = s then n + k else n) n
      = n + moves.foldl (fun n (t, k) => if t = s then n + k else n) 0 := by
  induction moves generalizing n with
  | nil => rfl
  | cons m moves ih =>
    obtain ⟨t, k⟩ := m
    simp only [List.foldl_cons]
    rw [ih, ih (if t = s then 0 + k else 0)]
    split_ifs <;> omega

/-- What two lists of events move, they move one after the other. -/
theorem moved_append (xs ys : List Event) (s : Series) :
    moved (xs ++ ys) s = moved xs s + moved ys s := by
  rw [moved, List.flatMap_append, List.foldl_append, foldl_moves]
  rfl

end Metrics

open Metrics Occurrence

/-- **A series that moves by `g` with every occurrence that `f` reads, and with no other,** stands
at the sum over the trace. -/
theorem moved_events {β : Type} {s : Series} {f : Occurrence → Option β} {g : β → Nat}
    (hmoved : ∀ o : Occurrence, moved o.event?.toList s = ((f o).map g).getD 0)
    (tr : List Occurrence) : moved (tr.filterMap event?) s = ((tr.filterMap f).map g).sum := by
  induction tr with
  | nil => rfl
  | cons o tr ih =>
    have hcons : (o :: tr).filterMap event? = o.event?.toList ++ tr.filterMap event? := by
      cases ho : o.event? with
      | none => exact List.filterMap_cons_none ho
      | some e => exact List.filterMap_cons_some ho
    rw [hcons, moved_append, hmoved, ih]
    cases ho : f o with
    | none => rw [List.filterMap_cons_none ho, Option.map_none, Option.getD_none, Nat.zero_add]
    | some b =>
      rw [List.filterMap_cons_some ho, List.map_cons, List.sum_cons, Option.map_some,
        Option.getD_some]

/-- A counter that every occurrence of one kind moves by one **counts them**. -/
theorem moved_events_one {β : Type} {s : Series} {f : Occurrence → Option β}
    (hmoved : ∀ o : Occurrence, moved o.event?.toList s = ((f o).map fun _ => 1).getD 0)
    (tr : List Occurrence) : moved (tr.filterMap event?) s = (tr.filterMap f).length := by
  rw [moved_events hmoved, List.map_const', List.sum_replicate_nat, Nat.mul_one]

open Instrument in
/-- **What the counters of a publisher count**: submissions whose calls returned an identifier and
the size of their payloads, submissions that were refused, messages that the sink took, and reports
that were entered into the ledger. A call that was dropped moves none of them. -/
theorem moved_series (tr : List Occurrence) :
    moved (tr.filterMap event?) messagesSubmitted.value = (tr.filterMap accepted?).length
      ∧ moved (tr.filterMap event?) submittedBytes.count = (tr.filterMap accepted?).length
      ∧ moved (tr.filterMap event?) submittedBytes.sum
        = ((tr.filterMap accepted?).map (·.payload.size)).sum
      ∧ moved (tr.filterMap event?) submitRejected.value = (tr.filterMap rejected?).length
      ∧ moved (tr.filterMap event?) messagesDelivered.value = (tr.filterMap delivered?).length
      ∧ moved (tr.filterMap event?) deliveryFailures.value = (tr.filterMap recorded?).length := by
  refine ⟨moved_events_one ?_ tr, moved_events_one ?_ tr, moved_events (fun o => ?_) tr,
    moved_events_one ?_ tr, moved_events_one ?_ tr, moved_events_one ?_ tr⟩
  case refine_3 =>
    cases o with
    | accepted s => exact Nat.zero_add _
    | appended s result => rcases result with fault | ⟨⟩ <;> rfl
    | _ => rfl
  all_goals
    intro o
    cases o with
    | appended s result => rcases result with fault | ⟨⟩ <;> rfl
    | _ => rfl

end RecordRelay
