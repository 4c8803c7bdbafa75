import RecordRelay.Failure
import RecordRelay.Metrics

/-!
# Handled requests

What a hop does with a request shows in three ways: the result that goes back, what was counted,
and the world that the calls to others have changed on the way. The world is whatever those calls
are made of; a hop only passes it on.
-/

namespace RecordRelay

/-- What became of a request in a world `σ`. -/
structure Handled (σ α : Type) where
  /-- What goes back. -/
  result : α
  /-- What was counted, in order. -/
  events : List Metrics.Event
  /-- The world after it. -/
  world : σ

end RecordRelay
