import RecordRelay.Delivery.Message
import RecordRelay.Failure

/-!
# Sinks

A **sink** is where messages end up. It takes them one at a time: an append ends with success or
with a fault, or it does not end yet. When no more messages will come the sink is closed, which may
fail as well.

Two sinks need nothing but themselves. The memory log keeps what it is given and can be told to
refuse the next few messages; the scripted log does what its script says, step by step, and waits
where the script says so until it is let go on.
-/

namespace RecordRelay

/-- A **sink** with contents `σ`. -/
structure Sink (σ : Type) where
  /-- What kind of sink it is. -/
  kind : String
  /-- Appends a message: the outcome and the contents after it, or nothing while it waits. -/
  append : Submission → σ → Option (Except SinkFault Unit × σ)
  /-- Closes the sink. -/
  close : σ → Except SinkFault Unit

/-- The contents of a memory log. -/
structure MemoryLog where
  /-- The messages it took, oldest first. -/
  records : List Submission
  /-- How many of the next messages it will refuse. -/
  refusing : Nat
  deriving DecidableEq, Repr

namespace MemoryLog

/-- A memory log without messages. -/
def empty : MemoryLog := ⟨[], 0⟩

/-- The sink that **keeps messages in memory**. -/
def sink : Sink MemoryLog where
  kind := "memory"
  append s log :=
    if log.refusing = 0 then some (.ok (), { log with records := log.records ++ [s] })
    else
      some (.error (.broker ("injected failure for message " ++ s.id.text)),
        { log with refusing := log.refusing - 1 })
  close _ := .ok ()

end MemoryLog

/-- One step of a script. -/
structure ScriptStep where
  /-- Whether the step waits until it is let go on. -/
  waits : Bool
  /-- The fault it ends with, if it fails. -/
  fault : Option SinkFault
  deriving DecidableEq, Repr

/-- The contents of a scripted log. -/
structure ScriptedLog where
  /-- The steps that are left. Behind the last one every append succeeds at once. -/
  steps : List ScriptStep
  /-- How many waiting steps may go on. -/
  permits : Nat
  /-- The messages it took, oldest first. -/
  records : List Submission
  /-- How closing ends. -/
  closing : Except SinkFault Unit

namespace ScriptedLog

/-- A scripted log at the start of its script. -/
def start (steps : List ScriptStep) (closing : Except SinkFault Unit) : ScriptedLog :=
  ⟨steps, 0, [], closing⟩

/-- Lets `n` more waiting steps go on. -/
def release (n : Nat) (log : ScriptedLog) : ScriptedLog := { log with permits := log.permits + n }

/-- The sink that **follows a script**. -/
def sink : Sink ScriptedLog where
  kind := "scripted"
  append s log :=
    match log.steps with
    | [] => some (.ok (), { log with records := log.records ++ [s] })
    | step :: rest =>
      if step.waits ∧ log.permits = 0 then none
      else
        let log := { log with
          steps := rest
          permits := if step.waits then log.permits - 1 else log.permits }
        match step.fault with
        | some fault => some (.error fault, log)
        | none => some (.ok (), { log with records := log.records ++ [s] })
  close log := log.closing

end ScriptedLog

end RecordRelay
