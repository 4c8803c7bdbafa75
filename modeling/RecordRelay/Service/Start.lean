import RecordRelay.FileLog
import RecordRelay.Delivery.Session
import RecordRelay.Hop
import RecordRelay.Settings

/-!
# Starting a service

A service takes hold of what it needs before it answers any request. The second hop opens its log
first, spawns its publisher on that, and then opens its port; the first hop needs nothing but the
port. What it got hold of before something failed stays as it is.
-/

namespace RecordRelay

/-- How much a producer holds by the settings. -/
def LogSettings.capacity (l : LogSettings) : Capacity :=
  ⟨l.queueCapacity.toNat, l.errorBuffer.toNat, l.submitTimeoutMs.toNat⟩

/-- **Opens the log** that the settings name. There is no broker to connect to. -/
def LogSettings.openLog (l : LogSettings) (t : Tree) : Except Failure Unit × FileLog :=
  match l.backend with
  | .kafka =>
    (.error (.settings "log.backend = \"kafka\" needs a build with the \x60kafka\x60 feature"),
      ⟨[], [], t⟩)
  | .file =>
    if l.dir.contains '\x00' then (.error (.sink (.io .nulInName)), ⟨[], [], t⟩)
    else
      let (outcome, log) := FileLog.start (Path.ofText l.dir) t
      (outcome.mapError fun fault => .sink (.io (.os fault)), log)

/-- Why a service **did not start**. -/
inductive StartFault where
  /-- Something that it needs is not there. -/
  | failed (failure : Failure)
  /-- There is no channel of a size that it asks for, and so it crashed. -/
  | crashed (crash : Channel.Crash)
  /-- Its port is not free. -/
  | port (fault : IoFault)
  deriving DecidableEq, Repr

/-- All the words for a service that did not start. -/
def StartFault.inFull : StartFault → String
  | failed failure => failure.inFull
  | crashed crash => crash.message
  | port fault => fault.message

/-- **Connects the publisher** that the settings name: its log is opened, and the publisher is
spawned on it. -/
def LogSettings.connect (l : LogSettings) (t : Tree) :
    Except StartFault Publisher.State × FileLog :=
  let (opened, log) := l.openLog t
  let publisher := do
    opened.mapError .failed
    (Publisher.spawn l.capacity (FileLog.sink .epoch).kind).mapError .crashed
  (publisher, log)

/-- **Starts a service** in a tree, on a port that is free or not. -/
def Hop.start (hop : Hop) (l : LogSettings) (portFree : Bool) (t : Tree) :
    Except StartFault Unit × Tree :=
  let (ready, t) : Except StartFault Unit × Tree := match hop with
    | gateway => (.ok (), t)
    | publisher =>
      let (connected, log) := l.connect t
      (connected.map fun _ => (), log.tree)
  match ready with
  | .error fault => (.error fault, t)
  | .ok () => (if portFree then .ok () else .error (.port (.os .addressInUse)), t)

end RecordRelay
