import RecordRelay.CommandLine
import RecordRelay.Service.Start
import RecordRelay.Settings.Load

/-!
# The program

The program reads its command line and its settings, starts the service that it was asked for on an
empty tree, and tells what is wrong. The answers of a service are a function of the library, from a
request and a world to an answer and the world after it; whoever holds the socket calls it.
-/

namespace RecordRelay

/-- What is told of a failure that ends the program: its words, and its causes one below the
other. -/
def Failure.report (f : Failure) : String :=
  let causes := match f.causes with
    | [] => []
    | [cause] => ["", "Caused by:", "    " ++ cause]
    | causes =>
      "" :: "Caused by:" :: causes.zipIdx.map fun (cause, n) =>
        "    " ++ toString n ++ ": " ++ cause
  "\n".intercalate (("Error: " ++ f.message) :: causes) ++ "\n"

/-- The fault behind an error of the system. -/
def IoFault.ofError : IO.Error → IoFault
  | .noFileOrDirectory .. => .os .notFound
  | e => .told (toString e)

/-- Opens the settings file. -/
def openSettings (path : String) : IO (Except IoFault Bytes) := do
  match ← (IO.FS.readBinFile path).toBaseIO with
  | .ok bytes => return .ok bytes.toList
  | .error e => return .error (.ofError e)

/-- The variables that settings can come from, with their values. -/
def environment : IO (List (String × String)) :=
  Settings.overrides.filterMapM fun o => return (← IO.getEnv o.name).map fun value => (o.name, value)

/-- What is told of a service that did not start. -/
def StartFault.report : StartFault → String
  | failed failure => failure.report
  | crashed crash => "Crashed: " ++ crash.message ++ "\n"
  | port fault => (Failure.io fault).report

/-- How the program ends if its service did not start. -/
def StartFault.exitCode : StartFault → UInt32
  | crashed _ => 101
  | _ => 1

/-- Loads the settings that an invocation names and starts its service. -/
def start (invocation : CommandLine.Invocation) : IO (Except StartFault Unit) := do
  let file ← invocation.config.mapM fun path => return (path, ← openSettings path)
  let found ← environment
  return do
    let settings ← (Settings.load file (found.lookup ·)).mapError .failed
    (invocation.hop.start settings.log true .empty).1

end RecordRelay

/-- Reads the command line and runs what it names. -/
def main (arguments : List String) : IO UInt32 := do
  let called := (← IO.appPath).toString
  let config ← IO.getEnv RecordRelay.CommandLine.configVariable
  match RecordRelay.CommandLine.read (called :: arguments) config with
  | (_, .ok invocation) =>
    match ← RecordRelay.start invocation with
    | .ok () => return 0
    | .error fault =>
      (← IO.getStderr).putStr fault.report
      return fault.exitCode
  | (called, .error ending) =>
    let stream ← if ending.asked then IO.getStdout else IO.getStderr
    stream.putStr (ending.message called config)
    return ending.exitCode
