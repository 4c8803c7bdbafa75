import RecordRelay.CommandLine.Ending
import RecordRelay.Text.Similarity

/-!
# The command line

A command names the hop to run, and one option names the settings file; without the option a
variable of the environment does. Arguments are looked at from left to right. The value of an
option that stands apart from it is only taken up when the next option, or the end, is reached, so
that an argument that is not known is reported before an option that lacks its value.
-/

namespace RecordRelay.CommandLine

/-- An **invocation**: the hop to run and the settings file. -/
structure Invocation where
  /-- The hop. -/
  hop : Hop
  /-- The settings file. -/
  config : Option String
  deriving DecidableEq, Repr

/-- How an argument begins. -/
inductive Argument where
  /-- Two dashes and nothing else: no options follow. -/
  | dashes
  /-- Two dashes, a name, and perhaps a value behind an equals sign. -/
  | long (name : String) (value : Option String)
  /-- One dash and a letter. -/
  | short (letter : Char)
  /-- Anything else. -/
  | word
  deriving DecidableEq, Repr

/-- The form of an argument. -/
def Argument.of (text : String) : Argument :=
  match text.toList with
  | ['-', '-'] => dashes
  | '-' :: '-' :: rest =>
    long (String.ofList (rest.takeWhile (· ≠ '=')))
      (match rest.dropWhile (· ≠ '=') with
        | [] => none
        | _ :: value => some (String.ofList value))
  | '-' :: c :: _ => short c
  | _ => word

/-- What is known of the settings file while the options of a hop are read. -/
structure Progress where
  /-- An option whose value, if it has come, is not yet taken up. -/
  pending : Option (Option String) := none
  /-- The value taken up. -/
  taken : Option String := none
  deriving DecidableEq, Repr

namespace Progress

/-- The options that were understood. -/
def used (p : Progress) : List String := if p.taken.isSome then [configOption] else []

/-- Takes up a value. An option that stands twice is forgotten. -/
def take (hop : Hop) (value : String) (p : Progress) : Progress × Option Ending :=
  if p.taken.isSome then
    ({}, some (.mistake (.twice configOption) (.run hop) []))
  else (⟨none, some value⟩, if value = "" then some (.noValue configOption) else none)

/-- Takes up what is pending. -/
def settle (hop : Hop) (p : Progress) : Progress × Option Ending :=
  match p.pending with
  | none => (p, none)
  | some none => (⟨none, p.taken⟩, some (.noValue configOption))
  | some (some value) => p.take hop value

end Progress

/-- The mistake of a long option that a command does not have. The options that are similar to it
are looked for in the command, and then in those of its own commands that follow. -/
def unknownLong (c : Command) (used : List String) (name : String) (later : List String) : Ending :=
  let given := "--" ++ name
  match (Text.similarTo c.longs name).getLast? with
  | some similar =>
    let option := if similar = "config" then configOption else "--" ++ similar
    .mistake (.argument given (.option ("--" ++ similar))) c
      (if option ∈ used then used else used ++ [option])
  | none =>
    let candidates := c.subcommands.filterMap fun (sub, d) => do
      let similar ← (Text.similarTo d.longs name).getLast?
      let place ← later.findIdx? (· == sub)
      some (place, sub, similar)
    let first := candidates.foldl (fun best next =>
      match best with
      | none => some next
      | some b => if next.1 < b.1 then some next else some b) (none : Option (Nat × String × String))
    match first with
    | some (_, sub, similar) =>
      .mistake (.argument given (.elsewhere sub ("--" ++ similar))) c used
    | none => .mistake (.argument given .none) c used

/-- Reads the options of a hop; `waiting` says whether the last option still waits for its
value. -/
def readOptions (hop : Hop) (waiting : Bool) (p : Progress) : List String → Except Ending Progress
  | [] =>
    match p.settle hop with
    | (_, some ending) => .error ending
    | (p, none) => .ok p
  | text :: later =>
    match Argument.of text with
    | .dashes =>
      match later with
      | [] => readOptions hop false p []
      | extra :: _ => .error (.mistake (.argument extra .none) (.run hop) [])
    | .long name value =>
      if name = "config" then
        match p.settle hop, value with
        | (_, some ending), _ => .error ending
        | (p, none), none => readOptions hop true { p with pending := some none } later
        | (p, none), some value =>
          match p.take hop value with
          | (_, some ending) => .error ending
          | (p, none) => readOptions hop false p later
      else if name = "help" then
        match value with
        | some value =>
          .error (.mistake (.needless "--help" value) (.run hop) (p.used ++ ["--help"]))
        | none => .error ((p.settle hop).2.getD (.page (.run hop)))
      else .error (unknownLong (.run hop) (p.settle hop).1.used name later)
    | .short c =>
      if c = 'h' then .error ((p.settle hop).2.getD (.page (.run hop)))
      else .error (.mistake (.argument ("-" ++ c.toString) .none) (.run hop) [])
    | .word =>
      if waiting then readOptions hop false { p with pending := some (some text) } later
      else .error (.mistake (.argument text .none) (.run hop) [])

/-- Reads the command that runs a hop. -/
def readRun (hop : Hop) (config : Option String) (arguments : List String) :
    Except Ending Invocation := do
  let p ← readOptions hop false {} arguments
  match p.taken <|> config with
  | some "" => .error (.noValue configOption)
  | config => .ok ⟨hop, config⟩

/-- What is explained, step by step through the commands named. -/
def readHelp (c : Command) : List String → Ending
  | [] => .page c
  | name :: later =>
    match c.subcommands.lookup name with
    | some d => readHelp d later
    | none => .mistake (.command name .none) c []

/-- An argument in the place of a command that is none. -/
def unknownCommand (text : String) : Ending :=
  .mistake (.command text
    (.commands (Text.similarTo (Command.program.subcommands.map (·.1)) text))) .program []

/-- Reads the arguments behind the program's name. -/
def readProgram (config : Option String) : List String → Except Ending Invocation
  | [] => .error .noCommand
  | text :: later =>
    match Command.program.subcommands.lookup text with
    | some (.run hop) => readRun hop config later
    | some c => .error (readHelp (if c = .help then .program else c) later)
    | none =>
      match Argument.of text with
      | .dashes =>
        match later with
        | [] => .error .noCommand
        | extra :: _ =>
          if (Command.program.subcommands.lookup extra).isSome then
            .error (.mistake (.argument extra (.dashes extra)) .program [])
          else .error (unknownCommand extra)
      | .long name value =>
        if name = "help" ∨ name = "version" then
          match value with
          | some value =>
            let option := "--" ++ name
            .error (.mistake (.needless option value) .program [option])
          | none => .error (if name = "help" then .page .program else .version)
        else .error (unknownLong .program [] name later)
      | .short c =>
        if c = 'h' then .error (.page .program)
        else if c = 'V' then .error .version
        else .error (.mistake (.argument ("-" ++ c.toString) .none) .program [])
      | .word => .error (unknownCommand text)

/-- What the program is called: the last part of the path it was started by, unless that leads
upwards. -/
def calledAs (path : String) : Option String :=
  let parts := ((path.split (· == '/')).toList.map (·.toString)).filter
    fun part => part ≠ "" ∧ part ≠ "."
  match parts.getLast? with
  | some ".." => none
  | last => last

/-- **Reads a command line**, the program's own name first: what the program is called, and the
invocation or why nothing is run. -/
def read (arguments : List String) (config : Option String) :
    Option String × Except Ending Invocation :=
  (arguments.head?.bind calledAs, readProgram config arguments.tail)

end RecordRelay.CommandLine
