import RecordRelay.CommandLine.Page

/-!
# When nothing is run

A command line can ask for a page or for the version, and it can be wrong. Either way nothing is
run: a text is printed and the program ends.
-/

namespace RecordRelay.CommandLine

/-- What might have been meant by an argument that is not known. -/
inductive Hint where
  | none
  /-- An option of the same command. -/
  | option (name : String)
  /-- An option of another command. -/
  | elsewhere (command name : String)
  /-- Commands. -/
  | commands (names : List String)
  /-- A command behind two dashes. -/
  | dashes (command : String)
  deriving DecidableEq, Repr

/-- What a command line is **wrong** about. -/
inductive Mistake where
  /-- An argument is not known. -/
  | argument (text : String) (hint : Hint)
  /-- A command is not known. -/
  | command (text : String) (hint : Hint)
  /-- An option stands twice. -/
  | twice (option : String)
  /-- An option has a value, but takes none. -/
  | needless (option value : String)
  deriving DecidableEq, Repr

/-- Why **nothing is run**. -/
inductive Ending where
  /-- The page of a command was asked for. -/
  | page (command : Command)
  /-- There is no command, and the program's page tells which there are. -/
  | noCommand
  /-- The version was asked for. -/
  | version
  /-- An option has no value, or an empty one. -/
  | noValue (option : String)
  /-- A mistake in the arguments of a command; the options in `used` were understood. -/
  | mistake (what : Mistake) (command : Command) (used : List String)
  deriving DecidableEq, Repr

/-- A text between apostrophes. -/
def named (s : String) : String := "'" ++ s ++ "'"

/-- A text that the caller gave, between apostrophes. -/
def given (s : String) : String := named (s ++ Text.reset)

/-- The words for a hint. -/
def Hint.lines : Hint → String
  | none => ""
  | option name => "\n\n  tip: a similar argument exists: " ++ named name
  | elsewhere command name => "\n\n  tip: " ++ named (command ++ " " ++ name) ++ " exists"
  | commands [] => ""
  | commands [name] => "\n\n  tip: a similar subcommand exists: " ++ named name
  | commands names =>
    "\n\n  tip: some similar subcommands exist: " ++ ", ".intercalate (names.map named)
  | dashes command =>
    "\n\n  tip: subcommand " ++ named command ++
      " exists; to use it, remove the '--' before it"

/-- The words for a mistake. -/
def Mistake.lines : Mistake → String
  | argument text hint => "unexpected argument " ++ given text ++ " found" ++ hint.lines
  | command text hint => "unrecognized subcommand " ++ given text ++ hint.lines
  | twice option => "the argument " ++ named option ++ " cannot be used multiple times"
  | needless option value =>
    "unexpected value " ++ given value ++ " for " ++ named option ++
      " found; no more were expected"

/-- Where more can be read. The command that explains the others has no page of its own. -/
def furtherHelp (c : Command) : String :=
  if c = .help then "\n" else "\n\nFor more information, try '--help'.\n"

namespace Ending

/-- The text with what its parts bring along. -/
def fullText (called config : Option String) : Ending → String
  | page command => command.page called config
  | noCommand => Command.program.page called config
  | version => programName ++ " " ++ RecordRelay.version ++ "\n"
  | noValue option =>
    "error: a value is required for " ++ named option ++ " but none was supplied" ++
      furtherHelp .program
  | mistake what command used =>
    "error: " ++ what.lines ++ "\n\n" ++ command.usage called used ++ furtherHelp command

/-- The text that is printed: what is **visible** of it. -/
def message (called config : Option String) (e : Ending) : String :=
  Text.visible (e.fullText called config)

/-- Whether what was asked for is printed; otherwise something is wrong. -/
def asked : Ending → Bool
  | page _ | version => true
  | _ => false

/-- The program's **exit code**. -/
def exitCode (e : Ending) : UInt32 := if e.asked then 0 else 2

end Ending

end RecordRelay.CommandLine
