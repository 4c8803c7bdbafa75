import RecordRelay.Hop
import RecordRelay.Text.Visible

/-!
# The pages of the command line

The program has one command for each hop and one that explains the others. Every command has a
page that tells its purpose, its usage, its own commands and its options. What the program was
called by is foreign text, and a reset stands behind it.
-/

namespace RecordRelay.CommandLine

/-- What the program is called when its caller gives it no name. -/
def programName : String := "hop_relay"

/-- The **commands**, the program itself first among them. -/
inductive Command where
  /-- The program without a command. -/
  | program
  /-- The command that runs a hop. -/
  | run (hop : Hop)
  /-- The command that explains the others. -/
  | help
  deriving DecidableEq, Repr

namespace Command

/-- The commands of a command by name. -/
def subcommands : Command → List (String × Command)
  | program =>
    [(Hop.gateway.name, run .gateway), (Hop.publisher.name, run .publisher), ("help", help)]
  | _ => []

/-- What a command is for. -/
def about : Command → String
  | program => "Two-hop relay: forwarding gateway and async log publisher"
  | run .gateway =>
    "Run the first hop: decode, transcode to protobuf and forward with the api key"
  | run .publisher => "Run the second hop: authenticate, probe and publish to the log"
  | help => "Print this message or the help of the given subcommand(s)"

/-- The long names of a command's options. -/
def longs : Command → List String
  | program => ["help", "version"]
  | run _ => ["config", "help"]
  | help => []

/-- What a command is called in its usage, when the program is called `called`. -/
def usageName (called : Option String) : Command → String
  | program => called.getD programName
  | run hop => (called.elim "" (· ++ " ")) ++ hop.name
  | help => (called.elim "" (· ++ " ")) ++ "help"

/-- The arguments that a command takes in general. -/
def usageArguments : Command → String
  | program => "<COMMAND>"
  | run _ => "[OPTIONS]"
  | help => "[COMMAND]..."

/-- The **usage** of a command. If options were used, the usage names these and no others. -/
def usage (called : Option String) (used : List String) (c : Command) : String :=
  let arguments :=
    if used = [] then [c.usageArguments]
    else if c = program then used ++ [c.usageArguments]
    else used
  "Usage: " ++ " ".intercalate ((c.usageName called ++ Text.reset) :: arguments)

end Command

/-- A titled list of names with what they mean. -/
structure Section where
  /-- The title. -/
  title : String
  /-- The names and their meanings. -/
  rows : List (String × String)

/-- A number of spaces. -/
def spaces (n : Nat) : String := String.ofList (List.replicate n ' ')

/-- A text of several lines, all but the first one indented. -/
def indented (n : Nat) (s : String) : String :=
  String.join (s.toList.map fun c => if c = '\n' then "\n" ++ spaces n else c.toString)

/-- The text of a section: the meanings stand below each other, all their lines in one column. -/
def Section.text (s : Section) : String :=
  let width := s.rows.foldl (fun w r => max w r.1.length) 0
  s.title ++ ":\n" ++ String.join (s.rows.map fun (name, meaning) =>
    "  " ++ name ++ spaces (width - name.length + 2) ++ indented (width + 4) meaning ++ "\n")

/-- How the option for the settings file is written. -/
def configOption : String := "--config <CONFIG>"

/-- The variable of the environment that stands in for the option. -/
def configVariable : String := "RELAY_CONFIG"

/-- The sections of a command's page; `config` is what the environment says of the settings
file. -/
def Command.sections (config : Option String) : Command → List Section
  | program =>
    [⟨"Commands", program.subcommands.map fun (name, c) => (name, c.about)⟩,
      ⟨"Options", [("-h, --help", "Print help"), ("-V, --version", "Print version")]⟩]
  | run _ =>
    [⟨"Options", [("    " ++ configOption, "TOML configuration file [env: " ++ configVariable ++
        "=" ++ config.getD "" ++ "]"), ("-h, --help", "Print help")]⟩]
  | help => [⟨"Arguments", [("[COMMAND]...", "Print help for the subcommand(s)")]⟩]

/-- The **page** of a command. -/
def Command.page (called config : Option String) (c : Command) : String :=
  c.about ++ "\n\n" ++ c.usage called [] ++ "\n\n" ++
    "\n".intercalate ((c.sections config).map Section.text)

end RecordRelay.CommandLine
