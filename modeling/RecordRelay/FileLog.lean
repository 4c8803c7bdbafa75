import RecordRelay.Delivery.Sink
import RecordRelay.FileLog.Folder
import RecordRelay.FileLog.Line
import RecordRelay.FileLog.Tree

/-!
# The log of files

The log keeps each topic in a folder of its own below a root, and in it one file for each day, one
line for each message. A link beside the files leads to the file that was written last, and it is
through this link that a topic is read.

The log remembers for which topics folder and link are as they should be. It looks after them only
when a topic is new to it or the day is a new one, or when the last append to the topic found no
place for its file.
-/

namespace RecordRelay

/-- A **log of files** and the tree that holds it. -/
structure FileLog where
  /-- The root of the log. -/
  root : Path
  /-- The topics that were set up, with the file that the link of each leads to. -/
  active : List (String × String)
  /-- The tree. -/
  tree : Tree
  deriving Repr

namespace FileLog

/-- The name of the link. -/
def linkName : String := "current.ndjson"

/-- The name of the file of a day. -/
def fileName (day : Calendar.Day) : String :=
  String.ofList ("log_".toList ++ Instant.dayText day ++ ".ndjson".toList)

/-- The folder of a topic. -/
def topicFolder (root : Path) (topic : String) : Path := root ++ [folderName topic]

/-- The link of a topic. -/
def topicLink (root : Path) (topic : String) : Path := topicFolder root topic ++ [linkName]

/-- **Opens a log**: makes its root, and remembers nothing. -/
def start (root : Path) (t : Tree) : Except OsFault Unit × FileLog :=
  let (outcome, t) := t.makeFolders root
  (outcome, ⟨root, [], t⟩)

/-! ## Setting a topic up -/

/-- Whether the text of a link's target is a way to write the name of a file beside it. -/
def leadsTo (target file : String) : Bool :=
  match Path.ofText target with
  | first :: rest => first == file && rest.all fun name => name == "" || name == "."
  | [] => false

/-- Makes the link at a path lead to a file beside it. A link that does already is left alone, and
anything else there is removed, unless it is a folder. -/
def point (t : Tree) (p : Path) (file : String) : Except OsFault Unit × Tree :=
  if (t.target? p).any (leadsTo · file) then (.ok (), t)
  else if t.exists? p then
    match t.settle (t.removeFile p) with
    | (.error fault, t) => (.error fault, t)
    | (.ok (), t) => t.settle (t.make p (.link file))
  else t.settle (t.make p (.link file))

/-- Sets a topic up to be written to a file, if that is not done yet. -/
def activate (topic file : String) (log : FileLog) : Except OsFault Unit × FileLog :=
  if log.active.lookup topic = some file then (.ok (), log)
  else
    match log.tree.makeFolders (topicFolder log.root topic) with
    | (.error fault, t) => (.error fault, { log with tree := t })
    | (.ok (), t) =>
      match point t (topicLink log.root topic) file with
      | (.error fault, t) => (.error fault, { log with tree := t })
      | (.ok (), t) =>
        (.ok (), { log with
          active := (topic, file) :: log.active.filter fun x => x.1 ≠ topic
          tree := t })

/-! ## Appending -/

/-- How the write of a line ends. -/
inductive Write where
  /-- All of it is written. -/
  | whole
  /-- Only some octets are, and then no space is left. -/
  | torn (kept : Nat)
  deriving DecidableEq, Repr

/-- What a write leaves in the file. -/
def Write.kept : Write → Bytes → Bytes
  | whole, line => line
  | torn n, line => line.take n

/-- What a write tells. -/
def Write.outcome : Write → Except OsFault Unit
  | whole => .ok ()
  | torn _ => .error .noSpace

/-- The octet behind a line. -/
def lineEnd : UInt8 := 0x0A

/-- **Appends a message** that is stored `now`. A topic whose file cannot be opened is forgotten, so
that the next append sets it up again; one whose file has no room left is not. -/
def append (now : Instant) (write : Write) (s : Submission) (log : FileLog) :
    Except OsFault Unit × FileLog :=
  let file := fileName now.day
  match log.activate s.topic file with
  | (.error fault, log) => (.error fault, log)
  | (.ok (), log) =>
    let line := (Line.ofSubmission now s).toJson ++ [lineEnd]
    match log.tree.modify (topicFolder log.root s.topic ++ [file]) (· ++ write.kept line) with
    | .error .noSpace => (.error .noSpace, log)
    | .error fault =>
      (.error fault, { log with active := log.active.filter fun x => x.1 ≠ s.topic })
    | .ok t => (write.outcome, { log with tree := t })

/-! ## Reading -/

/-- A line without the carriage return at its end. -/
def withoutReturn (line : Bytes) : Bytes :=
  if line.getLast? = some 0x0D then line.dropLast else line

/-- The lines of a file. What stands behind the last end of a line is a line as it is. -/
def lines (content : Bytes) : List Bytes :=
  let pieces := Text.splitOn lineEnd content
  pieces.dropLast.map withoutReturn ++ pieces.getLast?.toList

/-- Whether a line holds nothing but blanks. -/
def isBlank (line : Bytes) : Bool :=
  (Bytes.text? line).any fun s => s.toList.all Text.isBlank

/-- Reads the content of a file. Blank lines are passed, and the first line that cannot be read is
the answer. -/
def readLines (content : Bytes) : Except SinkFault (List Line) :=
  if (Bytes.text? content).isNone then .error (.io .notText)
  else ((lines content).filter (!isBlank ·)).mapM fun line => (Line.ofJson? line).mapError .json

/-- **Reads a topic** through its link. A topic that leads to no file has no lines. -/
def current (root : Path) (topic : String) (t : Tree) : Except SinkFault (List Line) :=
  match t.read (topicLink root topic) with
  | .ok content => readLines content
  | .error .notFound => .ok []
  | .error fault => .error (.io (.os fault))

/-! ## As a sink -/

/-- The sink that **keeps messages in files**, as long as it is `now`. -/
def sink (now : Instant) : Sink FileLog where
  kind := "file"
  append s log :=
    let (outcome, log) := log.append now .whole s
    some (outcome.mapError fun fault => .io (.os fault), log)
  close _ := .ok ()

end FileLog

end RecordRelay
