/-!
# Folders of topics

The messages of a topic lie in a folder whose name is the topic as far as a name allows. Letters and
digits of ASCII, the hyphen, the underscore and the dot stand for themselves, and every other
character becomes an underscore. Dots alone would name a folder that exists already, so they become
underscores too, and the empty topic becomes one. Topics that differ only in what is replaced share
a folder.
-/

namespace RecordRelay.FileLog

/-- Whether a character stands for itself in the name of a folder. -/
def isPlain (c : Char) : Bool := c.isAlphanum || c == '-' || c == '_' || c == '.'

/-- The characters of the **folder of a topic**. -/
def folderChars (topic : List Char) : List Char :=
  if topic = [] then ['_']
  else if topic.all (· == '.') then topic.map fun _ => '_'
  else topic.map fun c => if isPlain c then c else '_'

/-- The name of the **folder of a topic**. -/
def folderName (topic : String) : String := String.ofList (folderChars topic.toList)

end RecordRelay.FileLog
