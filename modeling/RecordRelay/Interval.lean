/-!
# The current interval

The cache service answers with a text in which the current interval stands between parentheses.
The interval is the **first parenthesized fragment that ends on its line**: an opening parenthesis
that meets the end of its line before a closing one does not count.
-/

namespace RecordRelay.Interval

/-- What stands before the first closing parenthesis, if one comes on this line. -/
def upToClose? : List Char → Option (List Char)
  | [] => none
  | c :: rest =>
    if c = ')' then some []
    else if c = '\n' then none
    else (upToClose? rest).map (c :: ·)

/-- The first fragment among these characters. -/
def fragment? : List Char → Option (List Char)
  | [] => none
  | c :: rest =>
    if c = '(' then
      match upToClose? rest with
      | some inside => some inside
      | none => fragment? rest
    else fragment? rest

/-- The **interval in an answer**, if there is one. -/
def extract? (body : String) : Option String := (fragment? body.toList).map String.ofList

end RecordRelay.Interval
