import RecordRelay.Http.Uri.Host
import RecordRelay.Http.Uri.Path

/-!
# Addresses of services

The address of a service comes from the configuration as plain text. Reading it gives a `Uri` or
says why there is none. However the text was written, the address has one spelling: schemes and
names in lower case, numbers of hosts in their usual form, no port that the scheme implies, a path
without detours, and whatever needs it escaped.
-/

namespace RecordRelay

/-- The user part of an address, escaped. -/
structure Uri.User where
  /-- The name. -/
  name : String := ""
  /-- The password. -/
  password : String := ""
  deriving DecidableEq, Repr

/-- The text of a user part; there is none if there is neither name nor password. -/
def Uri.User.text (u : User) : String :=
  if u.name = "" ∧ u.password = "" then ""
  else u.name ++ (if u.password = "" then "" else ":" ++ u.password) ++ "@"

/-- Where an address leads, behind its two slashes. -/
structure Uri.Authority where
  /-- The user part in front of the host. -/
  user : User := {}
  /-- The host; it can be empty. -/
  host : String
  /-- The port, unless it is the one the scheme implies. -/
  port : Option Nat := none
  deriving DecidableEq, Repr

/-- An **address**. -/
structure Uri where
  /-- The scheme, in lower case. -/
  scheme : String
  /-- Where it leads. -/
  authority : Option Uri.Authority
  /-- The path with query and fragment. -/
  path : String
  deriving DecidableEq, Repr

namespace Uri

/-- The text of what stands behind the two slashes, with them. -/
def Authority.text (a : Authority) : String :=
  "//" ++ a.user.text ++ a.host ++
    (match a.port with | some port => ":" ++ toString port | none => "")

/-- The **text** of an address. -/
def text (u : Uri) : String :=
  u.scheme ++ ":" ++ (match u.authority with | some a => a.text | none => "") ++ u.path

/-- The host, unless there is none or it is empty. -/
def host? (u : Uri) : Option String := (u.authority.map (·.host)).filter (· ≠ "")

/-- The port that a scheme of the net implies. -/
def impliedPort? : String → Option Nat
  | "http" => some 80
  | "https" => some 443
  | "ws" => some 80
  | "wss" => some 443
  | "ftp" => some 21
  | _ => none

/-- What a **scheme** says about the rest of its addresses. -/
inductive Kind where
  /-- There is always a host of the net, so that the slashes in front do not matter. -/
  | net
  /-- The path leads to a file, and there may be a host. -/
  | file
  /-- Nothing. -/
  | other
  deriving DecidableEq, Repr

/-- The kind of a scheme. -/
def Kind.of (scheme : String) : Kind :=
  if (impliedPort? scheme).isSome then net else if scheme = "file" then file else other

/-! ## Parts -/

/-- Splits a scheme off: a letter, then letters, digits and `+-.`, then a colon. -/
def scheme? (cs : List Char) : Option (String × List Char) :=
  let name := cs.takeWhile fun c => c.isAlphanum || c == '+' || c == '-' || c == '.'
  match name.head?, cs.dropWhile fun c => c.isAlphanum || c == '+' || c == '-' || c == '.' with
  | some c, ':' :: rest =>
    if c.isAlpha then some (String.ofList (name.map Char.toLower), rest) else none
  | _, _ => none

/-- Whether a character ends a path. -/
def endsPath (c : Char) : Bool := c == '?' || c == '#'

/-- Whether a character separates segments; a backslash does so where the scheme has a say. -/
def isSlash (kind : Kind) (c : Char) : Bool := c == '/' || kind ≠ .other && c == '\\'

/-- Whether a character ends what stands in front of a path. -/
def endsAuthority (kind : Kind) (c : Char) : Bool := isSlash kind c || endsPath c

/-- A fragment with its number sign, escaped. -/
def fragmentText : List Char → List Char
  | '#' :: rest => '#' :: escape fragmentMarks rest
  | _ => []

/-- Query and fragment with their marks, escaped. -/
def tailText (kind : Kind) : List Char → List Char
  | '?' :: rest =>
    let marks := if kind = .other then queryMarks else '\'' :: queryMarks
    '?' :: escape marks (rest.takeWhile (· ≠ '#')) ++ fragmentText (rest.dropWhile (· ≠ '#'))
  | rest => fragmentText rest

/-- Reads a path from behind its first slash. -/
def readPath (kind : Kind) (cs : List Char) : Walk :=
  walk (kind = .file) ((cs.takeWhile (!endsPath ·)).map fun c => if isSlash kind c then '/' else c)

/-- Reads a path with query and fragment from behind the first slash. -/
def pathText (kind : Kind) (cs : List Char) : List Char :=
  (readPath kind cs).text ++ tailText kind (cs.dropWhile (!endsPath ·))

/-- What stands behind a slash at the front, or all if there is none. -/
def withoutSlash (kind : Kind) : List Char → List Char
  | c :: rest => if isSlash kind c then rest else c :: rest
  | [] => []

/-- Splits the user part off, which ends with the last `@` in front of the path, and says whether
there was an `@`. -/
def splitUser (kind : Kind) (cs : List Char) : Option (List Char) × List Char :=
  let front := cs.takeWhile (!endsAuthority kind ·)
  let behind := (front.reverse.takeWhile (· ≠ '@')).reverse
  if behind.length = front.length then (none, cs)
  else
    let user := front.take (front.length - behind.length - 1)
    (some user, cs.drop (user.length + 1))

/-- Reads a user part. -/
def User.ofText (cs : List Char) : User :=
  ⟨String.ofList (escape userMarks (cs.takeWhile (· ≠ ':'))),
    String.ofList (escape userMarks ((cs.dropWhile (· ≠ ':')).drop 1))⟩

/-- Splits the host from what follows it: a port, or the path. -/
def splitHost (kind : Kind) (inBrackets : Bool) : List Char → List Char × List Char
  | [] => ([], [])
  | c :: cs =>
    if endsAuthority kind c ∨ c = ':' ∧ ¬ inBrackets then ([], c :: cs)
    else
      let (host, rest) := splitHost kind (c = '[' || inBrackets && c != ']') cs
      (c :: host, rest)

/-- Reads a port. -/
def port? (scheme : String) (cs : List Char) : Except UriFault (Option Nat) :=
  if cs = [] then .ok none
  else if cs.all Char.isDigit then
    match number? 10 cs with
    | some n =>
      if 65535 < n then .error .invalidPort
      else if impliedPort? scheme = some n then .ok none
      else .ok (some n)
    | none => .error .invalidPort
  else .error .invalidPort

/-! ## Whole addresses -/

/-- Reads what follows the two slashes, other than of a file. -/
def ofAuthority? (scheme : String) (cs : List Char) : Except UriFault Uri := do
  let kind := Kind.of scheme
  let (user, server) := splitUser kind cs
  if user = some [] ∧ server.head?.any (endsAuthority kind) then throw .emptyHost
  let user := User.ofText (user.getD [])
  let (name, rest) := splitHost kind false server
  if name = [] ∧ (kind = .net ∨ rest.head? = some ':' ∨ user.text ≠ "") then throw .emptyHost
  let host ← if kind = .net then netHost? name else textHost? name
  let portEnds (c : Char) := endsAuthority .net c
  let (port, rest) ← match rest with
    | ':' :: rest =>
      pure (← port? scheme (rest.takeWhile (!portEnds ·)), rest.dropWhile (!portEnds ·))
    | rest => pure (none, rest)
  let path :=
    if kind = .other ∧ (rest = [] ∨ rest.head?.any endsPath) then tailText kind rest
    else pathText kind (withoutSlash kind rest)
  return ⟨scheme, some ⟨user, host, port⟩, String.ofList path⟩

/-- An address of a file. Its path has one slash in front. -/
def ofFile (host : String) (cs : List Char) : Uri :=
  let path := readPath .file cs
  ⟨"file", some { host := if path.drive then "" else host },
    String.ofList ('/' :: path.text.dropWhile (· = '/') ++
      tailText .file (cs.dropWhile (!endsPath ·)))⟩

/-- Reads what follows the scheme of a file. The own host is the same as none. -/
def ofFile? (cs : List Char) : Except UriFault Uri :=
  match cs with
  | a :: b :: rest =>
    if isSlash .file a ∧ isSlash .file b then
      let name := rest.takeWhile (!endsAuthority .file ·)
      let path := rest.dropWhile (!endsAuthority .file ·)
      if isDrive name then .ok (ofFile "" rest)
      else if name = [] then .ok (ofFile "" path)
      else match netHost? name with
        | .error fault => .error fault
        | .ok "localhost" => .ok (ofFile "" path)
        | .ok host => .ok (ofFile host (withoutSlash .file path))
    else .ok (ofFile "" (withoutSlash .file cs))
  | cs => .ok (ofFile "" (withoutSlash .file cs))

/-- An address that leads nowhere. A path that begins with two slashes is told from a host by a full
stop in front of it. -/
def ofPath (scheme : String) (cs : List Char) : Uri :=
  match cs with
  | '/' :: rest =>
    let path := pathText .other rest
    ⟨scheme, none, String.ofList ((if "//".toList.isPrefixOf path then ['/', '.'] else []) ++ path)⟩
  | cs =>
    ⟨scheme, none, String.ofList (escape [] (cs.takeWhile (!endsPath ·)) ++
      tailText .other (cs.dropWhile (!endsPath ·)))⟩

/-- The characters that may stand around an address. -/
def isMargin (c : Char) : Bool := c.toNat ≤ 0x20

/-- **Reads an address.** Margins are cut off, and tabs and line ends are dropped. -/
def parse? (s : String) : Except UriFault Uri :=
  let cs := ((s.toList.dropWhile isMargin).reverse.dropWhile isMargin).reverse.filter
    fun c => c ≠ '\t' ∧ c ≠ '\n' ∧ c ≠ '\r'
  match scheme? cs with
  | none => .error .relative
  | some (scheme, rest) =>
    match Kind.of scheme, rest with
    | .net, rest => ofAuthority? scheme (rest.dropWhile (isSlash .net))
    | .file, rest => ofFile? rest
    | .other, '/' :: '/' :: rest => ofAuthority? scheme rest
    | .other, rest => .ok (ofPath scheme rest)

/-- Whether requests are sent to addresses with this scheme. -/
def isHttp (u : Uri) : Bool := u.scheme == "http" || u.scheme == "https"

/-- The length that an address of a request may have. -/
def maxLength : Nat := 65534

/-- Whether a request can be sent to an address: it is not too long, and its host has no character
that a request cannot hold. -/
def canBeSent (u : Uri) : Bool :=
  u.text.utf8ByteSize ≤ maxLength &&
    !(u.host?.getD "").toList.any "\"\x60\x7b\x7d".toList.contains

end Uri

end RecordRelay
