import RecordRelay.Bytes
import RecordRelay.Http.Status
import RecordRelay.Http.Uri

/-!
# Requests to other services

A request is **built** before it is sent: its address is read, its header values are checked, and a
user part of the address becomes a credential of its own. A body goes with any method. What then happens to it is up to the
network, which is a parameter: it answers a request or does not.
-/

namespace RecordRelay.Http

/-- A request that is ready to be sent. -/
structure Request where
  /-- The method. -/
  method : String
  /-- Where it goes. -/
  address : Uri
  /-- Its headers, names in lower case, in the order in which they are sent. -/
  headers : List (String × Bytes)
  /-- Its body. -/
  body : Bytes
  deriving DecidableEq, Repr

/-- An answer, with its body read as text. -/
structure Response where
  /-- The status. -/
  status : Status
  /-- The body, unless it broke off. -/
  body : Option String
  deriving DecidableEq, Repr

/-- Why a request has **no answer**. -/
inductive RequestFault where
  /-- Its address is none. -/
  | address (fault : UriFault)
  /-- A header value holds a control character. -/
  | header
  /-- Its address has no host, or a scheme that requests are not sent to. -/
  | scheme (uri : Uri)
  /-- Its address is one that no request can hold. -/
  | unfit (uri : Uri)
  /-- Nobody answered. -/
  | unanswered (uri : Uri)
  /-- The body of the answer broke off. -/
  | unreadable
  deriving DecidableEq, Repr

/-- The words for a request without answer. -/
def RequestFault.message : RequestFault → String
  | address fault => "builder error: " ++ fault.message
  | header => "builder error: failed to parse header value"
  | scheme uri => "builder error for url (" ++ uri.text ++ "): URL scheme is not allowed"
  | unfit uri => "builder error for url (" ++ uri.text ++ "): Parsed Url is not a valid Uri"
  | unanswered uri => "error sending request for url (" ++ uri.text ++ ")"
  | unreadable => "request or response body error"

/-- Whether an octet may stand in a header value. -/
def inHeader (b : UInt8) : Bool := (32 ≤ b && b != 127) || b == 9

/-- Whether an octet of a header value is read as text. -/
def isVisible (b : UInt8) : Bool := (32 ≤ b && b < 127) || b == 9

/-- The character that stands for six bits. -/
def sixBits (n : Nat) : UInt8 :=
  if n < 26 then (65 + n).toUInt8
  else if n < 52 then (71 + n).toUInt8
  else if n < 62 then (n - 4).toUInt8
  else if n = 62 then 43
  else 47

/-- Octets in base 64, padded to whole groups of four characters. -/
def base64 : Bytes → Bytes
  | [] => []
  | [a] => [sixBits (a.toNat / 4), sixBits (a.toNat % 4 * 16), 61, 61]
  | [a, b] =>
    [sixBits (a.toNat / 4), sixBits (a.toNat % 4 * 16 + b.toNat / 16),
      sixBits (b.toNat % 16 * 4), 61]
  | a :: b :: c :: rest =>
    sixBits (a.toNat / 4) :: sixBits (a.toNat % 4 * 16 + b.toNat / 16) ::
      sixBits (b.toNat % 16 * 4 + c.toNat / 64) :: sixBits (c.toNat % 64) :: base64 rest

/-- The user's name and password, unless they are no text. -/
def userTexts (u : Uri.User) : Option String × Option String :=
  let text (s : String) := Bytes.text? (Uri.unescape s.toList)
  (text u.name, if u.password = "" then none else text u.password)

/-- Takes the **user part** from an address: the address without it, and the header that stands for
it. A part whose name is no text, or that says nothing, stays where it is. -/
def takeUser (address : Uri) : Uri × List (String × Bytes) :=
  match address.authority with
  | none => (address, [])
  | some a =>
    match userTexts a.user with
    | (none, _) => (address, [])
    | (some name, password) =>
      if name = "" ∧ password = none then (address, [])
      else
        ({ address with authority := some { a with user := {} } },
          [("authorization", Bytes.ofString "Basic " ++
            base64 (Bytes.ofString (name ++ ":" ++ password.getD "")))])

namespace Request

/-- **Builds a request.** An address that cannot be read or has no host is reported before a header
value that cannot be sent, and that before a scheme that is not allowed and an address that no
request can hold. -/
def build (method address : String) (headers : List (String × Bytes)) (body : Bytes) :
    Except RequestFault Request :=
  match Uri.parse? address with
  | .error fault => .error (.address fault)
  | .ok uri =>
    if uri.host?.isNone then .error (.scheme uri)
    else
      let (bare, credential) := takeUser uri
      if headers.any fun h => !h.2.all inHeader then .error .header
      else if !bare.isHttp then .error (.scheme bare)
      else if !bare.canBeSent then .error (.unfit bare)
      else .ok ⟨method, bare, credential ++ headers, body⟩

end Request

/-- What answers requests. -/
abbrev Network := Request → Option Response

/-- A network that nobody answers on. -/
def Network.silent : Network := fun _ => none

/-- Sends a request. -/
def Network.send (network : Network) (request : Request) : Except RequestFault Response :=
  match network request with
  | some response => .ok response
  | none => .error (.unanswered request.address)

end RecordRelay.Http
