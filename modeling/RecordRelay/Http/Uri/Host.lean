import RecordRelay.Hostname
import RecordRelay.Http.Uri.Escape
import RecordRelay.Http.Uri.Fault
import RecordRelay.Http.Uri.Ipv6

/-!
# Hosts

A host between brackets is an IPv6 address. What else a host can be depends on the scheme: where the
scheme is one for the net, it is an IPv4 address or a name, which is shown as it is registered; with
any other scheme it is just a text.
-/

namespace RecordRelay.Uri

/-- Reads an address between brackets, from behind the first one. -/
def bracketed? (cs : List Char) : Except UriFault String :=
  if cs.getLast? = some ']' then
    match ipv6? cs.dropLast with
    | some groups => .ok ("[" ++ ipv6Text groups ++ "]")
    | none => .error .invalidIpv6
  else .error .invalidIpv6

/-- Reads a host **of the net**. -/
def netHost? (cs : List Char) : Except UriFault String :=
  match cs with
  | '[' :: rest => bracketed? rest
  | cs =>
    match (Bytes.text? (unescape cs)).bind fun s => Hostname.registered? s.toList with
    | none => .error .invalidName
    | some [] => .error .emptyHost
    | some name =>
      if endsInNumber name then
        match ipv4? name with
        | some n => .ok (ipv4Text n)
        | none => .error .invalidIpv4
      else .ok (String.ofList name)

/-- Whether a character cannot stand in a host that is just a text. -/
def isForbidden (c : Char) : Bool := "\x00\t\n\r #/:<>?@[\\]^|".toList.contains c

/-- Reads a host that is **just a text**. -/
def textHost? (cs : List Char) : Except UriFault String :=
  match cs with
  | '[' :: rest => bracketed? rest
  | cs =>
    if cs.any isForbidden then .error .invalidCharacter else .ok (String.ofList (escape [] cs))

end RecordRelay.Uri
