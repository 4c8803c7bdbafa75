import RecordRelay.Http.Request

/-!
# Answering requests

A service sees of a request its method, its target, its headers and its body. The path is what
stands before a query or a fragment. Of several headers with one name the first counts, and one
that is not visible ASCII counts as absent. A body that is too large is refused before it is looked
at, and where a method is not allowed the answer says which are.
-/

namespace RecordRelay.Http

/-- A request as a service **receives** it. -/
structure Inbound where
  /-- The method. -/
  method : String
  /-- The target: a path, and perhaps a query and a fragment. -/
  target : String
  /-- The headers in the order in which they came. -/
  headers : List (String × Bytes)
  /-- The body. -/
  body : Bytes
  deriving DecidableEq, Repr

namespace Inbound

/-- The path of a target. -/
def path (r : Inbound) : String :=
  String.ofList (r.target.toList.takeWhile fun c => c ≠ '?' ∧ c ≠ '#')

/-- The text of the **first header** with a name, given in lower case. -/
def header? (name : String) (r : Inbound) : Option String :=
  match r.headers.find? fun h => h.1.toLower == name with
  | some (_, value) => if value.all isVisible then Bytes.text? value else none
  | none => none

end Inbound

/-- What a service answers. -/
structure Answer where
  /-- The status. -/
  status : Status
  /-- The type of the body. -/
  contentType : Option String
  /-- The methods that are allowed, where the request's own is not. -/
  allow : Option String
  /-- The body. -/
  body : Bytes
  deriving DecidableEq, Repr

namespace Answer

/-- The content type of plain text. -/
def plain : String := "text/plain; charset=utf-8"

/-- An answer in plain text. -/
def text (status : Status) (body : String) : Answer :=
  ⟨status, some plain, none, Bytes.ofString body⟩

/-- An answer with nothing but a status. -/
def empty (status : Status) : Answer := ⟨status, none, none, []⟩

/-- The answer to a method that is not allowed. -/
def notAllowed (methods : String) : Answer := ⟨.methodNotAllowed, none, some methods, []⟩

/-- The answer to a body that is too large. -/
def tooLarge : Answer :=
  text .contentTooLarge "Failed to buffer the request body: length limit exceeded"

/-- An answer in JSON. -/
def json (body : Bytes) : Answer := ⟨.ok, some "application/json", none, body⟩

/-- An answer without its body. -/
def withoutBody (a : Answer) : Answer := { a with body := [] }

end Answer

/-- The size of the largest body. -/
def maxBody : Nat := 2097152

/-- What a service does with a method: it reads, it takes a body, or neither. -/
inductive Verb where
  /-- The answer is asked for, or only what the answer would be like. -/
  | get (bodyless : Bool)
  | post
  | other
  deriving DecidableEq, Repr

/-- What a method asks for. -/
def Verb.of : String → Verb
  | "GET" => get false
  | "HEAD" => get true
  | "POST" => post
  | _ => other

end RecordRelay.Http
