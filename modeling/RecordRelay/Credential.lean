/-!
# Credentials

A request to the second hop carries its key in an authorization header: the scheme `Apikey`, in
any case, one space, and then the key, which is everything that follows, spaces included. One key
is configured, and a request is authorized when it carries exactly that key. An empty configured
key authorizes nobody.
-/

namespace RecordRelay.Credential

/-- The scheme that stands before a key. -/
def scheme : String := "Apikey"

/-- Whether two texts are equal up to the case of ASCII letters. -/
def sameUpToCase (a b : List Char) : Bool := a.map Char.toLower == b.map Char.toLower

/-- The **key in an authorization header**, if there is one. -/
def key? (header : Option String) : Option String := do
  let cs := (← header).toList
  match cs.dropWhile (· ≠ ' ') with
  | [] => none
  | _ :: key =>
    if sameUpToCase (cs.takeWhile (· ≠ ' ')) scheme.toList ∧ key ≠ [] then
      some (String.ofList key)
    else none

/-- Whether a key is the configured one. -/
def accepts (configured key : String) : Bool := configured ≠ "" ∧ key = configured

/-- Whether a header authorizes its request. -/
def authorizes (configured : String) (header : Option String) : Bool :=
  match key? header with
  | some key => accepts configured key
  | none => false

/-- The header that carries a key. -/
def header (key : String) : String := scheme ++ " " ++ key

end RecordRelay.Credential
