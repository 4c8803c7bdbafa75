import RecordRelay.Proofs.Fallible
import RecordRelay.Proofs.Http.Delivered
import RecordRelay.Service.Relay

/-!
# The first hop's key at the second

Both hops may be set to the same key, and then the first should always be let in by the second. On
the way the key passes three rules. The first hop sends every key that holds no controls, whatever
else it consists of; the second reads a header only if it is visible ASCII, spaces and tabs, and of
several headers of one name only the first; and what it read has to be the scheme, a space and the
key.

So **equal keys are not enough**. The second hop lets the first in exactly if it can read the key,
and no user in the address has put a credential of their own in front of it
(`shown_key_authorizes_iff`). A key with a letter outside ASCII is sent and is never let in.
-/

namespace RecordRelay

open Credential (IsScheme)

/-! ## The check of a credential -/

/-- The second hop checks a credential against **its own key**, and nothing changes. -/
theorem Admission.authorize_ports {σ : Type} (setup : Publishing.Setup) (header : Option String)
    (w : Publishing.World σ) : Admission.authorize (Publishing.ports setup) header w
      = (Credential.authorizes setup.key header, w) := by
  unfold Admission.authorize Credential.authorizes
  cases Credential.key? header <;> rfl

/-- What begins like the credential of a user **is no key**. -/
theorem Credential.not_authorizes_basic {configured header : String} {rest : Bytes}
    (h : Bytes.ofString header = Bytes.ofString "Basic " ++ rest) :
    Credential.authorizes configured (some header) = false := by
  rw [← Bool.not_eq_true, Credential.authorizes_iff]
  rintro ⟨-, s, hs, rfl⟩
  -- the schemes differ in their first letter
  have hscheme : Credential.scheme.toList = ['A', 'p', 'i', 'k', 'e', 'y'] := by decide
  unfold IsScheme Text.EqualUpToCase at hs
  rw [hscheme] at hs
  obtain ⟨c, cs, hc, -, hlist⟩ := List.forall₂_cons_right_iff.mp hs
  have hfirst : String.utf8EncodeChar c ++ (cs.flatMap String.utf8EncodeChar
      ++ Bytes.ofString (" " ++ configured)) = Bytes.ofString "Basic " ++ rest := by
    have hoctets : Bytes.ofString s
        = String.utf8EncodeChar c ++ cs.flatMap String.utf8EncodeChar := by
      rw [Bytes.ofString, hlist, List.flatMap_cons]
    rw [← h, String.append_assoc, Bytes.ofString_append s, hoctets, List.append_assoc]
  have hcases : c = 'A' ∨ c = 'a' := by
    obtain rfl | ⟨hupper, hplace⟩ | ⟨-, hplace⟩ := hc
    · exact .inl rfl
    · have hbounds := Text.isUpper_iff.mp hupper
      have hletter : 'A'.toNat = 65 := rfl
      omega
    · exact .inr (Char.toNat_inj.mp hplace)
  obtain rfl | rfl := hcases
  · exact absurd (List.cons.inj hfirst).1 (by decide)
  · exact absurd (List.cons.inj hfirst).1 (by decide)

namespace Http

/-! ## What is sent and what is read -/

/-- The **values of the headers of a name**, given in lower case. -/
def valuesOf (name : String) (headers : List (String × Bytes)) : List Bytes :=
  (headers.filter fun h => h.1.toLower == name).map (·.2)

/-- Only the **first header** of a name is looked at, and it is read if it can be. -/
theorem Inbound.header?_eq (r : Inbound) (name : String) : r.header? name
    = (valuesOf name r.headers).head?.bind fun value =>
      if value.all isVisible then Bytes.text? value else none := by
  unfold Inbound.header? valuesOf
  rw [List.head?_map, List.head?_filter]
  cases r.headers.find? fun h => h.1.toLower == name <;> rfl

/-- A text is read from a header of its own **if it can be read**. -/
theorem read_ofString (s : String) :
    (if (Bytes.ofString s).all isVisible then Bytes.text? (Bytes.ofString s) else none)
      = if IsReadable s then some s else none := by
  rw [Bytes.text?_ofString]
  exact if_congr isReadable_iff rfl rfl

/-- The header that carries a key can be read if the key can. -/
theorem isReadable_header_iff {key : String} : IsReadable (Credential.header key) ↔ IsReadable key := by
  have hscheme : IsReadable (Credential.scheme ++ " ") := by decide
  unfold IsReadable Credential.header
  rw [String.toList_append, List.forall_mem_append]
  exact and_iff_right hscheme

/-- Whether an address **names a user**, who then shows a credential of their own. -/
def NamesUser (address : String) : Prop :=
  ∃ uri, Uri.parse? address = .ok uri ∧ (takeUser uri).2 ≠ []

/-- A user's credential is the only header that is taken from an address. -/
theorem takeUser_headers (uri : Uri) : (takeUser uri).2 = []
    ∨ ∃ rest, (takeUser uri).2 = [("authorization", Bytes.ofString "Basic " ++ rest)] := by
  unfold takeUser
  split
  · exact .inl rfl
  · split
    · exact .inl rfl
    · split
      · exact .inl rfl
      · exact .inr ⟨_, rfl⟩

/-- The headers of a request that was built are those that were given, **behind the credential of a
user** that the address names. -/
theorem Request.of_build {method address : String} {headers : List (String × Bytes)} {body : Bytes}
    {request : Request} (h : Request.build method address headers body = .ok request) :
    ∃ uri, Uri.parse? address = .ok uri ∧ request.headers = (takeUser uri).2 ++ headers := by
  obtain ⟨uri, huri, -, -, -, rfl⟩ := build_eq_ok_iff.mp h
  exact ⟨uri, huri, rfl⟩

/-- **The credentials of the request that forwards a record**: that of a user, if the address names
one, and the key. -/
theorem credentials_of_forwardRequest {address key : String} {payload : Payload} {request : Request}
    (h : forwardRequest address key payload = .ok request) :
    (¬ NamesUser address ∧ valuesOf "authorization" request.headers
        = [Bytes.ofString (Credential.header key)])
      ∨ (NamesUser address ∧ ∃ rest, (valuesOf "authorization" request.headers).head?
        = some (Bytes.ofString "Basic " ++ rest)) := by
  have hname : ("authorization".toLower == "authorization") = true := by decide +kernel
  have htype : ("content-type".toLower == "authorization") = false := by decide +kernel
  have haccept : ("accept".toLower == "authorization") = false := by decide +kernel
  obtain ⟨uri, huri, hheaders⟩ := Request.of_build h
  rw [hheaders]
  obtain hnone | ⟨rest, huser⟩ := takeUser_headers uri
  · refine .inl ⟨?_, ?_⟩
    · rintro ⟨uri', huri', huser⟩
      rw [huri] at huri'
      exact huser (Except.ok.inj huri' ▸ hnone)
    · rw [hnone, List.nil_append]
      simp only [valuesOf, List.filter_cons, List.filter_nil, htype, haccept, hname, if_true,
        Bool.false_eq_true, if_false, List.map_cons, List.map_nil]
  · refine .inr ⟨⟨uri, huri, by rw [huser]; nofun⟩, rest, ?_⟩
    rw [huser]
    simp only [valuesOf, List.cons_append, List.filter_cons, hname, if_true, List.map_cons,
      List.head?_cons]

end Http

namespace Relay

variable {σ : Type}

/-- **Which keys authenticate.** Let both hops be set to one key that is not empty, and let the
first hop have built a request with it, to any address and for any record. If the credentials of
that request arrive as they were sent, then the check of the second hop is passed exactly if the key
consists of visible ASCII, spaces and tabs and the address names no user. -/
theorem shown_key_authorizes_iff (setup : Publishing.Setup) (w : Publishing.World σ)
    {address : String} {payload : Payload} {request : Http.Request} {r : Http.Inbound}
    (hkey : setup.key ≠ "")
    (hbuilt : Http.forwardRequest address setup.key payload = .ok request)
    (harrived : Http.valuesOf "authorization" r.headers
      = Http.valuesOf "authorization" request.headers) :
    (Admission.authorize (Publishing.ports setup) (r.header? "authorization") w).1 = true
      ↔ IsReadable setup.key ∧ ¬ Http.NamesUser address := by
  rw [Admission.authorize_ports, Http.Inbound.header?_eq, harrived]
  obtain ⟨huser, hvalue⟩ | ⟨huser, rest, hfirst⟩ := Http.credentials_of_forwardRequest hbuilt
  · rw [hvalue, List.head?_cons, Option.bind_some, Http.read_ofString, and_iff_left huser]
    by_cases hreadable : IsReadable setup.key
    · rw [if_pos (Http.isReadable_header_iff.mpr hreadable)]
      refine iff_of_true ?_ hreadable
      exact Credential.authorizes_iff.mpr
        ⟨hkey, Credential.scheme, Credential.isScheme_scheme, rfl⟩
    · rw [if_neg fun h => hreadable (Http.isReadable_header_iff.mp h)]
      exact iff_of_false Bool.false_ne_true hreadable
  · refine iff_of_false ?_ fun h => h.2 huser
    rw [hfirst, Option.bind_some, Bool.not_eq_true]
    split
    · cases htext : Bytes.text? (Bytes.ofString "Basic " ++ rest) with
      | none => rfl
      | some text => exact Credential.not_authorizes_basic (Bytes.ofString_of_text? htext)
    · rfl

/-- A second hop that asks for a key. -/
def asking (key : String) : Publishing.Setup where
  key := key
  topic := "people"
  probe := .ok ()
  stamp n := (⟨toString n⟩, .epoch)

/-- A second hop before anything was submitted. -/
def idle : Publishing.World MemoryLog := ⟨Session.start MemoryLog.sink .empty ⟨0, 0, 0⟩, 0⟩

/-- A record in the format in which it is forwarded. -/
def ada : Payload := ⟨.protobuf, Bytes.ofString "\n\x03Ada\x12\x08Lovelace"⟩

/-- The address of a second hop on this host. -/
def nearby : String := "http://[::1]:50001"

/-- **A key with a letter outside ASCII is sent and never let in**: the request is built, and the
second hop, which asks for the same key, answers that it is missing. -/
theorem unreadable_key_rejected :
    ∃ request, Http.forwardRequest nearby "é" ada = .ok request
      ∧ (Admission.authorize (Publishing.ports (asking "é"))
          (request.inbound.header? "authorization") idle).1 = false
      ∧ (Publishing.receive (Publishing.ports (asking "é")) "people" request.inbound idle).result
        = .text .unauthorized "invalid or missing api key" := by
  have hbuilt : Http.forwardRequest nearby "é" ada
      = .ok (Http.forwarded ⟨"http", some ⟨{}, "[::1]", some 50001⟩, "/"⟩ "é" ada) :=
    eq_ok_of_toOption (by decide +kernel)
  exact ⟨_, hbuilt, by decide +kernel, by decide +kernel⟩

/-- A key with spaces and a tab. -/
def spaced : String := " two words\tand a tab"

/-- What arrives with such a key: headers of other names came with it, and the name of its own is
written otherwise. -/
def arrived : Http.Inbound where
  method := "GET"
  target := "/"
  headers := [("host", Bytes.ofString "[::1]:50001"),
    ("Authorization", Bytes.ofString (Credential.header spaced))]
  body := ada.bytes

/-- A key with spaces and a tab authenticates. -/
theorem shown_key_authorizes_iff_spaced :
    (Admission.authorize (Publishing.ports (asking spaced)) (arrived.header? "authorization") idle).1
      = true := by
  have huser : ¬ Http.NamesUser nearby := by
    have hparse : Uri.parse? nearby = .ok ⟨"http", some ⟨{}, "[::1]", some 50001⟩, "/"⟩ :=
      eq_ok_of_toOption (by decide +kernel)
    rintro ⟨uri, huri, huser⟩
    rw [hparse] at huri
    obtain rfl := Except.ok.inj huri
    exact huser (by decide +kernel)
  have hbuilt : Http.forwardRequest nearby (asking spaced).key ada
      = .ok (Http.forwarded ⟨"http", some ⟨{}, "[::1]", some 50001⟩, "/"⟩ spaced ada) :=
    eq_ok_of_toOption (by decide +kernel)
  exact (shown_key_authorizes_iff (asking spaced) idle (by decide) hbuilt (by decide +kernel)).mpr
    ⟨by decide +kernel, huser⟩

end Relay

end RecordRelay
