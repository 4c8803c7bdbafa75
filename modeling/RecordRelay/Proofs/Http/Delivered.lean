import RecordRelay.Http.Call
import RecordRelay.Http.Exchange
import RecordRelay.Proofs.Credential
import RecordRelay.Proofs.Octets

/-!
# Headers arrive

What the first hop puts into the headers of a request is what the second one reads from them: the
format of the body, and the key. A header is read as text only if it is **visible ASCII**, so the
key has to be; and since the scheme ends at the first space, the key itself may hold spaces.

Whether a request can be built at all depends on its address, and on header values only as far as
they may hold no controls. So if a request without headers can be built to an address, the same
request with visible headers can.
-/

namespace RecordRelay

/-! ## Visible octets -/

/-- Whether a text **is read from a header** that holds it: it consists of visible ASCII, spaces and
tabs. -/
def IsReadable (s : String) : Prop :=
  ∀ c ∈ s.toList, (0x20 ≤ c.toNat ∧ c.toNat < 0x7F) ∨ c.toNat = 9

instance : DecidablePred IsReadable := fun s =>
  List.decidableBAll (fun c : Char => (0x20 ≤ c.toNat ∧ c.toNat < 0x7F) ∨ c.toNat = 9) s.toList

/-- Whether a text consists of **visible ASCII**, spaces included. -/
def IsVisible (s : String) : Prop := ∀ c ∈ s.toList, 0x20 ≤ c.toNat ∧ c.toNat < 0x7F

instance : DecidablePred IsVisible := fun s =>
  List.decidableBAll (fun c : Char => 0x20 ≤ c.toNat ∧ c.toNat < 0x7F) s.toList

/-- Visible texts are read. -/
theorem IsVisible.isReadable {s : String} (h : IsVisible s) : IsReadable s :=
  fun c hc => .inl (h c hc)

/-- The octets that are read as text, by their numbers. -/
theorem Http.isVisible_iff {b : UInt8} :
    Http.isVisible b = true ↔ (0x20 ≤ b.toNat ∧ b.toNat < 0x7F) ∨ b.toNat = 9 := by
  simp only [Http.isVisible, Bool.or_eq_true, Bool.and_eq_true, decide_eq_true_eq, beq_iff_eq,
    UInt8.le_iff_toNat_le, UInt8.lt_iff_toNat_lt, ← UInt8.toNat_inj]
  rfl

/-- A text is read from its octets **exactly if every character is**. A character outside ASCII has
an octet with its top bit set, and no such octet is read. -/
theorem isReadable_iff {s : String} :
    (Bytes.ofString s).all Http.isVisible = true ↔ IsReadable s := by
  rw [Bytes.ofString, List.all_flatMap, List.all_eq_true]
  refine forall₂_congr fun c _ => ?_
  by_cases hascii : c.toNat < 0x80
  · have hnat : c.toNat.toUInt8.toNat = c.toNat := by
      rw [Nat.toUInt8_eq, UInt8.toNat_ofNat', Nat.mod_eq_of_lt (by omega)]
    rw [Bytes.utf8EncodeChar_of_lt hascii, List.all_cons, List.all_nil, Bool.and_true,
      Http.isVisible_iff, hnat]
  · obtain ⟨b, hb⟩ := List.exists_mem_of_ne_nil _ (String.utf8EncodeChar_ne_nil (c := c))
    have htop := UInt8.le_iff_toNat_le.mp (Bytes.le_of_mem_utf8EncodeChar hascii hb)
    have hlimit : (0x80 : UInt8).toNat = 128 := rfl
    constructor
    · intro hall
      have hvisible := Http.isVisible_iff.mp (List.all_eq_true.mp hall b hb)
      omega
    · intro hreadable
      omega

/-- A visible text has visible octets only. -/
theorem IsVisible.isVisible_ofString {s : String} (h : IsVisible s) :
    (Bytes.ofString s).all Http.isVisible :=
  isReadable_iff.mpr h.isReadable

/-- A header that carries a visible key is visible. -/
theorem isVisible_header {key : String} (h : IsVisible key) :
    IsVisible (Credential.header key) := by
  intro c hc
  rw [Credential.header, String.toList_append, List.mem_append] at hc
  obtain hc | hc := hc
  · have hscheme : IsVisible (Credential.scheme ++ " ") := by decide
    exact hscheme c hc
  · exact h c hc

/-- **The key is read** from the header that carries it. -/
theorem Credential.key?_header {key : String} (h : key ≠ "") :
    Credential.key? (some (Credential.header key)) = some key :=
  Credential.key?_eq_some_iff.mpr ⟨h, Credential.scheme, Credential.isScheme_scheme, rfl⟩

namespace Http

/-- What is visible may stand in a header. -/
theorem inHeader_of_isVisible {b : UInt8} (h : isVisible b = true) : inHeader b = true := by
  unfold isVisible at h
  unfold inHeader
  simp only [Bool.or_eq_true, Bool.and_eq_true, decide_eq_true_eq, bne_iff_ne, beq_iff_eq] at h ⊢
  obtain ⟨hle, hlt⟩ | htab := h
  · exact .inl ⟨hle, by rintro rfl; exact absurd hlt (by decide)⟩
  · exact .inr htab

/-- **Which requests are built**: those to an address that can be read, has a host and is fit for a
request once the user part is taken from it, with header values that can be sent. -/
theorem Request.build_eq_ok_iff {method address : String} {headers : List (String × Bytes)}
    {body : Bytes} {request : Request} :
    build method address headers body = .ok request ↔
      ∃ uri, Uri.parse? address = .ok uri ∧ uri.host?.isSome
        ∧ (∀ header ∈ headers, header.2.all inHeader)
        ∧ ((takeUser uri).1.isHttp ∧ (takeUser uri).1.canBeSent)
        ∧ request = ⟨method, (takeUser uri).1, (takeUser uri).2 ++ headers, body⟩ := by
  have hgood : (headers.any fun header => !header.2.all inHeader) = false
      ↔ ∀ header ∈ headers, header.2.all inHeader := by
    simp only [List.any_eq_false, Bool.not_eq_true', Bool.not_eq_false]
  unfold build
  cases Uri.parse? address with
  | error fault => exact ⟨nofun, fun ⟨_, huri, _⟩ => nomatch huri⟩
  | ok uri =>
    dsimp only
    constructor
    · intro h
      split_ifs at h with hhost hheaders hhttp hsend
      simp only [Bool.not_eq_true, Option.isNone_eq_false_iff, Bool.not_eq_false']
        at hhost hheaders hhttp hsend
      exact ⟨uri, rfl, hhost, hgood.mp hheaders, ⟨hhttp, hsend⟩, (Except.ok.inj h).symm⟩
    · rintro ⟨_, ⟨⟩, hhost, hheaders, ⟨hhttp, hsend⟩, rfl⟩
      simp only [Option.isNone_eq_false_iff.mpr hhost, hgood.mpr hheaders, hhttp, hsend,
        Bool.not_true, Bool.false_eq_true, if_false]

/-- **A request can be built** with visible headers and any body, if one can be built to the same
address without. -/
theorem Request.build_of_visible {method address : String} {uri : Uri}
    {headers : List (String × Bytes)} (h : build method address [] [] = .ok ⟨method, uri, [], []⟩)
    (hvisible : ∀ header ∈ headers, header.2.all isVisible) (body : Bytes) :
    build method address headers body = .ok ⟨method, uri, headers, body⟩ := by
  obtain ⟨full, hparse, hhost, -, hfit, hbare⟩ := build_eq_ok_iff.mp h
  have hheaders : ∀ header ∈ headers, header.2.all inHeader := fun header hmem =>
    List.all_eq_true.mpr fun b hb =>
      inHeader_of_isVisible (List.all_eq_true.mp (hvisible header hmem) b hb)
  -- no credential comes from the address, since the request without headers has none
  obtain ⟨-, haddress, huser, -⟩ := Request.mk.inj hbare
  rw [List.append_nil] at huser
  refine build_eq_ok_iff.mpr ⟨full, hparse, hhost, hheaders, hfit, ?_⟩
  rw [← haddress, ← huser, List.nil_append]

/-- **A visible header is read** as the text that was written, if no other comes before it under its
name. -/
theorem Inbound.header?_ofString {r : Inbound} {name : String} {s : String}
    (h : r.headers.find? (fun h => h.1.toLower == name) = some (name, Bytes.ofString s))
    (hs : (Bytes.ofString s).all isVisible) : r.header? name = some s := by
  unfold header?
  rw [h]
  dsimp only
  rw [if_pos hs, Bytes.text?_ofString]

/-! ## The request that forwards a record -/

/-- **What goes out** to an address with a key and a payload, by GET. -/
def forwarded (uri : Uri) (key : String) (payload : Payload) : Request :=
  ⟨"GET", uri, [("content-type", Bytes.ofString Format.protobuf.contentType),
    ("accept", Bytes.ofString Format.protobuf.contentType),
    ("authorization", Bytes.ofString (Credential.header key))], payload.bytes⟩

variable {uri : Uri} {key : String} {payload : Payload}

/-- It can be built for every visible key. -/
theorem forwardRequest_of_visible {address : String}
    (h : Request.build "GET" address [] [] = .ok ⟨"GET", uri, [], []⟩) (hkey : IsVisible key) :
    forwardRequest address key payload = .ok (forwarded uri key payload) := by
  have htype : (Bytes.ofString Format.protobuf.contentType).all isVisible := by decide
  have hheader := (isVisible_header hkey).isVisible_ofString
  refine Request.build_of_visible h ?_ payload.bytes
  simp only [List.forall_mem_cons, htype, hheader, List.not_mem_nil, false_imp_iff, implies_true,
    and_self]

/-- Its type is read from it, wherever it arrives. -/
theorem header?_contentType {r : Inbound} (h : r.headers = (forwarded uri key payload).headers) :
    r.header? "content-type" = some Format.protobuf.contentType := by
  have hname : ("content-type".toLower == "content-type") = true := by decide +kernel
  refine Inbound.header?_ofString ?_ (by decide)
  simp only [h, forwarded, List.find?_cons, hname]

/-- So is its credential. -/
theorem header?_authorization {r : Inbound} (h : r.headers = (forwarded uri key payload).headers)
    (hkey : IsVisible key) : r.header? "authorization" = some (Credential.header key) := by
  have hname : ("authorization".toLower == "authorization") = true := by decide +kernel
  have htype : ("content-type".toLower == "authorization") = false := by decide +kernel
  have haccept : ("accept".toLower == "authorization") = false := by decide +kernel
  refine Inbound.header?_ofString ?_ (isVisible_header hkey).isVisible_ofString
  simp only [h, forwarded, List.find?_cons, htype, haccept, hname]

end Http

end RecordRelay
