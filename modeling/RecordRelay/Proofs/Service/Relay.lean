import RecordRelay.Proofs.Delivery.Room
import RecordRelay.Proofs.Http.Delivered
import RecordRelay.Proofs.Person.RoundTrip
import RecordRelay.Service.Relay

/-!
# A record passes both hops

Take the two hops with nothing between them but the request that the first one builds. If both are
set to the same key and the second can be reached, then every record that the first hop reads from a
body **arrives as it was**: the second hop accepts one message, under its own topic, and what that
message carries reads back as the same record (`handle_of_matched`). The stages on the way are
followed one by one – building the request, its authorization, reading the body again, submitting –
and each of them is shown to be passed, so nothing is assumed of the second hop but what it is set
to and that its publisher has room.

A body that is no record goes nowhere: no call is made, whatever the calls would have done.
-/

namespace RecordRelay

/-! ## Sizes -/

/-- A name is part of the message that it is written in. -/
theorem Person.length_ofString_name_le (p : Person) (field : NameField) :
    (Bytes.ofString (p.name field)).length ≤ p.toWire.length := by
  have hfield : ∀ s, (Bytes.ofString s).length ≤ (Person.wireField field s).length := fun s => by
    unfold Person.wireField
    split
    · next hs =>
      rw [hs]
      exact Nat.le_refl 0
    · simp only [Protobuf.encodeText, List.length_append]
      omega
  unfold Person.toWire
  rw [List.length_append]
  cases field with
  | first => exact Nat.le_trans (hfield p.firstname) (Nat.le_add_right ..)
  | last => exact Nat.le_trans (hfield p.lastname) (Nat.le_add_left ..)

/-- So the names of a record that is written within limits are counted. -/
theorem Person.counted_of_size_le {p : Person} (h : (p.encode .protobuf).size ≤ Http.maxBody) :
    p.Counted := fun field =>
  Nat.lt_of_le_of_lt (Nat.le_trans (p.length_ofString_name_le field) h) (by decide)

/-! ## The second hop -/

namespace Publishing

variable {σ : Type} {setup : Setup} {w : World σ} {p : Person}

/-- **The message** that a record becomes when it is the next to be handed in. -/
def message (setup : Setup) (w : World σ) (p : Person) : Submission :=
  ⟨(setup.stamp w.issued).1, setup.topic, p.encode .json, (setup.stamp w.issued).2⟩

/-- The second hop **after it let a message in**. -/
def World.letIn (w : World σ) (s : Submission) : World σ :=
  ⟨w.session.moved (w.session.state.producer.enqueue s) [.entered s, .accepted s], w.issued + 1⟩

/-- Whether **the publisher is ready**: it is open with room in its queue, and no call that is still
on its way has the identifier that comes next. -/
structure World.Ready (setup : Setup) (w : World σ) : Prop where
  /-- The publisher is open and has room. -/
  room : w.session.state.producer.HasRoom
  /-- The identifier is new. -/
  fresh : ∀ s ∈ w.session.state.producer.pending, s.id ≠ (setup.stamp w.issued).1

/-- The publisher lets the record in. -/
theorem submit_of_ready (hready : w.Ready setup) :
    submit setup setup.topic (p.encode .json) w
      = (.ok (setup.stamp w.issued).1, w.letIn (message setup w p)) := by
  have hs : message setup w p ∉ w.session.state.producer.pending := fun hmem =>
    hready.fresh _ hmem rfl
  have hpublish := Session.publish_of_hasRoom hready.room hs
  unfold message at hpublish
  unfold submit World.letIn message
  split
  next id submittedAt hstamp =>
  rw [hstamp] at hpublish ⊢
  rw [hpublish]

/-- **A record with the right key is admitted.** -/
theorem handle_of_ready (hready : w.Ready setup) {authorization contentType : Option String}
    {body : Bytes} (hkey : Credential.key? authorization = some setup.key) (hne : setup.key ≠ "")
    (hprobe : setup.probe = .ok ()) (hread : Person.received contentType body = .ok p) :
    Admission.handle (ports setup) setup.topic authorization contentType body w
      = ⟨.ok (setup.stamp w.issued).1, [], w.letIn (message setup w p)⟩ := by
  have hauthorized : Admission.authorize (ports setup) authorization w = (true, w) := by
    unfold Admission.authorize
    rw [hkey]
    simp only [ports, Credential.accepts, hne, ne_eq, not_false_eq_true, and_self, decide_true]
  unfold Admission.handle
  rw [hauthorized]
  dsimp only
  rw [hread]
  dsimp only
  rw [show (ports setup).probe w = (.ok (), w) from congrArg (·, w) hprobe]
  dsimp only
  rw [show (ports setup).publish setup.topic (p.encode .json) w = _ from submit_of_ready hready]

/-- **A request with the right key is answered** without a word. -/
theorem receive_of_ready (hready : w.Ready setup) {r : Http.Inbound}
    (hsize : r.body.length ≤ Http.maxBody)
    (hkey : r.header? "authorization" = some (Credential.header setup.key)) (hne : setup.key ≠ "")
    (hprobe : setup.probe = .ok ())
    (hread : Person.received (r.header? "content-type") r.body = .ok p) :
    receive (ports setup) setup.topic r w
      = ⟨.empty .noContent, [], w.letIn (message setup w p)⟩ := by
  have hauthorization : Credential.key? (r.header? "authorization") = some setup.key := by
    rw [hkey, Credential.key?_header hne]
  unfold receive
  rw [if_neg (Nat.not_lt.mpr hsize), handle_of_ready hready hauthorization hne hprobe hread]

/-- So it is at the root of the service, by GET as by POST. -/
theorem respond_of_ready {page : World σ → Http.Answer} {r : Http.Inbound}
    {h : Handled (World σ) Http.Answer} (hmethod : r.method = "GET" ∨ r.method = "POST")
    (hpath : r.path = "/") (hreceive : receive (ports setup) setup.topic r w = h) :
    respond (ports setup) setup.topic page r w = h := by
  unfold respond
  rw [hpath]
  obtain hget | hpost := hmethod
  · rw [hget]
    exact hreceive
  · rw [hpost]
    exact hreceive

end Publishing

/-! ## Both hops -/

namespace Relay

variable {σ : Type} {setup : Setup} {w : World σ} {p : Person}

/-- Whether **both hops are set to each other**: they have one key, which a header can carry, the
address leads to the root of the second hop, somebody listens there, and what that hop probes
answers. -/
structure Setup.Matched (setup : Setup) : Prop where
  /-- There is a key. -/
  key_ne : setup.key ≠ ""
  /-- It is visible. -/
  key_visible : IsVisible setup.key
  /-- The second hop asks for it. -/
  key_eq : setup.publishing.key = setup.key
  /-- The address is one that requests are sent to, without a user part, and its path is the
  root. -/
  address : ∃ uri, Http.Request.build "GET" setup.address [] [] = .ok ⟨"GET", uri, [], []⟩
    ∧ (⟨"GET", uri, [], []⟩ : Http.Request).inbound.path = "/"
  /-- Somebody listens. -/
  reachable : setup.reachable = true
  /-- The probe gets an answer. -/
  probe : setup.publishing.probe = .ok ()

/-- **The relay after a record passed**: the second hop let one message in and counted nothing that
went wrong. -/
def World.letIn (setup : Setup) (w : World σ) (p : Person) : World σ :=
  { w with publishing := w.publishing.letIn (Publishing.message setup.publishing w.publishing p) }

/-- The second hop reads the format of a forwarded body. -/
theorem received_protobuf (h : p.Counted) (hfirst : p.firstname ≠ "") (hlast : p.lastname ≠ "") :
    Person.received (some Format.protobuf.contentType) (p.encode .protobuf).bytes = .ok p := by
  have hformat : Format.ofContentType? (some Format.protobuf.contentType) = .ok .protobuf := by
    decide
  unfold Person.received
  rw [hformat]
  exact Person.decode_eq_ok_iff.mpr ⟨Person.read?_encode fun _ => h, hfirst, hlast⟩

/-- **The second hop takes what is forwarded** to its root. -/
theorem ask_of_matched (hsetup : setup.Matched) (hready : w.publishing.Ready setup.publishing)
    (hfirst : p.firstname ≠ "") (hlast : p.lastname ≠ "")
    (hsize : (p.encode .protobuf).size ≤ Http.maxBody) {r : Http.Inbound}
    (hmethod : r.method = "GET") (hpath : r.path = "/") {uri : Uri}
    (hheaders : r.headers = (Http.forwarded uri setup.key (p.encode .protobuf)).headers)
    (hbody : r.body = (p.encode .protobuf).bytes) :
    ask setup r w = (.empty .noContent, w.letIn setup p) := by
  have hkey : r.header? "authorization" = some (Credential.header setup.publishing.key) := by
    rw [Http.header?_authorization hheaders hsetup.key_visible, hsetup.key_eq]
  have hread : Person.received (r.header? "content-type") r.body = .ok p := by
    rw [Http.header?_contentType hheaders, hbody]
    exact received_protobuf (Person.counted_of_size_le hsize) hfirst hlast
  have hreceive := Publishing.receive_of_ready hready (hbody ▸ hsize) hkey
    (hsetup.key_eq ▸ hsetup.key_ne) hsetup.probe hread
  unfold ask
  dsimp only
  rw [Publishing.respond_of_ready (.inl hmethod) hpath hreceive, List.append_nil]
  rfl

/-- **Forwarding succeeds**: the request is built, arrives and is taken. -/
theorem forward_of_matched (hsetup : setup.Matched)
    (hready : w.publishing.Ready setup.publishing) (hfirst : p.firstname ≠ "")
    (hlast : p.lastname ≠ "") (hsize : (p.encode .protobuf).size ≤ Http.maxBody) :
    forward setup (p.encode .protobuf) w = (.ok .noContent, w.letIn setup p) := by
  obtain ⟨uri, huri, hpath⟩ := hsetup.address
  have hrequest : Http.forwardRequest setup.address setup.key (p.encode .protobuf)
      = .ok (Http.forwarded uri setup.key (p.encode .protobuf)) :=
    Http.forwardRequest_of_visible huri hsetup.key_visible
  have hask : ask setup (Http.forwarded uri setup.key (p.encode .protobuf)).inbound w
      = (.empty .noContent, w.letIn setup p) := by
    have hheaders : (Http.forwarded uri setup.key (p.encode .protobuf)).inbound.headers
        = (Http.forwarded uri setup.key (p.encode .protobuf)).headers := rfl
    exact ask_of_matched hsetup hready hfirst hlast hsize rfl hpath hheaders rfl
  unfold forward
  rw [hrequest]
  dsimp only
  rw [if_pos hsetup.reachable, hask]
  rfl

/-- **A body that is no record** is refused before anything is called. -/
theorem handle_of_received_error {ports : Forwarding.Ports σ} {contentType : Option String}
    {body : Bytes} {w : σ} {e : DecodeError} (h : Person.received contentType body = .error e) :
    Forwarding.handle ports contentType body w = ⟨.error (.decode e), [.undecodable], w⟩ := by
  unfold Forwarding.handle
  rw [h]

/-- **A record that was read** is forwarded, whatever became of the question for the interval. -/
theorem handle_of_matched (hsetup : setup.Matched) (hready : w.publishing.Ready setup.publishing)
    {contentType : Option String} {body : Bytes} (hread : Person.received contentType body = .ok p)
    (hfirst : p.firstname ≠ "") (hlast : p.lastname ≠ "")
    (hsize : (p.encode .protobuf).size ≤ Http.maxBody) :
    Forwarding.handle (ports setup).traced contentType body ([], w)
      = ⟨.ok "got 204 No Content from HTTP route",
        Forwarding.noted setup.interval ++ [.forwarded (p.encode .protobuf).size],
        ([.interval, .forward (p.encode .protobuf)], w.letIn setup p)⟩ := by
  have hforward := forward_of_matched hsetup hready hfirst hlast hsize
  have hsummary : Forwarding.summary .noContent = "got 204 No Content from HTTP route" := by decide
  unfold Forwarding.handle
  rw [hread]
  simp only [Forwarding.Ports.traced, ports, hforward, hsummary, List.nil_append,
    List.cons_append]

/-- **A record arrives as it was.** If the hops are matched and the publisher is ready, then every
body that the first hop reads as a record leads to the same answer, whatever the question for the
interval came to. The first hop asks for the interval and forwards once; the second one lets in
exactly one message, which stands at the end of the queue under the topic of the publisher, and what
it carries is the record in JSON and reads back as the record. What is forwarded has to be within
the limits of a body.

A body whose type is unknown, or that is no complete record, is refused for what is wrong with it.
Nothing was called then, and nothing in the world has changed. -/
theorem record_arrives :
    (∀ {σ : Type} (setup : Setup) (w : World σ), setup.Matched →
      w.publishing.Ready setup.publishing →
      ∀ (contentType : Option String) (body : Bytes) (f : Format) (u : Person),
        Format.ofContentType? contentType = .ok f → Person.decode body f = .ok u →
        (u.encode .protobuf).size ≤ Http.maxBody →
        let s := Publishing.message setup.publishing w.publishing u
        Forwarding.handle (ports setup).traced contentType body ([], w)
            = ⟨.ok "got 204 No Content from HTTP route",
              Forwarding.noted setup.interval ++ [.forwarded (u.encode .protobuf).size],
              ([.interval, .forward (u.encode .protobuf)], w.letIn setup u)⟩
          ∧ (w.letIn setup u).publishing.session.trace
            = w.publishing.session.trace ++ [.entered s, .accepted s]
          ∧ (w.letIn setup u).publishing.session.state.producer.items
            = w.publishing.session.state.producer.items ++ [s]
          ∧ s.topic = setup.publishing.topic ∧ s.payload = u.encode .json
          ∧ Person.decode s.payload.bytes .json = .ok u)
    ∧ ∀ {σ : Type} (ports : Forwarding.Ports σ) (contentType : Option String) (body : Bytes) (w : σ)
        (e : DecodeError),
        (Format.ofContentType? contentType = .error e
          ∨ ∃ f, Format.ofContentType? contentType = .ok f ∧ Person.decode body f = .error e) →
        Forwarding.handle ports.traced contentType body ([], w)
          = ⟨.error (.decode e), [.undecodable], ([], w)⟩ := by
  constructor
  · intro σ setup w hsetup hready contentType body f u hformat hdecode hsize s
    have hread : Person.received contentType body = .ok u := by
      unfold Person.received
      rw [hformat]
      exact hdecode
    obtain ⟨-, hfirst, hlast⟩ := Person.decode_eq_ok_iff.mp hdecode
    have hjson : Person.decode (u.encode .json).bytes .json = .ok u :=
      Person.decode_eq_ok_iff.mpr ⟨Person.read?_encode nofun, hfirst, hlast⟩
    exact ⟨handle_of_matched hsetup hready hread hfirst hlast hsize, rfl, rfl, rfl, rfl, hjson⟩
  · rintro σ ports contentType body w e (hformat | ⟨f, hformat, hdecode⟩)
    · refine handle_of_received_error ?_
      unfold Person.received
      rw [hformat]
      rfl
    · refine handle_of_received_error ?_
      unfold Person.received
      rw [hformat]
      exact hdecode

/-- A relay on this host. The question for the interval fails, and the one slot is free. -/
def onThisHost : Setup where
  interval := .error (.body .unreadable)
  address := "http://[::1]:3001"
  key := "s3cret ~key!"
  reachable := true
  publishing := ⟨"s3cret ~key!", "records", .ok (), fun n => (⟨toString n⟩, .epoch)⟩

/-- The same before anything was forwarded. -/
def untouched : World MemoryLog := ⟨⟨Session.start MemoryLog.sink .empty ⟨0, 0, 0⟩, 0⟩, []⟩

/-- A record that comes as an array, with an escape and a character beyond the first plane, passes
this relay. Without its last name it is told so, and nothing is called. -/
theorem record_arrives_on_this_host :
    onThisHost.Matched ∧ untouched.publishing.Ready onThisHost.publishing
    ∧ (Forwarding.handle (ports onThisHost).traced (some "Application/JSON; charset=utf-8")
        (Bytes.ofString "[\"\\u00e9\\\"\", \"😀\"]") ([], untouched)).result
      = .ok "got 204 No Content from HTTP route"
    ∧ Forwarding.handle (ports onThisHost).traced none (Bytes.ofString "[\"\\u00e9\\\"\"]")
        ([], untouched)
      = ⟨.error (.decode (.missing .last)), [.undecodable], ([], untouched)⟩ := by
  have hmatched : onThisHost.Matched := by
    refine ⟨by decide, by decide +kernel, rfl, ?_, rfl, rfl⟩
    have hbuild : Http.Request.build "GET" onThisHost.address [] []
        = .ok ⟨"GET", ⟨"http", some ⟨⟨"", ""⟩, "[::1]", some 3001⟩, "/"⟩, [], []⟩ :=
      eq_ok_of_toOption (by decide +kernel)
    exact ⟨_, hbuild, by decide⟩
  have hready : untouched.publishing.Ready onThisHost.publishing :=
    ⟨⟨rfl, rfl, rfl, by decide⟩, fun s hs => nomatch hs⟩
  have hformat : Format.ofContentType? (some "Application/JSON; charset=utf-8") = .ok .json := by
    decide +kernel
  have hdecode : Person.decode (Bytes.ofString "[\"\\u00e9\\\"\", \"😀\"]") .json
      = .ok ⟨"é\"", "😀"⟩ := eq_ok_of_toOption (by decide +kernel)
  have hshort : Person.decode (Bytes.ofString "[\"\\u00e9\\\"\"]") .json
      = .error (.missing .last) := by
    have hread : Person.read? (Bytes.ofString "[\"\\u00e9\\\"\"]") .json = .ok ⟨"é\"", ""⟩ :=
      eq_ok_of_toOption (by decide +kernel)
    exact Person.decode_of_read? hread
  have hpassed := (record_arrives.1 onThisHost untouched hmatched hready _ _ _ _ hformat hdecode
    (by decide +kernel)).1
  refine ⟨hmatched, hready, by rw [hpassed], ?_⟩
  exact record_arrives.2 _ none _ _ _ (.inr ⟨.json, rfl, hshort⟩)

end Relay

end RecordRelay
