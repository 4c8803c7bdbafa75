import RecordRelay.Proofs.Settings.Field
import RecordRelay.Settings.File

/-!
# What a file tells the settings

Each field of the settings is told by **what stands at the end of its way** in a file, and by nothing
else that the file has (`tells_field`). A text, a number or a backend is read only from a value that
tells exactly it; in particular no number is cut to its range. That the members of each record have
names of their own, and each changes its own field and no other, is seen from the lists of members.
-/

namespace RecordRelay.Settings

open Toml (Value Step Member Governs Tells readRecord)

variable {ρ τ β : Type} {name : String}

/-! ## Values -/

/-- Only a text is read as a text. -/
theorem eq_of_asText {expected t : String} {v : Value} (h : v.asText expected = .ok t) :
    v = .string t := by
  cases v with
  | string => exact congrArg Value.string (Except.ok.inj h)
  | _ => cases h

/-- Only a whole number between the bounds is read as one. -/
theorem eq_of_asInteger {expected : String} {least greatest n : Int} {v : Value}
    (h : v.asInteger expected least greatest = .ok n) :
    v = .integer n ∧ least ≤ n ∧ n ≤ greatest := by
  cases v with
  | integer m =>
    by_cases hm : least ≤ m ∧ m ≤ greatest
    · obtain rfl := Except.ok.inj ((if_pos hm).symm.trans h)
      exact ⟨rfl, hm⟩
    · exact nomatch (if_neg hm).symm.trans h
  | _ => cases h

/-- Only an array of texts is read as texts. -/
theorem elements?_of_asTexts {v : Value} {ts : List String} (h : v.asTexts = .ok ts) :
    v.elements? = some (ts.map .string) := by
  unfold Value.asTexts at h
  split at h
  · next elements helements =>
    refine helements.trans (congrArg some ?_)
    clear helements
    induction elements generalizing ts with
    | nil =>
      cases h
      rfl
    | cons w elements ih =>
      rw [List.mapM_cons] at h
      obtain ⟨t, ht, h⟩ := exists_of_bind_eq_ok h
      obtain ⟨us, hus, h⟩ := exists_of_bind_eq_ok h
      cases h
      rw [eq_of_asText ht, ih hus, List.map_cons]
  · cases h

/-- Only the name of a backend is read as the backend. -/
theorem told_of_asName {v : Value} {b : Backend} (h : v.asName Backend.named = .ok b) :
    Kind.backend.Told v b := by
  unfold Value.asName at h
  dsimp only at h
  split at h
  · split at h <;> cases h
    next hname => exact .inl (congrArg _ (Kind.lookup_named_iff.mp hname))
  · cases h
  · obtain ⟨a, ha, h⟩ := exists_of_bind_eq_ok h
    obtain ⟨⟨⟩, hempty, h⟩ := exists_of_bind_eq_ok h
    cases h
    split at ha <;> cases ha
    next hname => exact .inr ⟨_, _, by rw [Kind.lookup_named_iff.mp hname], hempty⟩
  · cases h
  · cases h

/-- A partition is taken as it is. -/
theorem told_partition {expected : String} {n : Int} {v : Value}
    (h : v.asInteger expected (-2147483648) 2147483647 = .ok n) :
    Kind.signed.Told v (.ofInt n) := by
  obtain ⟨hv, hlow, hhigh⟩ := eq_of_asInteger h
  exact hv.trans (congrArg _ (Int32.toInt_ofInt_of_le hlow (Int.lt_add_one_of_le hhigh)).symm)

/-! ## Members -/

/-- A member that is a text sets the field that shows it. -/
theorem sets_textField {set : String → ρ → ρ} {get : ρ → String}
    (h : ∀ t r, get (set t r) = t) : (textField name set).Sets get Kind.text.Told :=
  Member.sets_mk fun _ t ht r => (eq_of_asText ht).trans (congrArg _ (h t r).symm)

/-- So does one that is a path. -/
theorem sets_pathField {set : String → ρ → ρ} {get : ρ → String}
    (h : ∀ t r, get (set t r) = t) : (pathField name set).Sets get Kind.text.Told :=
  Member.sets_mk fun _ t ht r => (eq_of_asText ht).trans (congrArg _ (h t r).symm)

/-- So does one that is a number, if its range fits. -/
theorem sets_wordField {range : WordRange} {set : Nat → ρ → ρ} {get : ρ → β} {toNat : β → Nat}
    (h : ∀ (n : Nat) r, (n : Int) ≤ range.high → toNat (get (set n r)) = n) :
    (wordField name range set).Sets get fun v b => v = .integer (toNat b) := by
  intro v r r' hput
  obtain ⟨n, hn, hput⟩ := exists_of_bind_eq_ok hput
  cases hput
  obtain ⟨hv, hlow, hhigh⟩ := eq_of_asInteger hn
  have hnat : ((n.toNat : Nat) : Int) = n := Int.toNat_of_nonneg hlow
  rw [h _ r (hnat.symm ▸ hhigh), hnat]
  exact hv

/-- A number of sixteen bits is taken as it is. -/
theorem sets_short {set : Nat → ρ → ρ} {get : ρ → UInt16} (h : ∀ n r, get (set n r) = .ofNat n) :
    (wordField name .short set).Sets get Kind.port.Told :=
  sets_wordField fun n r (hn : (n : Int) ≤ 65535) => by
    rw [h, UInt16.toNat_ofNat_of_lt' (show n < 65536 by omega)]

/-- So is one of thirty-two bits. -/
theorem sets_middle {set : Nat → ρ → ρ} {get : ρ → UInt32} (h : ∀ n r, get (set n r) = .ofNat n) :
    (wordField name .middle set).Sets get Kind.middle.Told :=
  sets_wordField fun n r (hn : (n : Int) ≤ 4294967295) => by
    rw [h, UInt32.toNat_ofNat_of_lt' (show n < 4294967296 by omega)]

/-- So is one of sixty-four bits, whatever it is called. -/
theorem sets_long {range : WordRange} {set : Nat → ρ → ρ} {get : ρ → UInt64}
    (hrange : range.high = WordRange.long.high) (h : ∀ n r, get (set n r) = .ofNat n) :
    (wordField name range set).Sets get Kind.long.Told :=
  sets_wordField fun n r hn => by
    have hn : (n : Int) ≤ 18446744073709551615 := Int.le_trans hn (Int.le_of_eq hrange)
    rw [h, UInt64.toNat_ofNat_of_lt' (show n < 18446744073709551616 by omega)]

/-- A member that is a record sets the field that shows it. -/
theorem sets_recordField {expected : String} {fields : List (Member τ)} {start : τ}
    {set : τ → ρ → ρ} {get : ρ → τ} (h : ∀ t r, get (set t r) = t) :
    (recordField name expected fields start set).Sets get
      fun v t => readRecord expected fields start v = .ok t :=
  Member.sets_mk fun v t ht r => by rw [h, ht]

/-! A member spares every other field, which is seen from what it puts into the record. -/

@[simp]
theorem spares_textField {set : String → ρ → ρ} {get : ρ → β} (h : ∀ t r, get (set t r) = get r) :
    (textField name set).Spares get := Member.spares_mk h

@[simp]
theorem spares_pathField {set : String → ρ → ρ} {get : ρ → β} (h : ∀ t r, get (set t r) = get r) :
    (pathField name set).Spares get := Member.spares_mk h

@[simp]
theorem spares_wordField {range : WordRange} {set : Nat → ρ → ρ} {get : ρ → β}
    (h : ∀ n r, get (set n r) = get r) : (wordField name range set).Spares get :=
  Member.spares_mk fun (n : Int) r => h n.toNat r

@[simp]
theorem spares_recordField {expected : String} {fields : List (Member τ)} {start : τ}
    {set : τ → ρ → ρ} {get : ρ → β} (h : ∀ t r, get (set t r) = get r) :
    (recordField name expected fields start set).Spares get := Member.spares_mk h

/-! Every member has the name that it was made with. -/

@[simp]
theorem textField_name (set : String → ρ → ρ) : (textField name set).name = name := rfl

@[simp]
theorem pathField_name (set : String → ρ → ρ) : (pathField name set).name = name := rfl

@[simp]
theorem wordField_name (range : WordRange) (set : Nat → ρ → ρ) :
    (wordField name range set).name = name := rfl

@[simp]
theorem recordField_name (expected : String) (fields : List (Member τ)) (start : τ)
    (set : τ → ρ → ρ) : (recordField name expected fields start set).name = name := rfl

/-! ## Records -/

/-- **The settings tell what one of their parts tells.** -/
theorem tells_part {part : Settings → τ} {fields' : List (Member τ)} {step further : Step}
    {expected : String} {Told : Value → β → Prop} (get : τ → β)
    (hpart : Governs fields step part fun v t => readRecord expected fields' (part {}) v = .ok t)
    (h : Governs fields' further get Told) :
    Tells (readRecord "struct Config" fields {}) [step, further] (fun s => get (part s)) Told
      (get (part {})) :=
  (hpart.tells "struct Config" {}).under (h.tells expected (part {}))

/-- The names of the parts are distinct, and so are those of the fields of each part. -/
theorem distinct_parts : (fields.map (·.name)).Nodup := by decide

theorem distinct_gateway : (GatewaySettings.fields.map (·.name)).Nodup := by decide

theorem distinct_publisher : (PublisherSettings.fields.map (·.name)).Nodup := by decide

theorem distinct_log : (LogSettings.fields.map (·.name)).Nodup := by decide

/-! Each part has a member that answers for it, and so has the rate limit in its part. -/

theorem governs_gateway : Governs fields ⟨"gateway", 0⟩ (·.gateway)
    fun v g => readRecord "struct GatewayConfig" GatewaySettings.fields {} v = .ok g :=
  ⟨distinct_parts, ⟨_, rfl, rfl, sets_recordField fun _ _ => rfl⟩, by simp [fields]⟩

theorem governs_publisher : Governs fields ⟨"publisher", 1⟩ (·.publisher)
    fun v p => readRecord "struct PublisherConfig" PublisherSettings.fields {} v = .ok p :=
  ⟨distinct_parts, ⟨_, rfl, rfl, sets_recordField fun _ _ => rfl⟩, by simp [fields]⟩

theorem governs_log : Governs fields ⟨"log", 2⟩ (·.log)
    fun v l => readRecord "struct LogConfig" LogSettings.fields {} v = .ok l :=
  ⟨distinct_parts, ⟨_, rfl, rfl, sets_recordField fun _ _ => rfl⟩, by simp [fields]⟩

theorem governs_logging : Governs fields ⟨"logging", 3⟩ (·.logging)
    fun v l => readRecord "struct LoggingConfig" LoggingSettings.fields {} v = .ok l :=
  ⟨distinct_parts, ⟨_, rfl, rfl, sets_recordField fun _ _ => rfl⟩, by simp [fields]⟩

theorem governs_rateLimit : Governs GatewaySettings.fields ⟨"rate_limit", 5⟩ (·.rateLimit)
    fun v l => readRecord "struct RateLimitConfig" RateSettings.fields {} v = .ok l :=
  ⟨distinct_gateway, ⟨_, rfl, rfl, sets_recordField fun _ _ => rfl⟩,
    by simp [GatewaySettings.fields]⟩

/-- The rate limit is a part of a part. -/
theorem tells_rateLimit {step : Step} {Told : Value → β → Prop} (get : RateSettings → β)
    (h : Governs RateSettings.fields step get Told) :
    Tells (readRecord "struct Config" fields {}) [⟨"gateway", 0⟩, ⟨"rate_limit", 5⟩, step]
      (fun s => get s.gateway.rateLimit) Told (get {}) :=
  (tells_part (·.rateLimit) governs_gateway governs_rateLimit).under
    (h.tells "struct RateLimitConfig" {})

/-- **What each field has after a file was read** is told by what stands at the end of its way. -/
theorem tells_field (x : Field) :
    Tells (readRecord "struct Config" fields {}) x.way (fun s => x.get s) x.kind.Told
      (x.get {}) := by
  -- each field has the member of its name, and the other members of its record spare it
  cases x with
  | gatewayPort =>
    refine tells_part (·.port) governs_gateway ?_
    exact ⟨distinct_gateway, ⟨_, rfl, rfl, sets_short fun _ _ => rfl⟩,
      by simp [GatewaySettings.fields]⟩
  | cacheUri =>
    refine tells_part (·.cacheUri) governs_gateway ?_
    exact ⟨distinct_gateway, ⟨_, rfl, rfl, sets_textField fun _ _ => rfl⟩,
      by simp [GatewaySettings.fields]⟩
  | publisherUri =>
    refine tells_part (·.publisherUri) governs_gateway ?_
    exact ⟨distinct_gateway, ⟨_, rfl, rfl, sets_textField fun _ _ => rfl⟩,
      by simp [GatewaySettings.fields]⟩
  | gatewayKey =>
    refine tells_part (·.apiKey) governs_gateway ?_
    exact ⟨distinct_gateway, ⟨_, rfl, rfl, sets_textField fun _ _ => rfl⟩,
      by simp [GatewaySettings.fields]⟩
  | gatewayTimeout =>
    refine tells_part (·.timeoutSecs) governs_gateway ?_
    exact ⟨distinct_gateway, ⟨_, rfl, rfl, sets_long rfl fun _ _ => rfl⟩,
      by simp [GatewaySettings.fields]⟩
  | perSecond =>
    refine tells_rateLimit (·.perSecond) ?_
    exact ⟨by decide, ⟨_, rfl, rfl, sets_middle fun _ _ => rfl⟩, by simp [RateSettings.fields]⟩
  | burst =>
    refine tells_rateLimit (·.burst) ?_
    exact ⟨by decide, ⟨_, rfl, rfl, sets_middle fun _ _ => rfl⟩, by simp [RateSettings.fields]⟩
  | publisherPort =>
    refine tells_part (·.port) governs_publisher ?_
    exact ⟨distinct_publisher, ⟨_, rfl, rfl, sets_short fun _ _ => rfl⟩,
      by simp [PublisherSettings.fields]⟩
  | publisherKey =>
    refine tells_part (·.apiKey) governs_publisher ?_
    exact ⟨distinct_publisher, ⟨_, rfl, rfl, sets_textField fun _ _ => rfl⟩,
      by simp [PublisherSettings.fields]⟩
  | probeUri =>
    refine tells_part (·.probeUri) governs_publisher ?_
    exact ⟨distinct_publisher, ⟨_, rfl, rfl, sets_textField fun _ _ => rfl⟩,
      by simp [PublisherSettings.fields]⟩
  | publisherTimeout =>
    refine tells_part (·.timeoutSecs) governs_publisher ?_
    exact ⟨distinct_publisher, ⟨_, rfl, rfl, sets_long rfl fun _ _ => rfl⟩,
      by simp [PublisherSettings.fields]⟩
  | backend =>
    refine tells_part (·.backend) governs_log ?_
    exact ⟨distinct_log, ⟨_, rfl, rfl, Member.sets_mk fun _ _ hb _ => told_of_asName hb⟩,
      by simp [LogSettings.fields, -bind_pure_comp]⟩
  | brokers =>
    refine tells_part (·.brokers) governs_log ?_
    exact ⟨distinct_log, ⟨_, rfl, rfl, Member.sets_mk fun _ _ hts _ => elements?_of_asTexts hts⟩,
      by simp [LogSettings.fields, -bind_pure_comp]⟩
  | topic =>
    refine tells_part (·.topic) governs_log ?_
    exact ⟨distinct_log, ⟨_, rfl, rfl, sets_textField fun _ _ => rfl⟩,
      by simp [LogSettings.fields, -bind_pure_comp]⟩
  | logDir =>
    refine tells_part (·.dir) governs_log ?_
    exact ⟨distinct_log, ⟨_, rfl, rfl, sets_pathField fun _ _ => rfl⟩,
      by simp [LogSettings.fields, -bind_pure_comp]⟩
  | partition =>
    refine tells_part (·.partition) governs_log ?_
    exact ⟨distinct_log, ⟨_, rfl, rfl, Member.sets_mk fun _ _ hn _ => told_partition hn⟩,
      by simp [LogSettings.fields, -bind_pure_comp]⟩
  | queueCapacity =>
    refine tells_part (·.queueCapacity) governs_log ?_
    exact ⟨distinct_log, ⟨_, rfl, rfl, sets_long rfl fun _ _ => rfl⟩,
      by simp [LogSettings.fields, -bind_pure_comp]⟩
  | errorBuffer =>
    refine tells_part (·.errorBuffer) governs_log ?_
    exact ⟨distinct_log, ⟨_, rfl, rfl, sets_long rfl fun _ _ => rfl⟩,
      by simp [LogSettings.fields, -bind_pure_comp]⟩
  | submitTimeout =>
    refine tells_part (·.submitTimeoutMs) governs_log ?_
    exact ⟨distinct_log, ⟨_, rfl, rfl, sets_long rfl fun _ _ => rfl⟩,
      by simp [LogSettings.fields, -bind_pure_comp]⟩
  | logsDir =>
    refine tells_part (·.dir) governs_logging ?_
    exact ⟨by decide, ⟨_, rfl, rfl, sets_pathField fun _ _ => rfl⟩,
      by simp [LoggingSettings.fields]⟩

end RecordRelay.Settings
