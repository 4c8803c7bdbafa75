import RecordRelay.Proofs.Settings.Field
import RecordRelay.Settings.Override

/-!
# What the environment tells the settings

Each variable either is refused, whatever the settings are, or sets its own fields to what its text
means and leaves the others alone: it is **faithful** (`Override.IsFaithful`). Variables are looked
at until one is refused. What is heard until then depends on the environment alone and not on the
settings (`exists_hears`), and this one fact carries the rest: fields without a variable that is set
stay as they are, and looking at the environment again changes nothing.
-/

namespace RecordRelay.Settings

/-! ## What texts mean -/

/-- More digits write no smaller number. -/
theorem le_ofDigitChars (digits : List Char) (n : Nat) : n ≤ Nat.ofDigitChars 10 digits n := by
  induction digits generalizing n with
  | nil => exact Nat.le_refl n
  | cons c digits ih =>
    rw [Nat.ofDigitChars_cons]
    exact Nat.le_trans (by omega) (ih _)

/-- Digits are put together **as long as they write no more than the greatest port**. -/
theorem foldlM_portDigit_eq_ok_iff {digits : List Char} {n m : Nat} (hn : n ≤ maxPort) :
    digits.foldlM portDigit n = .ok m
      ↔ (∀ c ∈ digits, c.isDigit = true) ∧ Nat.ofDigitChars 10 digits n = m ∧ m ≤ maxPort := by
  induction digits generalizing n with
  | nil =>
    rw [Nat.ofDigitChars_nil]
    constructor
    · intro h
      cases h
      exact ⟨fun _ hc => absurd hc List.not_mem_nil, rfl, hn⟩
    · rintro ⟨-, rfl, -⟩
      rfl
  | cons c digits ih =>
    rw [List.foldlM_cons, List.forall_mem_cons, Nat.ofDigitChars_cons]
    by_cases hdigit : c.isDigit = true
    · by_cases hmax : maxPort < 10 * n + (c.toNat - '0'.toNat)
      · have hstep : portDigit n c = .error .tooLarge := by
          rw [portDigit, if_neg (not_not_intro hdigit), if_pos hmax]
        rw [hstep]
        constructor
        · exact nofun
        · rintro ⟨-, rfl, hle⟩
          exact absurd (Nat.lt_of_lt_of_le hmax (le_ofDigitChars ..)) (Nat.not_lt.mpr hle)
      · have hstep : portDigit n c = .ok (10 * n + (c.toNat - '0'.toNat)) := by
          rw [portDigit, if_neg (not_not_intro hdigit), if_neg hmax]
        rw [hstep]
        exact (ih (Nat.not_lt.mp hmax)).trans (and_congr_left fun _ => (and_iff_right hdigit).symm)
    · have hstep : portDigit n c = .error .invalidDigit := if_pos hdigit
      rw [hstep]
      exact ⟨nofun, fun h => absurd h.1.1 hdigit⟩

/-- Digits are read as the port whose number they write. -/
theorem digits_eq_ok_iff {digits : List Char} {p : UInt16} :
    UInt16.ofNat <$> digits.foldlM portDigit 0 = .ok p
      ↔ (∀ c ∈ digits, c.isDigit = true) ∧ Nat.ofDigitChars 10 digits 0 = p.toNat := by
  have hfold : ∀ m, digits.foldlM portDigit 0 = .ok m
      ↔ (∀ c ∈ digits, c.isDigit = true) ∧ Nat.ofDigitChars 10 digits 0 = m ∧ m ≤ maxPort :=
    fun _ => foldlM_portDigit_eq_ok_iff (Nat.zero_le maxPort)
  constructor
  · intro h
    cases hm : digits.foldlM portDigit 0 with
    | error fault =>
      rw [hm] at h
      cases h
    | ok m =>
      rw [hm] at h
      cases h
      obtain ⟨hdigits, hwritten, hle⟩ := (hfold m).mp hm
      exact ⟨hdigits, hwritten.trans (UInt16.toNat_ofNat_of_lt' (Nat.lt_succ_of_le hle)).symm⟩
  · rintro ⟨hdigits, hwritten⟩
    have hle : p.toNat ≤ maxPort := Nat.le_of_lt_succ p.toNat_lt
    rw [(hfold p.toNat).mpr ⟨hdigits, hwritten, hle⟩]
    exact congrArg Except.ok UInt16.ofNat_toNat

/-- **A text is read as the port that it is the text of**, and no other text is read. -/
theorem port_eq_ok_iff {text : String} {p : UInt16} :
    Settings.port text = .ok p ↔ Kind.IsPort text p := by
  have hplus : ¬ '+'.isDigit = true := by decide
  unfold Settings.port Kind.IsPort
  split
  · next htrim =>
    rw [htrim]
    refine ⟨nofun, ?_⟩
    rintro ⟨digits, hne, htext | htext, -⟩
    · exact absurd htext.symm hne
    · cases htext
  · next c digits htrim =>
    rw [htrim, digits_eq_ok_iff]
    constructor
    · exact fun h => ⟨_, List.cons_ne_nil _ _, .inr rfl, h⟩
    · rintro ⟨digits', hne, htext | htext, hdigits, hwritten⟩
      · exact absurd (hdigits '+' (htext ▸ List.mem_cons_self)) hplus
      · obtain ⟨-, rfl⟩ := List.cons.inj htext
        exact ⟨hdigits, hwritten⟩
  · next hnil hsign =>
    rw [digits_eq_ok_iff]
    constructor
    · exact fun h => ⟨_, hnil, .inl rfl, h⟩
    · rintro ⟨digits', hne, htext | htext, h⟩
      · rwa [htext]
      · obtain ⟨c, digits, rfl⟩ := List.exists_cons_of_ne_nil hne
        exact absurd htext (hsign c digits)

/-- **The brokers** are what the text lists. -/
theorem lists_brokers (text : String) : Kind.Lists text (brokers text) := by
  obtain ⟨hne, hmarks, htext⟩ := Text.splitOn_eq_iff.mp (rfl : Text.splitOn ',' text.toList = _)
  refine ⟨_, hne, hmarks, htext, ?_⟩
  have hblank : (fun s : String => decide (s ≠ "")) ∘ String.ofList
      = fun cs => decide (cs ≠ []) :=
    funext fun cs => decide_eq_decide.mpr (not_congr String.ofList_eq_empty_iff)
  rw [← hblank, ← List.filter_map, List.map_map]
  rfl

/-- **The backend** is the one that is called so in any case. -/
theorem lookup_lowered_iff {value : String} {b : Backend} :
    Backend.named.lookup (String.ofList ((Text.trimList value.toList).map Char.toLower)) = some b
      ↔ Kind.backend.Means value b := by
  have hname : b.name.toList.map Char.toLower = b.name.toList := by cases b <;> decide
  rw [Kind.lookup_named_iff, ← String.toList_inj, String.toList_ofList, ← hname]
  exact Text.equalUpToCase_iff.symm

/-! ## One variable -/

/-- Whether an override **does what its variable says**. Either no field of the variable has any use
for a value, and it is refused with the name of the variable, whatever the settings are; or the
fields of the variable become what the value means, and the others stay as they are. -/
structure Override.IsFaithful (o : Override) : Prop where
  /-- The variable has a field. -/
  owns : ∃ x : Field, x.override? = some o.name
  /-- The value is refused, or taken. -/
  decides : ∀ value,
    ((∃ rest, ∀ s, o.apply value s = .error (.settings (o.name ++ ": " ++ rest)))
      ∧ ∀ x : Field, x.override? = some o.name → ∀ c, ¬ x.kind.Means value c)
    ∨ ∀ s, ∃ s', o.apply value s = .ok s'
      ∧ ∀ x : Field, (x.override? = some o.name → x.kind.Means value (x.get s'))
        ∧ (x.override? ≠ some o.name → x.get s' = x.get s)

/-- Whether an override **reads values as things of a kind** and sets what it reads. -/
def Override.Reads (o : Override) (k : Kind) (set : k.Carrier → Settings → Settings) : Prop :=
  ∀ value,
    ((∃ rest, ∀ s, o.apply value s = .error (.settings (o.name ++ ": " ++ rest)))
      ∧ ∀ c, ¬ k.Means value c)
    ∨ ∃ c, k.Means value c ∧ ∀ s, o.apply value s = .ok (set c s)

/-- It is faithful if it sets the fields of its variable, which are of that kind, and no others. -/
theorem Override.Reads.isFaithful {o : Override} {k : Kind}
    {set : k.Carrier → Settings → Settings} (h : o.Reads k set)
    (howns : ∃ x : Field, x.override? = some o.name)
    (hsets : ∀ x : Field, x.override? = some o.name →
      ∃ hk : k = x.kind, ∀ c s, x.get (set c s) = hk ▸ c)
    (hspares : ∀ x : Field, x.override? ≠ some o.name → ∀ c s, x.get (set c s) = x.get s) :
    o.IsFaithful := by
  refine ⟨howns, fun value => ?_⟩
  obtain ⟨hrefused, hvoid⟩ | ⟨c, hc, hset⟩ := h value
  · refine .inl ⟨hrefused, fun x hx => ?_⟩
    obtain ⟨rfl, -⟩ := hsets x hx
    exact hvoid
  · refine .inr fun s => ⟨set c s, hset s, fun x => ⟨fun hx => ?_, fun hx => hspares x hx c s⟩⟩
    obtain ⟨rfl, hget⟩ := hsets x hx
    rwa [hget c s]

/-- A port is read. -/
theorem reads_port (name : String) (set : UInt16 → Settings → Settings) :
    (Override.port name set).Reads .port set := by
  intro value
  cases hp : Settings.port value with
  | ok p =>
    refine .inr ⟨p, port_eq_ok_iff.mp hp, fun s => ?_⟩
    simp only [Override.port, hp]
  | error fault =>
    refine .inl ⟨⟨"invalid port '" ++ value ++ "': " ++ fault.message, fun s => ?_⟩,
      fun p hq => nomatch hp.symm.trans (port_eq_ok_iff.mpr hq)⟩
    simp only [Override.port, hp, String.append_assoc]
    rfl

/-- A text is taken as it is. -/
theorem reads_text (name : String) (set : String → Settings → Settings) :
    (Override.text name set).Reads .text set := fun value => .inr ⟨value, rfl, fun _ => rfl⟩

/-- A list of brokers is read. -/
theorem reads_brokers (name : String) (set : List String → Settings → Settings) :
    (Override.text name fun v => set (brokers v)).Reads .texts set :=
  fun value => .inr ⟨brokers value, lists_brokers value, fun _ => rfl⟩

/-- A backend is read. -/
theorem reads_backend (name : String) :
    (Override.backend name).Reads .backend
      fun b s => { s with log := { s.log with backend := b } } := by
  intro value
  cases hb : Backend.named.lookup
      (String.ofList ((Text.trimList value.toList).map Char.toLower)) with
  | some b =>
    refine .inr ⟨b, lookup_lowered_iff.mp hb, fun s => ?_⟩
    simp only [Override.backend, hb]
  | none =>
    refine .inl ⟨⟨"unknown log backend '"
      ++ String.ofList ((Text.trimList value.toList).map Char.toLower) ++ "'", fun s => ?_⟩,
      fun b hb' => nomatch hb.symm.trans (lookup_lowered_iff.mpr hb')⟩
    simp only [Override.backend, hb, String.append_assoc]
    rfl

/-- **All overrides are faithful.** -/
theorem isFaithful_of_mem {o : Override} (h : o ∈ overrides) : o.IsFaithful := by
  revert o
  simp only [overrides, List.forall_mem_cons]
  refine ⟨(reads_port _ _).isFaithful ⟨.gatewayPort, rfl⟩ ?_ ?_,
    (reads_text _ _).isFaithful ⟨.cacheUri, rfl⟩ ?_ ?_,
    (reads_text _ _).isFaithful ⟨.publisherUri, rfl⟩ ?_ ?_,
    (reads_text _ _).isFaithful ⟨.gatewayKey, rfl⟩ ?_ ?_,
    (reads_port _ _).isFaithful ⟨.publisherPort, rfl⟩ ?_ ?_,
    (reads_text _ _).isFaithful ⟨.probeUri, rfl⟩ ?_ ?_,
    (reads_backend _).isFaithful ⟨.backend, rfl⟩ ?_ ?_,
    (reads_brokers _ fun bs s => { s with log := { s.log with brokers := bs } }).isFaithful
      ⟨.brokers, rfl⟩ ?_ ?_,
    (reads_text _ _).isFaithful ⟨.topic, rfl⟩ ?_ ?_,
    (reads_text _ _).isFaithful ⟨.logDir, rfl⟩ ?_ ?_,
    (reads_text _ _).isFaithful ⟨.logsDir, rfl⟩ ?_ ?_, fun o ho => absurd ho List.not_mem_nil⟩
  -- each of them sets the fields of its variable and spares the others, field by field
  all_goals
    intro x hx
    cases x <;>
      first
      | exact ⟨rfl, fun _ _ => rfl⟩
      | exact fun _ _ => rfl
      | exact absurd hx (by decide)

/-! ## All variables -/

/-- Whether a variable **fails**: it is set, and a field that it overrides has no use for its text. -/
def Fails (lookup : String → Option String) (name : String) : Prop :=
  ∃ value, lookup name = some value
    ∧ ∃ x : Field, x.override? = some name ∧ ∀ c, ¬ x.kind.Means value c

/-- Whether a field **is overlaid**: it has what its variable means where that was heard, and else
what it had before. -/
def Field.Overlaid (heard : String → Option String) (before after : Settings) (x : Field) : Prop :=
  match x.override?.bind heard with
  | some value => x.kind.Means value (x.get after)
  | none => x.get after = x.get before

namespace Override.IsFaithful

variable {lookup : String → Option String} {o : Override} {value : String}

/-- A value that fails is refused, with the name of its variable. -/
theorem apply_of_fails (h : o.IsFaithful) (hvalue : lookup o.name = some value)
    (hfails : Fails lookup o.name) :
    ∃ rest, ∀ s, o.apply value s = .error (.settings (o.name ++ ": " ++ rest)) := by
  obtain ⟨value', hvalue', x, hx, hvoid⟩ := hfails
  obtain rfl := Option.some.inj (hvalue.symm.trans hvalue')
  obtain ⟨hrefused, -⟩ | htaken := h.decides value
  · exact hrefused
  · obtain ⟨s', -, hfields⟩ := htaken {}
    exact absurd ((hfields x).1 hx) (hvoid _)

/-- A value that does not fail is taken. -/
theorem apply_of_not_fails (h : o.IsFaithful) (hvalue : lookup o.name = some value)
    (hfails : ¬ Fails lookup o.name) (s : Settings) : ∃ s', o.apply value s = .ok s' := by
  obtain ⟨-, hvoid⟩ | htaken := h.decides value
  · obtain ⟨x, hx⟩ := h.owns
    exact absurd ⟨value, hvalue, x, hx, hvoid x hx⟩ hfails
  · obtain ⟨s', hs', -⟩ := htaken s
    exact ⟨s', hs'⟩

end Override.IsFaithful

variable {lookup : String → Option String} {os : List Override}

/-- If no variable fails, **all are applied**. -/
theorem override_of_not_fails (hos : ∀ o ∈ os, o.IsFaithful)
    (hfails : ∀ o ∈ os, ¬ Fails lookup o.name) (s : Settings) :
    (override lookup os s).2 = .ok () := by
  induction os generalizing s with
  | nil => rfl
  | cons o os ih =>
    obtain ⟨ho, hos⟩ := List.forall_mem_cons.mp hos
    obtain ⟨hfail, hfails⟩ := List.forall_mem_cons.mp hfails
    unfold override
    split
    · exact ih hos hfails s
    · next value hvalue =>
      obtain ⟨s', hs'⟩ := ho.apply_of_not_fails hvalue hfail s
      rw [hs']
      exact ih hos hfails s'

/-- If one fails, **the first that does is named**. -/
theorem override_of_fails {before : List Override} {o : Override} (after : List Override)
    (hbefore : ∀ b ∈ before, b.IsFaithful ∧ ¬ Fails lookup b.name) (ho : o.IsFaithful)
    (hfails : Fails lookup o.name) :
    ∃ rest, ∀ s, (override lookup (before ++ o :: after) s).2
      = .error (.settings (o.name ++ ": " ++ rest)) := by
  obtain ⟨value, hvalue, -⟩ := id hfails
  obtain ⟨rest, hrest⟩ := ho.apply_of_fails hvalue hfails
  refine ⟨rest, fun s => ?_⟩
  induction before generalizing s with
  | nil =>
    rw [List.nil_append, override]
    simp only [hvalue, hrest]
  | cons b before ih =>
    obtain ⟨hb, hbefore⟩ := List.forall_mem_cons.mp hbefore
    rw [List.cons_append, override]
    split
    · exact ih hbefore s
    · next value hvalue =>
      obtain ⟨s', hs'⟩ := hb.1.apply_of_not_fails hvalue hb.2 s
      simp only [hs']
      exact ih hbefore s'

/-- What is **heard** of an environment, and how the work ends. -/
structure Hears (lookup : String → Option String) (os : List Override)
    (heard : String → Option String) (outcome : Except Failure Unit) : Prop where
  /-- Nothing is heard but what variables have. -/
  sound : ∀ name, heard name = none ∨ name ∈ os.map (·.name) ∧ heard name = lookup name
  /-- If the work ends well, all of them are heard. -/
  complete : outcome = .ok () → ∀ name ∈ os.map (·.name), heard name = lookup name
  /-- The work ends so whatever the settings are. -/
  ends : ∀ s, (override lookup os s).2 = outcome
  /-- The fields are overlaid with what was heard. -/
  overlaid : ∀ s (x : Field), x.Overlaid heard s (override lookup os s).1

/-- A variable that is not among those looked at is not heard. -/
theorem Hears.eq_none {heard : String → Option String} {outcome : Except Failure Unit}
    (h : Hears lookup os heard outcome) {name : String} (hname : name ∉ os.map (·.name)) :
    heard name = none := (h.sound name).resolve_right fun hmem => hname hmem.1

/-- Where nothing is heard, a field stays as it is. -/
theorem Field.overlaid_of_eq_none {heard : String → Option String} {before after : Settings}
    {x : Field} (hx : x.override?.bind heard = none) :
    x.Overlaid heard before after ↔ x.get after = x.get before := by
  unfold Overlaid
  rw [hx]

theorem Field.overlaid_of_eq_some {heard : String → Option String} {before after : Settings}
    {x : Field} {value : String} (hx : x.override?.bind heard = some value) :
    x.Overlaid heard before after ↔ x.kind.Means value (x.get after) := by
  unfold Overlaid
  rw [hx]

/-- **What is heard does not depend on the settings**: by induction on the variables, each of which
has its own fields. -/
theorem exists_hears (hos : ∀ o ∈ os, o.IsFaithful) (hdistinct : (os.map (·.name)).Nodup) :
    ∃ heard outcome, Hears lookup os heard outcome := by
  induction os with
  | nil =>
    refine ⟨fun _ => none, .ok (), fun _ => .inl rfl, fun _ _ h => absurd h List.not_mem_nil,
      fun _ => rfl, fun s x => ?_⟩
    exact (Field.overlaid_of_eq_none (Option.bind_fun_none _)).mpr rfl
  | cons o os ih =>
    obtain ⟨ho, hos⟩ := List.forall_mem_cons.mp hos
    obtain ⟨hnew, hdistinct⟩ := List.nodup_cons.mp hdistinct
    obtain ⟨heard, outcome, ih⟩ := ih hos hdistinct
    have hnone : heard o.name = none := ih.eq_none hnew
    cases hvalue : lookup o.name with
    | none =>
      have hskip : ∀ s, override lookup (o :: os) s = override lookup os s := fun s => by
        rw [override, hvalue]
      refine ⟨heard, outcome, fun name => ?_, fun hok => ?_, fun s => ?_, fun s x => ?_⟩
      · exact (ih.sound name).imp_right fun h => ⟨List.mem_cons_of_mem _ h.1, h.2⟩
      · exact List.forall_mem_cons.mpr ⟨hnone.trans hvalue.symm, ih.complete hok⟩
      · rw [hskip]
        exact ih.ends s
      · rw [hskip]
        exact ih.overlaid s x
    | some value =>
      obtain ⟨⟨rest, hrefused⟩, -⟩ | htaken := ho.decides value
      · have hend : ∀ s, override lookup (o :: os) s
            = (s, .error (.settings (o.name ++ ": " ++ rest))) := fun s => by
          simp only [override, hvalue, hrefused]
        refine ⟨fun _ => none, .error (.settings (o.name ++ ": " ++ rest)), fun _ => .inl rfl,
          (nomatch ·), fun s => by rw [hend], fun s x => ?_⟩
        rw [hend]
        exact (Field.overlaid_of_eq_none (Option.bind_fun_none _)).mpr rfl
      · have hnext : ∀ s, ∃ s', override lookup (o :: os) s = override lookup os s'
            ∧ ∀ x : Field, (x.override? = some o.name → x.kind.Means value (x.get s'))
              ∧ (x.override? ≠ some o.name → x.get s' = x.get s) := fun s => by
          obtain ⟨s', hs', hfields⟩ := htaken s
          exact ⟨s', by simp only [override, hvalue, hs'], hfields⟩
        refine ⟨fun name => if name = o.name then some value else heard name, outcome,
          fun name => ?_, fun hok => ?_, fun s => ?_, fun s x => ?_⟩
        · split
          · next hname => exact .inr ⟨hname ▸ List.mem_cons_self, hname ▸ hvalue.symm⟩
          · exact (ih.sound name).imp_right fun h => ⟨List.mem_cons_of_mem _ h.1, h.2⟩
        · refine List.forall_mem_cons.mpr ⟨(if_pos rfl).trans hvalue.symm, fun name hname => ?_⟩
          have hne : name ≠ o.name := by
            rintro rfl
            exact hnew hname
          exact (if_neg hne).trans (ih.complete hok name hname)
        · obtain ⟨s', hs', -⟩ := hnext s
          rw [hs']
          exact ih.ends s'
        · obtain ⟨s', hs', hfields⟩ := hnext s
          rw [hs']
          have hrest := ih.overlaid s' x
          by_cases hx : x.override? = some o.name
          · -- what this variable has set the others leave alone
            rw [Field.overlaid_of_eq_none (by rw [hx]; exact hnone)] at hrest
            rw [Field.overlaid_of_eq_some (by rw [hx]; exact if_pos rfl), hrest]
            exact (hfields x).1 hx
          · have hsame : x.override?.bind (fun name => if name = o.name then some value
                else heard name) = x.override?.bind heard := by
              cases hname : x.override? with
              | none => rfl
              | some name => exact if_neg fun he => hx (hname.trans (congrArg some he))
            rw [Field.Overlaid, (hfields x).2 hx, ← hsame] at hrest
            exact hrest

/-! ## The environment -/

/-- No two variables are called the same. -/
theorem distinct_overrides : (overrides.map (·.name)).Nodup := by decide

/-- The variable of a field is one of those looked at. -/
theorem mem_overrides {x : Field} {name : String} (h : x.override? = some name) :
    name ∈ overrides.map (·.name) := by
  cases x <;> cases h <;> decide

/-- What is heard of all variables. -/
theorem exists_hears_overrides (lookup : String → Option String) :
    ∃ heard outcome, Hears lookup overrides heard outcome :=
  exists_hears (fun _ => isFaithful_of_mem) distinct_overrides

/-- **Doing it again changes nothing**, whether the work ended well or not. -/
theorem withEnvironment_withEnvironment (lookup : String → Option String) (s : Settings) :
    (s.withEnvironment lookup).1.withEnvironment lookup = s.withEnvironment lookup := by
  obtain ⟨heard, outcome, h⟩ := exists_hears_overrides lookup
  have hfields : ∀ x : Field,
      x.get ((s.withEnvironment lookup).1.withEnvironment lookup).1
        = x.get (s.withEnvironment lookup).1 := by
    intro x
    have hfirst := h.overlaid s x
    have hsecond := h.overlaid (s.withEnvironment lookup).1 x
    cases hx : x.override?.bind heard with
    | none => exact (Field.overlaid_of_eq_none hx).mp hsecond
    | some value =>
      exact ((Field.overlaid_of_eq_some hx).mp hsecond).unique
        ((Field.overlaid_of_eq_some hx).mp hfirst)
  exact Prod.ext (ext_field hfields) ((h.ends _).trans (h.ends s).symm)

/-- **A field is touched by its own variable only.** -/
theorem get_withEnvironment {lookup : String → Option String} {x : Field}
    (hx : x.override?.bind lookup = none) (s : Settings) :
    x.get (s.withEnvironment lookup).1 = x.get s := by
  obtain ⟨heard, outcome, h⟩ := exists_hears_overrides lookup
  refine (Field.overlaid_of_eq_none ?_).mp (h.overlaid s x)
  cases hname : x.override? with
  | none => rfl
  | some name =>
    rw [hname] at hx
    obtain hheard | ⟨-, hheard⟩ := h.sound name
    · exact hheard
    · exact hheard.trans hx

/-- If no variable fails, every field has **what its variable means**, or what it had before. -/
theorem overlaid_withEnvironment {lookup : String → Option String} {s : Settings}
    (hok : (s.withEnvironment lookup).2 = .ok ()) (x : Field) :
    x.Overlaid lookup s (s.withEnvironment lookup).1 := by
  obtain ⟨heard, outcome, h⟩ := exists_hears_overrides lookup
  have hbind : x.override?.bind heard = x.override?.bind lookup := by
    cases hname : x.override? with
    | none => rfl
    | some name => exact h.complete ((h.ends s).symm.trans hok) name (mem_overrides hname)
  have hx := h.overlaid s x
  rw [Field.Overlaid, hbind] at hx
  exact hx

end RecordRelay.Settings
