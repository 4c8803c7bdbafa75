import RecordRelay.Proofs.Settings.File
import RecordRelay.Proofs.Settings.Override
import RecordRelay.Settings.Load

/-!
# Layers of settings

The settings that are loaded are described field by field and without any order: a field has what
its variable means, else what the file tells it, else its default. This is all there is to say, since
**there is exactly one way to have the layers** if no variable fails, and none if one does
(`existsUnique_layered_iff`). So loading succeeds exactly if the text deserializes, no variable fails
and the check accepts the layers (`load_eq_ok_iff`).
-/

namespace RecordRelay.Settings

open Toml (Value Shows readRecord)

/-! ## The layers -/

/-- What opening a file with this text gives; there may be no file. -/
def opened (path : String) (text : Option String) : Option (String × Except IoFault Bytes) :=
  text.map fun text => (path, .ok (Bytes.ofString text))

/-- Whether a text **deserializes**, with the document that it is. Without a file the document has
nothing in it. -/
structure Deserializes (text : Option String) (document : Value) : Prop where
  /-- The text is the document. -/
  isRead : text.elim (.ok (.table .header [])) Toml.readDocument = .ok document
  /-- What the document has under the keys of the settings can be read. -/
  fits : ∃ file, readRecord "struct Config" fields {} document = .ok file

/-- Whether a field is **layered**: it has what its variable means where that is set, else what the
document tells it, and else its default. -/
def Field.Layered (document : Value) (lookup : String → Option String) (s : Settings)
    (x : Field) : Prop :=
  match x.override?.bind lookup with
  | some value => x.kind.Means value (x.get s)
  | none => Shows x.kind.Told (document.at? x.way) (x.get {}) (x.get s)

variable {document : Value} {lookup : String → Option String} {text : Option String}

/-- In what deserializes each key stands once. -/
theorem Deserializes.keyed (h : Deserializes text document) : document.Keyed := by
  cases text with
  | none =>
    cases h.isRead
    exact Toml.Entries.keyed_table_iff.mpr Toml.Entries.keyed_nil
  | some text => exact Toml.keyed_readDocument h.isRead

/-- There is **one** way to layer a field. -/
theorem Field.Layered.unique {s t : Settings} {x : Field} (hs : x.Layered document lookup s)
    (ht : x.Layered document lookup t) : x.get s = x.get t := by
  unfold Field.Layered at hs ht
  split at hs
  · next value hvalue =>
    rw [hvalue] at ht
    exact hs.unique ht
  · next hnone =>
    rw [hnone] at ht
    unfold Shows at hs ht
    split at hs
    · next v hv =>
      rw [hv] at ht
      exact hs.unique ht
    · next hv =>
      rw [hv] at ht
      exact hs.trans ht.symm

/-- A field that is layered fails no variable. -/
theorem not_fails_of_layered {s : Settings} (hs : ∀ x : Field, x.Layered document lookup s)
    (name : String) : ¬ Fails lookup name := by
  rintro ⟨value, hvalue, x, hx, hvoid⟩
  have hlayered := hs x
  unfold Field.Layered at hlayered
  rw [hx, Option.bind_some, hvalue] at hlayered
  exact hvoid _ hlayered

/-- **Overlaying what a file tells gives the layers.** -/
theorem layered_withEnvironment {file : Settings} (hkeyed : document.Keyed)
    (hfile : readRecord "struct Config" fields {} document = .ok file)
    (hok : (file.withEnvironment lookup).2 = .ok ()) (x : Field) :
    x.Layered document lookup (file.withEnvironment lookup).1 := by
  have hx := overlaid_withEnvironment hok x
  unfold Field.Layered
  cases hbind : x.override?.bind lookup with
  | some value => exact (Field.overlaid_of_eq_some hbind).mp hx
  | none =>
    dsimp only
    rw [(Field.overlaid_of_eq_none hbind).mp hx]
    exact tells_field x document file hkeyed hfile

/-- If no variable fails, all are heard. -/
theorem withEnvironment_of_not_fails (hfails : ∀ name, ¬ Fails lookup name) (s : Settings) :
    (s.withEnvironment lookup).2 = .ok () :=
  override_of_not_fails (fun _ => isFaithful_of_mem) (fun o _ => hfails o.name) s

/-! ## Loading -/

/-- What is loaded when the file was read. -/
theorem load_of_file {path : String} {file : Settings} (h : Deserializes text document)
    (hfile : readRecord "struct Config" fields {} document = .ok file) :
    load (opened path text) lookup = (do
      (file.withEnvironment lookup).2
      (file.withEnvironment lookup).1.check
      .ok (file.withEnvironment lookup).1) := by
  cases text with
  | none =>
    cases h.isRead
    cases hfile
    rfl
  | some text =>
    have hdocument : ofDocument text = .ok file := by
      rw [ofDocument, show Toml.readDocument text = .ok document from h.isRead]
      exact hfile
    simp only [load, opened, Option.map_some, ofFile, Bytes.text?_ofString, hdocument]
    rfl

/-- What is loaded was read from a text that deserializes. -/
theorem deserializes_of_load {path : String} {s : Settings}
    (h : load (opened path text) lookup = .ok s) : ∃ document, Deserializes text document := by
  cases text with
  | none => exact ⟨_, rfl, {}, rfl⟩
  | some text =>
    obtain ⟨file, hfile, -⟩ := exists_of_bind_eq_ok h
    simp only [ofFile, Bytes.text?_ofString] at hfile
    cases hdocument : ofDocument text with
    | error fault =>
      rw [hdocument] at hfile
      cases hfile
    | ok file =>
      obtain ⟨document, hread, hfits⟩ := exists_of_bind_eq_ok hdocument
      exact ⟨document, hread, file, hfits⟩

/-- **Settings are loaded if they are the layers of a text that deserializes, and pass the check.** -/
theorem load_eq_ok_iff {path : String} {s : Settings} :
    load (opened path text) lookup = .ok s
      ↔ ∃ document, Deserializes text document ∧ (∀ x : Field, x.Layered document lookup s)
        ∧ s.check = .ok () := by
  constructor
  · intro h
    obtain ⟨document, hdocument⟩ := deserializes_of_load h
    obtain ⟨file, hfile⟩ := hdocument.fits
    rw [load_of_file hdocument hfile] at h
    obtain ⟨⟨⟩, hok, h⟩ := exists_of_bind_eq_ok h
    obtain ⟨⟨⟩, hcheck, h⟩ := exists_of_bind_eq_ok h
    cases h
    exact ⟨document, hdocument, layered_withEnvironment hdocument.keyed hfile hok, hcheck⟩
  · rintro ⟨document, hdocument, hlayered, hcheck⟩
    obtain ⟨file, hfile⟩ := hdocument.fits
    have hok := withEnvironment_of_not_fails (not_fails_of_layered hlayered) file
    have hlayers := layered_withEnvironment hdocument.keyed hfile hok
    obtain rfl : (file.withEnvironment lookup).1 = s :=
      ext_field fun x => (hlayers x).unique (hlayered x)
    rw [load_of_file hdocument hfile, hok, hcheck]
    rfl

/-- There are layers **if no variable fails**, and then one way to have them. -/
theorem existsUnique_layered_iff (h : Deserializes text document) :
    (∃! s : Settings, ∀ x : Field, x.Layered document lookup s)
      ↔ ∀ name, ¬ Fails lookup name := by
  constructor
  · rintro ⟨s, hs, -⟩
    exact not_fails_of_layered hs
  · intro hfails
    obtain ⟨file, hfile⟩ := h.fits
    have hlayers := layered_withEnvironment h.keyed hfile (withEnvironment_of_not_fails hfails file)
    exact ⟨_, hlayers, fun t ht => ext_field fun x => (ht x).unique (hlayers x)⟩

/-- **The first variable that fails** is named, and nothing is loaded. -/
theorem load_of_fails {path : String} (h : Deserializes text document) {before after : List String}
    {name : String} (hnames : overrides.map (·.name) = before ++ name :: after)
    (hbefore : ∀ b ∈ before, ¬ Fails lookup b) (hfails : Fails lookup name) :
    ∃ rest, load (opened path text) lookup = .error (.settings (name ++ ": " ++ rest)) := by
  obtain ⟨os, tail, hos, rfl, htail⟩ := List.map_eq_append_iff.mp hnames
  obtain ⟨o, os', rfl, rfl, -⟩ := List.map_eq_cons_iff.mp htail
  have hmem : ∀ {b}, b ∈ os ++ o :: os' → b.IsFaithful := fun hb => isFaithful_of_mem (hos ▸ hb)
  obtain ⟨rest, hrest⟩ := override_of_fails os'
    (fun b hb => ⟨hmem (List.mem_append_left _ hb), hbefore _ (List.mem_map_of_mem hb)⟩)
    (hmem (List.mem_append_right _ List.mem_cons_self)) hfails
  obtain ⟨file, hfile⟩ := h.fits
  refine ⟨rest, ?_⟩
  rw [load_of_file h hfile, withEnvironment, hos, hrest]
  rfl

/-- **Settings come in three layers.** They are loaded exactly if the text deserializes, every
variable that is set makes sense, and the check accepts what comes of it; and what comes of it is, in
each field by itself, what its variable means, else what the file tells it, else its default. If a
variable makes no sense, nothing is loaded and the first such variable is named. Variables touch
their own fields only, and looking at them again changes nothing.

What the file tells a field stands under its keys, unless a part of the settings is written as an
array: then it stands at the field's place there. -/
theorem loaded_in_layers (path : String) (text : Option String)
    (lookup : String → Option String) :
    (∀ s, load (opened path text) lookup = .ok s
      ↔ ∃ document, Deserializes text document ∧ (∀ x : Field, x.Layered document lookup s)
        ∧ s.check = .ok ())
    ∧ (∀ document, Deserializes text document →
      ((∃! s : Settings, ∀ x : Field, x.Layered document lookup s)
        ↔ ∀ name, ¬ Fails lookup name)
      ∧ (∀ before name after, overrides.map (·.name) = before ++ name :: after →
        (∀ b ∈ before, ¬ Fails lookup b) → Fails lookup name →
        ∃ rest, load (opened path text) lookup = .error (.settings (name ++ ": " ++ rest)))
      ∧ ∀ x : Field, document.Tabular x.way →
        document.at? x.way = document.under? (x.way.map (·.key)))
    ∧ ∀ s : Settings,
      (∀ x : Field, x.override?.bind lookup = none → x.get (s.withEnvironment lookup).1 = x.get s)
      ∧ (s.withEnvironment lookup).1.withEnvironment lookup = s.withEnvironment lookup :=
  ⟨fun _ => load_eq_ok_iff,
    fun _ h => ⟨existsUnique_layered_iff h, fun _ _ _ => load_of_fails h,
      fun _ htabular => htabular.at?_eq⟩,
    fun s => ⟨fun _ hx => get_withEnvironment hx s, withEnvironment_withEnvironment lookup s⟩⟩

/-- A file says where to listen, the environment which key is asked for. -/
theorem loaded_in_layers_mixed :
    ∃ s document, load (opened "relay.toml" (some "[gateway]\nport = 8080\n"))
        (fun name => if name = "RELAY_API_KEY" then some "secret" else none) = .ok s
      ∧ Deserializes (some "[gateway]\nport = 8080\n") document
      ∧ (∀ x : Field, x.Layered document
        (fun name => if name = "RELAY_API_KEY" then some "secret" else none) s)
      ∧ s.gateway.port = 8080 ∧ s.gateway.apiKey = "secret" ∧ s.publisher.apiKey = "secret" := by
  have hload : load (opened "relay.toml" (some "[gateway]\nport = 8080\n"))
      (fun name => if name = "RELAY_API_KEY" then some "secret" else none)
        = .ok { gateway := { port := 8080, apiKey := "secret" }
                publisher := { apiKey := "secret" } } := eq_ok_of_toOption (by decide +kernel)
  obtain ⟨document, hdocument, hlayered, -⟩ := ((loaded_in_layers _ _ _).1 _).mp hload
  exact ⟨_, document, hload, hdocument, hlayered, rfl, rfl, rfl⟩

/-- **An array tells a field without a key for it**: here no key `port` is in the file. -/
theorem told_without_key :
    ∃ s document, load (opened "relay.toml" (some "gateway = [8080]")) (fun _ => none) = .ok s
      ∧ Deserializes (some "gateway = [8080]") document
      ∧ document.under? ["gateway", "port"] = none
      ∧ s.gateway.port ≠ ({} : Settings).gateway.port := by
  have hload : load (opened "relay.toml" (some "gateway = [8080]")) (fun _ => none)
      = .ok { gateway := { port := 8080 } } := eq_ok_of_toOption (by decide +kernel)
  have hkey : ((Toml.readDocument "gateway = [8080]").toOption.bind
      (Value.under? ["gateway", "port"])).isNone = true := by decide +kernel
  obtain ⟨document, hdocument⟩ := deserializes_of_load hload
  have hread : Toml.readDocument "gateway = [8080]" = .ok document := hdocument.isRead
  rw [hread] at hkey
  exact ⟨_, document, hload, hdocument, Option.isNone_iff_eq_none.mp hkey, by decide⟩

end RecordRelay.Settings
