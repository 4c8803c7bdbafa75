import RecordRelay.Toml.Document

/-!
# A key stands once

What a key has in a document can be asked only because a document says nothing twice: **in no table
that was read does a key stand twice** (`keyed_readDocument`), be it the document itself, a table
under a header, one between braces, or one inside an array.

Tables grow in several ways, but all of them change one table that a path leads to. So it is said
once that a change which keeps keys apart in that table keeps them apart everywhere
(`keyed_alter`), and each way to grow only has to look at the table that it changes.
-/

namespace RecordRelay.Toml

/-- Whether **each key stands once** in a value, in whichever of its tables. -/
inductive Value.Keyed : Value → Prop where
  | string (value : String) : Keyed (.string value)
  | integer (value : Int) : Keyed (.integer value)
  | floating (value : Float) : Keyed (.floating value)
  | boolean (value : Bool) : Keyed (.boolean value)
  | datetime : Keyed .datetime
  | array {elements : List Value} (each : ∀ v ∈ elements, Keyed v) : Keyed (.array elements)
  | table {origin : Origin} {entries : Entries} (once : (entries.map (·.1)).Nodup)
      (each : ∀ e ∈ entries, Keyed e.2) : Keyed (.table origin entries)
  | tables {elements : List Entries} (each : ∀ es ∈ elements, Keyed (.table .header es)) :
      Keyed (.tables elements)

/-- Whether each key stands once in entries and below them. -/
structure Entries.Keyed (entries : Entries) : Prop where
  /-- No two entries have the same key. -/
  once : (entries.map (·.1)).Nodup
  /-- Nor have two entries of a table below. -/
  each : ∀ e ∈ entries, e.2.Keyed

namespace Entries

/-- A table is its entries, however it came into being. -/
theorem keyed_table_iff {origin : Origin} {entries : Entries} :
    (Value.table origin entries).Keyed ↔ Keyed entries :=
  ⟨fun (.table once each) => ⟨once, each⟩, fun h => .table h.once h.each⟩

theorem keyed_nil : Keyed [] := ⟨List.nodup_nil, fun _ he => absurd he List.not_mem_nil⟩

/-! ## Changes of one table -/

/-- What a key has is one of the entries. -/
theorem mem_of_lookup {α : Type} {key : String} {a : α} {entries : List (String × α)}
    (h : entries.lookup key = some a) : (key, a) ∈ entries := by
  obtain ⟨before, after, rfl, -⟩ := List.lookup_eq_some_iff.mp h
  exact List.mem_append_right _ List.mem_cons_self

/-- A key that has nothing is no entry's key. -/
theorem not_mem_of_lookup {key : String} {entries : Entries} (h : entries.lookup key = none) :
    key ∉ entries.map (·.1) := by
  rw [List.lookup_eq_none_iff] at h
  rintro hmem
  obtain ⟨e, he, rfl⟩ := List.mem_map.mp hmem
  exact (bne_iff_ne.mp (h e he)) rfl

theorem Keyed.of_lookup {key : String} {v : Value} {entries : Entries} (h : Keyed entries)
    (hv : entries.lookup key = some v) : v.Keyed := h.each _ (mem_of_lookup hv)

/-- One more entry, under a **new key**. -/
theorem Keyed.concat {entries : Entries} {key : String} {v : Value} (h : Keyed entries)
    (hkey : key ∉ entries.map (·.1)) (hv : v.Keyed) : Keyed (entries ++ [(key, v)]) := by
  refine ⟨?_, fun e he => ?_⟩
  · rw [List.map_append, List.nodup_append]
    refine ⟨h.once, List.pairwise_singleton _ _, fun a ha b hb hab => ?_⟩
    obtain rfl : b = key := List.mem_singleton.mp hb
    exact hkey (hab ▸ ha)
  · obtain he | he := List.mem_append.mp he
    · exact h.each e he
    · rw [List.mem_singleton.mp he]
      exact hv

/-- Another value in the place of one keeps the keys. -/
theorem map_fst_replace (key : String) (v : Value) (entries : Entries) :
    (entries.replace key v).map (·.1) = entries.map (·.1) := by
  rw [replace, List.map_map]
  refine List.map_congr_left fun e _ => ?_
  dsimp only [Function.comp]
  split
  · next h => exact (beq_iff_eq.mp h).symm
  · rfl

theorem Keyed.replace {entries : Entries} {key : String} {v : Value} (h : Keyed entries)
    (hv : v.Keyed) : Keyed (entries.replace key v) := by
  refine ⟨map_fst_replace key v entries ▸ h.once, fun e he => ?_⟩
  obtain ⟨d, hd, rfl⟩ := List.mem_map.mp he
  split
  · exact hv
  · exact h.each d hd

theorem Keyed.remove {entries : Entries} (h : Keyed entries) (key : String) :
    Keyed (entries.remove key) :=
  ⟨h.once.sublist (List.filter_sublist.map _), fun e he => h.each e (List.mem_filter.mp he).1⟩

theorem not_mem_remove (key : String) (entries : Entries) :
    key ∉ (entries.remove key).map (·.1) := by
  rintro hmem
  obtain ⟨e, he, rfl⟩ := List.mem_map.mp hmem
  exact bne_iff_ne.mp (List.mem_filter.mp he).2 rfl

/-! ## Changes behind a path -/

/-- **A change that keeps keys apart where it is made keeps them apart everywhere.** -/
theorem keyed_alter {way : Origin} {change : Origin → Entries → Option Entries}
    (hchange : ∀ {origin entries changed}, Keyed entries → change origin entries = some changed →
      Keyed changed)
    {path : List String} {origin : Origin} {entries changed : Entries} (h : Keyed entries)
    (ha : alter way change origin path entries = some changed) : Keyed changed := by
  induction path generalizing origin entries changed with
  | nil => exact hchange h ha
  | cons key path ih =>
    unfold alter at ha
    split at ha
    · next hnone =>
      obtain ⟨new, hnew, ha⟩ := Option.bind_eq_some_iff.mp ha
      cases ha
      exact h.concat (not_mem_of_lookup hnone) (keyed_table_iff.mpr (ih keyed_nil hnew))
    · next elements hsome =>
      obtain ⟨last, hlast, ha⟩ := Option.bind_eq_some_iff.mp ha
      obtain ⟨new, hnew, ha⟩ := Option.bind_eq_some_iff.mp ha
      cases ha
      have heach : ∀ es ∈ elements, Keyed es := by
        cases h.of_lookup hsome with
        | tables each => exact fun es hes => keyed_table_iff.mp (each es hes)
      refine h.replace (.tables fun es hes => keyed_table_iff.mpr ?_)
      obtain hes | hes := List.mem_append.mp hes
      · exact heach es ((List.dropLast_sublist _).subset hes)
      · rw [List.mem_singleton.mp hes]
        exact ih (heach last (List.mem_of_getLast? hlast)) hnew
    · next hsome =>
      split at ha
      · cases ha
      · obtain ⟨new, hnew, ha⟩ := Option.bind_eq_some_iff.mp ha
        cases ha
        exact h.replace
          (keyed_table_iff.mpr (ih (keyed_table_iff.mp (h.of_lookup hsome)) hnew))
    · cases ha

/-- An entry under a dotted key. -/
theorem keyed_put? {path : List String} {key : String} {v : Value} {entries changed : Entries}
    (h : Keyed entries) (hv : v.Keyed) (hput : entries.put? path key v = some changed) :
    Keyed changed := by
  refine keyed_alter (fun {origin table new} htable hnew => ?_) h hput
  split at hnew
  · cases hnew
  · next hfree =>
    cases hnew
    refine htable.concat (fun hmem => hfree (.inr ?_)) hv
    obtain ⟨e, he, rfl⟩ := List.mem_map.mp hmem
    exact List.any_eq_true.mpr ⟨e, he, beq_self_eq_true _⟩

/-- An entry under the header of a section. -/
theorem keyed_putUnder? {section_ path : List String} {key : String} {v : Value}
    {entries changed : Entries} (h : Keyed entries) (hv : v.Keyed)
    (hput : entries.putUnder? section_ path key v = some changed) : Keyed changed :=
  keyed_alter (fun htable => keyed_put? htable hv) h hput

/-- A header. -/
theorem keyed_openTable? {path : List String} {key : String} {entries changed : Entries}
    (h : Keyed entries) (hopen : entries.openTable? path key = some changed) : Keyed changed := by
  refine keyed_alter (fun {origin table new} htable hnew => ?_) h hopen
  split at hnew
  · next hnone =>
    cases hnew
    exact htable.concat (not_mem_of_lookup hnone) (keyed_table_iff.mpr keyed_nil)
  · next hsome =>
    cases hnew
    exact (htable.remove key).concat (not_mem_remove key table)
      (keyed_table_iff.mpr (keyed_table_iff.mp (htable.of_lookup hsome)))
  · cases hnew

/-- A doubled header. -/
theorem keyed_openElement? {path : List String} {key : String} {entries changed : Entries}
    (h : Keyed entries) (hopen : entries.openElement? path key = some changed) : Keyed changed := by
  refine keyed_alter (fun {origin table new} htable hnew => ?_) h hopen
  split at hnew
  · next hnone =>
    cases hnew
    refine htable.concat (not_mem_of_lookup hnone) (.tables fun es hes => ?_)
    rw [List.mem_singleton.mp hes]
    exact keyed_table_iff.mpr keyed_nil
  · next elements hsome =>
    cases hnew
    cases htable.of_lookup hsome with
    | tables each =>
      refine htable.replace (.tables fun es hes => ?_)
      obtain hes | hes := List.mem_append.mp hes
      · exact each es hes
      · rw [List.mem_singleton.mp hes]
        exact keyed_table_iff.mpr keyed_nil
  · cases hnew

end Entries

/-! ## Readers -/

/-- Whether a reader gives only values in which each key stands once. -/
def Reader.IsKeyed (one : Reader) : Prop :=
  ∀ (text : List Char) (r : Read Value text), one text = some r → r.value.Keyed

/-- A number with a fraction has no tables. -/
theorem keyed_floating? {text : List Char} {v : Value} (h : floating? text = some v) :
    v.Keyed := by
  unfold floating? at h
  split at h
  next negative text _ =>
  -- whatever the digits are, the number is all that comes of them
  have hend : ∀ {x : Float}, (if x.isInf = true ∧ ¬ negative = true
      then none >>= fun magnitude => some (.floating (if negative then -magnitude else magnitude))
      else some x >>= fun magnitude =>
        some (.floating (if negative then -magnitude else magnitude))) = some v → v.Keyed := by
    intro x h
    split at h
    · cases h
    · cases h
      exact .floating _
  dsimp only at h
  split at h
  · cases h
    exact .floating _
  split at h
  · cases h
    exact .floating _
  obtain ⟨n, -, h⟩ := Option.bind_eq_some_iff.mp h
  split at h
  · obtain ⟨f, -, h⟩ := Option.bind_eq_some_iff.mp h
    obtain ⟨e, -, h⟩ := Option.bind_eq_some_iff.mp h
    exact hend h
  · cases h
  · obtain ⟨e, -, h⟩ := Option.bind_eq_some_iff.mp h
    exact hend h

/-- Nor has a whole number. -/
theorem keyed_bounded? {n : Int} {v : Value} (h : bounded? n = some v) : v.Keyed := by
  unfold bounded? at h
  split at h
  · cases h
    exact .integer n
  · cases h

theorem keyed_integer? {text : List Char} {v : Value} (h : integer? text = some v) :
    v.Keyed := by
  unfold integer? at h
  split at h <;>
  · obtain ⟨n, -, h⟩ := Option.bind_eq_some_iff.mp h
    exact keyed_bounded? h

/-- Nor has any other scalar. -/
theorem keyed_scalarOf? {text : List Char} {v : Value} (h : scalarOf? text = some v) :
    v.Keyed := by
  unfold scalarOf? at h
  split at h
  · cases h
    exact .boolean true
  split at h
  · cases h
    exact .boolean false
  split at h
  · cases h
    exact .datetime
  cases hfloating : floating? text with
  | some x => exact keyed_floating? (hfloating.trans (by rw [← h, hfloating]; rfl))
  | none =>
    rw [hfloating] at h
    exact keyed_integer? h

theorem keyed_readScalar? : Reader.IsKeyed readScalar? := by
  intro text r h
  obtain ⟨v, hv, h⟩ := Option.bind_eq_some_iff.mp h
  split at h
  · cases h
    exact keyed_scalarOf? hv
  · cases h

section

variable {one : Reader}

/-- The elements of an array. -/
theorem keyed_readElements? (hone : one.IsKeyed) {elements : List Value} {text : List Char}
    {r : Read (List Value) text} (helements : ∀ v ∈ elements, v.Keyed)
    (h : readElements? one elements text = some r) : ∀ v ∈ r.value, v.Keyed := by
  fun_induction readElements? one elements text with
  | case1 =>
    cases h
    exact fun v hv => helements v (List.mem_reverse.mp hv)
  | case2 => cases h
  | case3 elements text _ first hfirst rest _ _ ih =>
    obtain ⟨r, hr, rfl⟩ := Option.map_eq_some_iff.mp h
    exact ih (List.forall_mem_cons.mpr ⟨hone _ _ hfirst, helements⟩) hr
  | case4 elements text _ first hfirst =>
    cases h
    intro v hv
    exact List.forall_mem_cons.mpr ⟨hone _ _ hfirst, helements⟩ v (List.mem_reverse.mp hv)
  | case5 => cases h

/-- An entry. -/
theorem keyed_entry (hone : one.IsKeyed) {text : List Char}
    {r : Read ((List String × String) × Value) text} (h : readEntry? one text = some r) :
    r.value.2.Keyed := by
  unfold readEntry? at h
  split at h
  · cases h
  · split at h
    · cases h
    · obtain ⟨v, hv, rfl⟩ := Option.map_eq_some_iff.mp h
      exact hone _ _ hv

/-- The entries between braces. -/
theorem keyed_readEntries? (hone : one.IsKeyed) {entries : Entries} {text : List Char}
    {r : Read Entries text} (hentries : entries.Keyed)
    (h : readEntries? one entries text = some r) : Entries.Keyed r.value := by
  fun_induction readEntries? one entries text with
  | case1 => cases h
  | case2 => cases h
  | case3 entries text entry hentry grown hgrown rest _ _ ih =>
    obtain ⟨r, hr, rfl⟩ := Option.map_eq_some_iff.mp h
    exact ih (Entries.keyed_put? hentries (keyed_entry hone hentry) hgrown) hr
  | case4 entries text entry hentry grown hgrown =>
    cases h
    exact Entries.keyed_put? hentries (keyed_entry hone hentry) hgrown
  | case5 => cases h

/-- A table between braces. -/
theorem keyed_readInline? (hone : one.IsKeyed) {text : List Char} {r : Read Entries text}
    (h : readInline? one text = some r) : Entries.Keyed r.value := by
  unfold readInline? at h
  split at h
  · cases h
    exact Entries.keyed_nil
  · obtain ⟨r, hr, rfl⟩ := Option.map_eq_some_iff.mp h
    show Entries.Keyed r.value
    exact keyed_readEntries? hone Entries.keyed_nil hr

end

/-- **A value**: by induction on how deep its tables and arrays may be nested. -/
theorem keyed_readValue? (depth : Nat) : (readValue? depth).IsKeyed := by
  induction depth with
  | zero =>
    intro text r h
    cases text with
    | nil => cases h
    | cons c rest =>
      change (if c = '"' ∨ c = '\'' then _ else if c = '[' then none
        else if c = '\x7b' then none else readScalar? (c :: rest)) = some r at h
      split at h
      · obtain ⟨s, -, rfl⟩ := Option.map_eq_some_iff.mp h
        exact .string _
      split at h
      · cases h
      split at h
      · cases h
      · exact keyed_readScalar? _ _ h
  | succ depth ih =>
    intro text r h
    cases text with
    | nil => cases h
    | cons c rest =>
      change (if c = '"' ∨ c = '\'' then _ else if c = '[' then Option.map _ _
        else if c = '\x7b' then Option.map _ _ else readScalar? (c :: rest)) = some r at h
      split at h
      · obtain ⟨s, -, rfl⟩ := Option.map_eq_some_iff.mp h
        exact .string _
      split at h
      · obtain ⟨elements, helements, rfl⟩ := Option.map_eq_some_iff.mp h
        exact .array (keyed_readElements? ih (fun _ hv => absurd hv List.not_mem_nil) helements)
      split at h
      · obtain ⟨entries, hentries, rfl⟩ := Option.map_eq_some_iff.mp h
        exact Entries.keyed_table_iff.mpr (keyed_readInline? ih hentries)
      · exact keyed_readScalar? _ _ h

/-! ## Documents -/

/-- An item keeps keys apart. -/
theorem keyed_add? {item : Item} {section_ : List String} {root : Entries}
    {grown : Entries × List String} (h : root.Keyed)
    (hitem : ∀ path key v, item = .entry path key v → v.Keyed)
    (hadd : root.add? item section_ = some grown) : grown.1.Keyed := by
  cases item with
  | entry path key v =>
    obtain ⟨root, hroot, rfl⟩ := Option.map_eq_some_iff.mp hadd
    exact Entries.keyed_putUnder? h (hitem path key v rfl) hroot
  | table path key =>
    obtain ⟨root, hroot, rfl⟩ := Option.map_eq_some_iff.mp hadd
    exact Entries.keyed_openTable? h hroot
  | element path key =>
    obtain ⟨root, hroot, rfl⟩ := Option.map_eq_some_iff.mp hadd
    exact Entries.keyed_openElement? h hroot

/-- An entry that was read as an item has a value that was read. -/
theorem keyed_readItem? {text : List Char} {r : Read Item text} (h : readItem? text = some r)
    (path : List String) (key : String) (v : Value) (hr : r.value = .entry path key v) :
    v.Keyed := by
  unfold readItem? at h
  split at h
  · obtain ⟨key, -, h⟩ := Option.bind_eq_some_iff.mp h
    split at h <;> cases h
    cases hr
  · obtain ⟨key, -, h⟩ := Option.bind_eq_some_iff.mp h
    split at h <;> cases h
    cases hr
  · obtain ⟨entry, hentry, h⟩ := Option.bind_eq_some_iff.mp h
    split at h <;> cases h
    cases hr
    exact keyed_entry (keyed_readValue? maxNesting) hentry

/-- The items of a document. -/
theorem keyed_readItems? {root grown : Entries} {section_ : List String} {text : List Char}
    (h : root.Keyed) (hread : readItems? root section_ text = some grown) : grown.Keyed := by
  fun_induction readItems? root section_ text with
  | case1 =>
    cases hread
    exact h
  | case2 => cases hread
  | case3 => cases hread
  | case4 root section_ text _ _ _ item hitem _ grown section' hgrown ih =>
    exact ih (keyed_add? h (keyed_readItem? hitem) hgrown) hread

/-- **In a document each key stands once.** -/
theorem keyed_readDocument {text : String} {document : Value}
    (h : readDocument text = .ok document) : document.Keyed := by
  unfold readDocument at h
  dsimp only at h
  split at h
  · next root hroot =>
    cases h
    exact Entries.keyed_table_iff.mpr (keyed_readItems? Entries.keyed_nil hroot)
  · cases h

end RecordRelay.Toml
