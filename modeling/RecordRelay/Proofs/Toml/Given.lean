import RecordRelay.Proofs.Fallible
import RecordRelay.Proofs.Toml.Keys
import RecordRelay.Toml.Typed

/-!
# What a file gives to a field

A record is read entry by entry, and every entry that means something changes the record. What one
field is in the end can nevertheless be told from one value alone: **what stands at its key, and if
nothing does, what the record was before** (`Tells`). This takes three things, of the record that
its members have different names, of its members that each changes only its own field, and of the
file that no key stands twice.

An array gives the fields in their order, so a field has a key and a place, and the way to a field
of a record in a record has one such step for each of them (`Tells.under`).
-/

namespace RecordRelay.Toml

variable {ρ σ β : Type}

/-! ## Ways -/

/-- One **step** on the way to a field. -/
structure Step where
  /-- The key of the field, where the record is written as a table. -/
  key : String
  /-- Its place, where the record is written as an array. -/
  place : Nat
  deriving DecidableEq, Repr

/-- What a value **gives to a field**. -/
def Value.given? (step : Step) : Value → Option Value
  | .table _ entries => entries.lookup step.key
  | .array elements => elements[step.place]?
  | .tables elements => (elements.map (.table .header))[step.place]?
  | _ => none

/-- What stands at the **end of a way**. -/
def Value.at? : List Step → Value → Option Value
  | [], v => some v
  | step :: way, v => (v.given? step).bind (at? way)

theorem Value.at?_append (way further : List Step) (v : Value) :
    v.at? (way ++ further) = (v.at? way).bind (Value.at? further) := by
  induction way generalizing v with
  | nil => rfl
  | cons step way ih =>
    simp only [List.cons_append, at?, Option.bind_assoc]
    exact congrArg _ (funext ih)

/-- What stands **under keys**, one below the other. -/
def Value.under? : List String → Value → Option Value
  | [], v => some v
  | key :: keys, .table _ entries => (entries.lookup key).bind (under? keys)
  | _ :: _, _ => none

/-- Whether **no array is on a way**: where it goes on, it goes on from something else. -/
def Value.Tabular : List Step → Value → Prop
  | [], _ => True
  | step :: way, v => v.elements? = none ∧ ∀ w, v.given? step = some w → w.Tabular way

/-- Where no array is on the way, what stands at its end **stands under its keys**. -/
theorem Value.Tabular.at?_eq {way : List Step} {v : Value} (h : v.Tabular way) :
    v.at? way = v.under? (way.map (·.key)) := by
  induction way generalizing v with
  | nil => rfl
  | cons step way ih =>
    obtain ⟨hv, hway⟩ := h
    cases v with
    | table origin entries =>
      show (entries.lookup step.key).bind _ = (entries.lookup step.key).bind _
      cases hw : entries.lookup step.key with
      | none => rfl
      | some w => exact ih (hway w hw)
    | array => cases hv
    | tables => cases hv
    | _ => rfl

/-- Where each key stands once, it does so in what is given. -/
theorem Value.Keyed.given? {v w : Value} {step : Step} (h : v.Keyed)
    (hw : v.given? step = some w) : w.Keyed := by
  cases h with
  | table once each => exact each _ (Entries.mem_of_lookup hw)
  | array each => exact each w (List.mem_of_getElem? hw)
  | tables each =>
    obtain ⟨es, hes, rfl⟩ := List.mem_map.mp (List.mem_of_getElem? hw)
    exact each es hes
  | _ => cases hw

theorem Value.Keyed.at? {v w : Value} {way : List Step} (h : v.Keyed)
    (hw : v.at? way = some w) : w.Keyed := by
  induction way generalizing v with
  | nil =>
    cases hw
    exact h
  | cons step way ih =>
    obtain ⟨u, hu, hw⟩ := Option.bind_eq_some_iff.mp hw
    exact ih (h.given? hu) hw

/-! ## Members -/

/-- Whether a member **sets** what a view shows: after it has put a value, that is what the value
stands for, whatever was there before. -/
def Member.Sets (m : Member ρ) (get : ρ → β) (Told : Value → β → Prop) : Prop :=
  ∀ (v : Value) (r r' : ρ), m.put v r = .ok r' → Told v (get r')

/-- Whether a member **spares** what a view shows. -/
def Member.Spares (m : Member ρ) (get : ρ → β) : Prop :=
  ∀ (v : Value) (r r' : ρ), m.put v r = .ok r' → get r' = get r

/-- What a view shows of a record that was read: what is given for it, and if nothing is, what it
was before. -/
def Shows (Told : Value → β → Prop) (given? : Option Value) (before after : β) : Prop :=
  match given? with
  | some v => Told v after
  | none => after = before

/-- Members that spare a view leave it as it is. -/
theorem get_eq_of_spares {pairs : List (Member ρ × Value)} {get : ρ → β} {start s : ρ}
    (h : ∀ p ∈ pairs, p.1.Spares get)
    (hs : pairs.foldlM (fun r e => e.1.put e.2 r) start = .ok s) : get s = get start := by
  induction pairs generalizing start with
  | nil =>
    cases hs
    rfl
  | cons p pairs ih =>
    obtain ⟨r, hr, hs⟩ := exists_of_bind_eq_ok hs
    obtain ⟨hp, h⟩ := List.forall_mem_cons.mp h
    exact (ih h hs).trans (hp _ _ _ hr)

/-- A member that puts what it reads sets what shows it. -/
theorem Member.sets_mk {α : Type} {name : String} {read : Value → Except Fault α}
    {set : α → ρ → ρ} {get : ρ → β} {Told : Value → β → Prop}
    (h : ∀ v a, read v = .ok a → ∀ r, Told v (get (set a r))) :
    Member.Sets ⟨name, fun v r => do return set (← read v) r⟩ get Told := by
  intro v r r' hput
  obtain ⟨a, ha, hput⟩ := exists_of_bind_eq_ok hput
  cases hput
  exact h v a ha r

/-- It spares what does not show it. -/
@[simp]
theorem Member.spares_mk {α : Type} {name : String} {read : Value → Except Fault α}
    {set : α → ρ → ρ} {get : ρ → β} (h : ∀ a r, get (set a r) = get r) :
    Member.Spares ⟨name, fun v r => do return set (← read v) r⟩ get := by
  intro v r r' hput
  obtain ⟨a, -, hput⟩ := exists_of_bind_eq_ok hput
  cases hput
  exact h a r

/-- Whether **one member answers** for what a view shows. -/
structure Governs (fields : List (Member ρ)) (step : Step) (get : ρ → β)
    (Told : Value → β → Prop) : Prop where
  /-- No two members have the same name. -/
  distinct : (fields.map (·.name)).Nodup
  /-- The member of the step sets the view. -/
  sets : ∃ m, fields[step.place]? = some m ∧ m.name = step.key ∧ m.Sets get Told
  /-- The others spare it. -/
  spares : ∀ m ∈ fields, m.name ≠ step.key → m.Spares get

namespace Governs

variable {fields : List (Member ρ)} {step : Step} {get : ρ → β} {Told : Value → β → Prop}

/-- The members before and behind the one that answers have other names and **spare the view**. -/
theorem exists_split (h : Governs fields step get Told) :
    ∃ before m after, fields = before ++ m :: after ∧ before.length = step.place
      ∧ m.name = step.key ∧ m.Sets get Told
      ∧ ∀ o ∈ before ++ after, o.name ≠ step.key ∧ o.Spares get := by
  obtain ⟨m, hm, hname, hsets⟩ := h.sets
  obtain ⟨hlt, rfl⟩ := List.getElem?_eq_some_iff.mp hm
  have hsplit : fields
      = fields.take step.place ++ fields[step.place] :: fields.drop (step.place + 1) := by
    rw [List.getElem_cons_drop, List.take_append_drop]
  refine ⟨_, _, _, hsplit, List.length_take_of_le (Nat.le_of_lt hlt), hname, hsets,
    fun o ho => ?_⟩
  have hmem : o ∈ fields := by
    rw [hsplit]
    obtain ho | ho := List.mem_append.mp ho
    · exact List.mem_append_left _ ho
    · exact List.mem_append_right _ (List.mem_cons_of_mem _ ho)
  have hother : o.name ≠ step.key := by
    have hdistinct := h.distinct
    rw [hsplit, List.map_append, List.map_cons, List.perm_middle.nodup_iff, ← List.map_append,
      List.nodup_cons, hname] at hdistinct
    exact fun he => hdistinct.1 (he ▸ List.mem_map_of_mem ho)
  exact ⟨hother, h.spares o hmem hother⟩

/-- The member that a key finds is the one of the step. -/
theorem find?_key (h : Governs fields step get Told) :
    ∃ m, fields.find? (·.name == step.key) = some m ∧ m.Sets get Told := by
  obtain ⟨before, m, after, rfl, -, hname, hsets, hothers⟩ := h.exists_split
  refine ⟨m, ?_, hsets⟩
  have hbefore : before.find? (·.name == step.key) = none :=
    List.find?_eq_none.mpr fun o ho he =>
      (hothers o (List.mem_append_left _ ho)).1 (beq_iff_eq.mp he)
  rw [List.find?_append, hbefore, Option.none_or, List.find?_cons, hname, beq_self_eq_true]

/-- A member that another key finds spares the view. -/
theorem spares_of_find? (h : Governs fields step get Told) {key : String} {m : Member ρ}
    (hkey : key ≠ step.key) (hm : fields.find? (·.name == key) = some m) : m.Spares get :=
  have hname : m.name = key := by simpa using List.find?_some hm
  h.spares m (List.mem_of_find?_eq_some hm) fun he => hkey (hname.symm.trans he)

/-- **From a table**: by induction on its entries. The one under the key of the view comes once, and
the others spare it. -/
theorem readTable (h : Governs fields step get Told) {entries : Entries} {start s : ρ}
    (once : (entries.map (·.1)).Nodup) (hs : readTable fields entries start = .ok s) :
    Shows Told (entries.lookup step.key) (get start) (get s) := by
  induction entries generalizing start with
  | nil =>
    cases hs
    rfl
  | cons e entries ih =>
    obtain ⟨key, v⟩ := e
    obtain ⟨r, hr, hs⟩ := exists_of_bind_eq_ok hs
    obtain ⟨hnew, once⟩ := List.nodup_cons.mp once
    have hrest := ih once hs
    by_cases hkey : key = step.key
    · subst hkey
      obtain ⟨m, hm, hsets⟩ := h.find?_key
      dsimp only at hr
      rw [hm] at hr
      rw [List.lookup_cons_self]
      rw [List.lookup_eq_none_iff.mpr fun e he => bne_iff_ne.mpr fun hk => hnew ?_] at hrest
      · exact (show get s = get r from hrest) ▸ hsets _ _ _ hr
      · exact List.mem_map.mpr ⟨e, he, hk.symm⟩
    · have hr' : get r = get start := by
        dsimp only at hr
        split at hr
        · next m hm => exact h.spares_of_find? hkey hm _ _ _ hr
        · cases hr
          rfl
      rw [List.lookup_cons, beq_eq_false_iff_ne.mpr (Ne.symm hkey), ← hr']
      exact hrest

/-- **From an array**: by induction on the members before the one of the view. They spare it, and so
do those behind it. -/
theorem readArray (h : Governs fields step get Told) {elements : List Value} {start s : ρ}
    (hs : readArray fields elements start = .ok s) :
    Shows Told elements[step.place]? (get start) (get s) := by
  obtain ⟨before, m, after, rfl, hlength, -, hsets, hothers⟩ := h.exists_split
  have hspares : ∀ o ∈ before ++ after, o.Spares get := fun o ho => (hothers o ho).2
  clear h hothers
  rw [← hlength]
  clear hlength
  unfold Toml.readArray at hs
  induction before generalizing elements start with
  | nil =>
    cases elements with
    | nil =>
      cases hs
      rfl
    | cons v elements =>
      obtain ⟨r, hr, hs⟩ := exists_of_bind_eq_ok hs
      have hrest : get s = get r := get_eq_of_spares (fun p hp =>
        hspares p.1 (List.of_mem_zip hp).1) hs
      exact (hrest ▸ hsets _ _ _ hr : Told v (get s))
  | cons o before ih =>
    cases elements with
    | nil =>
      cases hs
      rfl
    | cons v elements =>
      obtain ⟨r, hr, hs⟩ := exists_of_bind_eq_ok hs
      obtain ⟨ho, hspares⟩ := List.forall_mem_cons.mp hspares
      have hrest := ih hs hspares
      rw [ho _ _ _ hr] at hrest
      exact hrest

end Governs

/-! ## Records -/

/-- Whether a reader **tells** a view from what stands at the end of a way: if anything does, the
view shows what that stands for, and else a default. -/
def Tells (reads : Value → Except Fault ρ) (way : List Step) (get : ρ → β)
    (Told : Value → β → Prop) (dflt : β) : Prop :=
  ∀ (v : Value) (s : ρ), v.Keyed → reads v = .ok s → Shows Told (v.at? way) dflt (get s)

/-- **A record tells what one of its members governs.** -/
theorem Governs.tells {fields : List (Member ρ)} {step : Step} {get : ρ → β}
    {Told : Value → β → Prop} (h : Governs fields step get Told) (expected : String) (start : ρ) :
    Tells (readRecord expected fields start) [step] get Told (get start) := by
  intro v s hv hs
  have hway : v.at? [step] = v.given? step := Option.bind_fun_some _
  rw [hway]
  cases v with
  | table origin entries => exact h.readTable (Entries.keyed_table_iff.mp hv).once hs
  | array elements => exact h.readArray hs
  | tables elements => exact h.readArray hs
  | datetime =>
    cases hs
    rfl
  | _ => cases hs

/-- **A record in a record** tells what it tells by itself, one step further on. -/
theorem Tells.under {reads : Value → Except Fault ρ} {inner : Value → Except Fault σ}
    {way further : List Step} {part : ρ → σ} {get : σ → β} {Told : Value → β → Prop} {dflt : σ}
    (h : Tells reads way part (fun v s => inner v = .ok s) dflt)
    (hinner : Tells inner further get Told (get dflt)) :
    Tells reads (way ++ further) (fun s => get (part s)) Told (get dflt) := by
  intro v s hv hs
  have hpart := h v s hv hs
  rw [Value.at?_append]
  cases hat : v.at? way with
  | none =>
    rw [hat] at hpart
    exact congrArg get hpart
  | some w =>
    rw [hat] at hpart
    exact hinner w (part s) (hv.at? hat) hpart

end RecordRelay.Toml
