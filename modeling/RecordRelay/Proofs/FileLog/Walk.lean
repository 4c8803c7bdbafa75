import RecordRelay.FileLog

/-!
# Walking below a place

Two facts about walking are all that a log needs to know of the tree it stands in.

A path that leads to a folder can be **walked on** from there: what follows the path is walked as if
it began in that folder, with as many links to spare as the path left over (`walk_append`). This
stays so in every tree that *extends* the first one, that is, has all its entries and perhaps more.

And from a folder an **ordinary name** is one step: it leads to what the folder holds under it.
-/

namespace RecordRelay

/-- Whether a name **is ordinary**: it leads neither up nor nowhere, and is not too long. -/
structure Path.IsOrdinary (name : String) : Prop where
  /-- It does not stay. -/
  ne_here : ¬ (name = "" ∨ name = ".")
  /-- It does not lead up. -/
  ne_up : name ≠ ".."
  /-- It is not too long. -/
  short : ¬ Tree.maxName < name.utf8ByteSize

namespace Tree

open RecordRelay.Path (IsOrdinary)

variable {t t₀ : Tree} {purpose : Purpose} {links : Nat} {place P : Path} {name : String}
  {rest : Path}

/-! ## Steps of a walk -/

/-- At the end of the names stands what stands there. -/
theorem walk_nil {e : Entry} (h : t.get? place = some e) :
    t.walk purpose links place [] = .ok (.entry place e) := by
  rw [walk.eq_def]
  simp only [h]

/-- A name that stays is passed. -/
theorem walk_here (h : t.get? place = some .folder) (hname : name = "" ∨ name = ".") :
    t.walk purpose links place (name :: rest) = t.walk purpose links place rest := by
  rw [walk.eq_def]
  simp only [h, hname, if_true]

/-- Two full stops lead up. -/
theorem walk_up (h : t.get? place = some .folder) :
    t.walk purpose links place (".." :: rest) = t.walk purpose links place.dropLast rest := by
  rw [walk.eq_def]
  simp only [h, show ¬ ((".." : String) = "" ∨ (".." : String) = ".") by decide, if_true, if_false]

section Name

variable (h : t.get? place = some .folder) (hname : IsOrdinary name)
include h hname

/-- An ordinary name under which nothing stands is **vacant** if it is the last one. -/
theorem walk_vacant (hnext : t.get? (place ++ [name]) = none) :
    t.walk purpose links place [name] = .ok (.vacant (place ++ [name])) := by
  have hslash : ¬ (purpose = .writing ∧ isSlash [] = true) := fun hs => nomatch hs.2
  rw [walk.eq_def]
  simp only [h, hname.ne_here, hname.ne_up, hname.short, hslash, hnext, if_false, if_true]

variable (hrest : ¬ (purpose = .writing ∧ isSlash rest = true))
include hrest

/-- If more names follow there is **no way on**. -/
theorem walk_notFound (hnext : t.get? (place ++ [name]) = none) (hne : rest ≠ []) :
    t.walk purpose links place (name :: rest) = .error .notFound := by
  rw [walk.eq_def]
  simp only [h, hname.ne_here, hname.ne_up, hname.short, hrest, hnext, hne, if_false]

/-- What is no link is **gone through**. -/
theorem walk_name {e : Entry} (he : ∀ target, e ≠ .link target)
    (hnext : t.get? (place ++ [name]) = some e) :
    t.walk purpose links place (name :: rest) = t.walk purpose links (place ++ [name]) rest := by
  rw [walk.eq_def]
  simp only [h, hname.ne_here, hname.ne_up, hname.short, hrest, hnext, if_false]

/-- A link is **followed**, unless it is what the walk is for. -/
theorem walk_link {target : String} (hnext : t.get? (place ++ [name]) = some (.link target))
    (hstop : ¬ (rest = [] ∧ purpose = .entry)) :
    t.walk purpose (links + 1) place (name :: rest)
      = t.walk purpose links (linkStart place (Path.ofText target))
        (Path.ofText target ++ rest) := by
  rw [walk.eq_def]
  simp only [h, hname.ne_here, hname.ne_up, hname.short, hrest, hnext, hstop, if_false]

end Name

/-- A link at the end is an entry where entries are looked for. -/
theorem walk_entry_link {target : String} (h : t.get? place = some .folder)
    (hname : IsOrdinary name) (hnext : t.get? (place ++ [name]) = some (.link target)) :
    t.walk .entry links place [name] = .ok (.entry (place ++ [name]) (.link target)) := by
  rw [walk.eq_def]
  simp only [h, hname.ne_here, hname.ne_up, hname.short, hnext, reduceCtorEq, false_and, and_self,
    if_false, if_true]

/-! ## Walking on -/

/-- Whether a tree **has all the entries** of another. -/
def Extends (t t₀ : Tree) : Prop := ∀ q e, t₀.get? q = some e → t.get? q = some e

/-- Every tree has its own entries. -/
theorem Extends.refl (t : Tree) : t.Extends t := fun _ _ h => h

/-- A walk ends at what stands there. -/
theorem get?_of_walk {names : Path} {e : Entry}
    (h : t.walk purpose links place names = .ok (.entry P e)) : t.get? P = some e := by
  fun_induction t.walk purpose links place names with
  | case1 links place e' hget =>
    cases h
    exact hget
  | case2 | case5 | case6 | case7 | case8 | case10 | case13 => cases h
  | case3 _ _ _ _ _ _ ih => exact ih h
  | case4 _ _ _ _ _ ih => exact ih h
  | case9 _ _ _ _ _ _ _ _ _ _ _ hlink _ =>
    obtain ⟨hplace, hentry⟩ := Stop.entry.inj (Except.ok.inj h)
    rw [← hplace, ← hentry]
    exact hlink
  | case11 _ _ _ _ _ _ _ _ _ _ _ _ _ ih => exact ih h
  | case12 _ _ _ _ _ _ _ _ _ _ _ _ _ ih => exact ih h

/-- **What was found is found again** in a tree that has more entries, with more links to spare. -/
theorem walk_extends (ht : t.Extends t₀) {names : Path} {e : Entry} (more : Nat)
    (h : t₀.walk purpose links place names = .ok (.entry P e)) :
    t.walk purpose (links + more) place names = .ok (.entry P e) := by
  fun_induction t₀.walk purpose links place names with
  | case1 links place e' hget =>
    cases h
    exact walk_nil (ht _ _ hget)
  | case2 | case5 | case6 | case7 | case8 | case10 | case13 => cases h
  | case3 links place name names hfolder hname ih =>
    rw [walk_here (ht _ _ hfolder) hname, ih h]
  | case4 links place names hfolder _ ih => rw [walk_up (ht _ _ hfolder), ih h]
  | case9 links place name names hfolder hhere hup _ hshort next target hlink hstop =>
    obtain ⟨rfl, hpurpose⟩ := hstop
    rw [hpurpose, walk_entry_link (ht _ _ hfolder) ⟨hhere, hup, hshort⟩ (ht _ _ hlink)]
    exact h
  | case11 place name names hfolder hhere hup hslash hshort next target hlink hstop links ih =>
    rw [Nat.succ_add, walk_link (ht _ _ hfolder) ⟨hhere, hup, hshort⟩ hslash (ht _ _ hlink) hstop,
      ih h]
  | case12 links place name names hfolder hhere hup hslash hshort next e' he hnext ih =>
    rw [walk_name (ht _ _ hfolder) ⟨hhere, hup, hshort⟩ hslash (fun target he' => he target he')
      (ht _ _ hnext), ih h]

/-- The beginning of a path that leads somewhere **names an entry**. -/
theorem exists_entry_of_walk {names behind : Path} {e : Entry}
    (h : t.walk .content links place (names ++ behind) = .ok (.entry P e)) :
    ∃ Q f, t.walk .entry links place names = .ok (.entry Q f) := by
  have hlooking : ∀ names : Path, ¬ (Purpose.content = .writing ∧ isSlash names = true) :=
    fun names hs => nomatch hs.1
  generalize hpurpose : Purpose.entry = purpose
  fun_induction t.walk purpose links place names with
  | case1 => exact ⟨_, _, rfl⟩
  | case9 => exact ⟨_, _, rfl⟩
  | case3 links place name names hfolder hname ih =>
    rw [List.cons_append, walk_here hfolder hname] at h
    exact ih h
  | case4 links place names hfolder _ ih =>
    rw [List.cons_append, walk_up hfolder] at h
    exact ih h
  | case11 place name names hfolder hhere hup _ hshort next target hlink _ links ih =>
    rw [List.cons_append, walk_link hfolder ⟨hhere, hup, hshort⟩ (hlooking _) hlink
      (fun hs => nomatch hs.2), ← List.append_assoc] at h
    exact ih h
  | case12 links place name names hfolder hhere hup _ hshort next e' he hnext ih =>
    rw [List.cons_append, walk_name hfolder ⟨hhere, hup, hshort⟩ (hlooking _)
      (fun target he' => he target he') hnext] at h
    exact ih h
  -- where the walk for the entry breaks off, so does the other
  | case2 links place names hnone =>
    rw [walk.eq_def] at h
    simp only [hnone, reduceCtorEq] at h
  | case5 _ _ _ _ _ _ _ hwriting =>
    rw [← hpurpose] at hwriting
    cases hwriting.1
  | case6 _ _ name names hfolder hhere hup _ hlong =>
    rw [List.cons_append, walk.eq_def] at h
    simp only [hfolder, hhere, hup, hlong, reduceCtorEq, false_and, if_false, if_true] at h
  | case7 _ _ name hfolder hhere hup hshort next hnone _ =>
    rw [List.singleton_append, walk.eq_def] at h
    simp only [hfolder, hhere, hup, hlooking, hshort, if_false] at h
    rw [hnone] at h
    dsimp only at h
    split at h <;> cases h
  | case8 _ _ name names hfolder hhere hup _ hshort next hnone hne =>
    rw [List.cons_append, walk_notFound hfolder ⟨hhere, hup, hshort⟩ (hlooking _) hnone
      (fun he => hne (List.append_eq_nil_iff.mp he).1)] at h
    cases h
  | case10 _ name names hfolder hhere hup _ hshort next target hlink _ =>
    rw [List.cons_append, walk.eq_def] at h
    simp only [hfolder, hhere, hup, hlooking, hshort, if_false] at h
    rw [hlink] at h
    simp only [reduceCtorEq, and_false, if_false] at h
  | case13 _ _ e' name names hnot hsome =>
    rw [List.cons_append, walk.eq_def] at h
    cases e' with
    | folder => exact absurd rfl hnot
    | file | link | device =>
      rw [hsome] at h
      cases h

/-- Names of which one is not empty do not end a path in a slash, nor do names before them. -/
theorem isSlash_append {rest : Path} (h : ∃ name ∈ rest, name ≠ "") (names : Path) :
    isSlash (names ++ rest) = false := by
  obtain ⟨name, hmem, hne⟩ := h
  unfold isSlash
  rw [Bool.and_eq_false_iff]
  refine .inr (List.all_eq_false.mpr ⟨name, List.mem_append_right _ hmem, ?_⟩)
  rw [beq_iff_eq]
  exact hne

/-- **Walking on**: where a path leads to a folder, what follows it is walked from that folder. The
induction is the walk along the path; `passed` are the links that it leads over. -/
theorem walk_append (ht : t.Extends t₀) {names : Path}
    (h : t₀.walk .content links place names = .ok (.entry P .folder)) {rest : Path}
    (hrest : ∃ name ∈ rest, name ≠ "") :
    ∃ passed ≤ links, ∀ purpose spare,
      t.walk purpose (passed + spare) place (names ++ rest) = t.walk purpose spare P rest := by
  have hslash : ∀ purpose names, ¬ (purpose = Purpose.writing ∧ isSlash (names ++ rest) = true) :=
    fun purpose names hs => by
      rw [isSlash_append hrest] at hs
      cases hs.2
  have hne : ∀ names : Path, names ++ rest ≠ [] := fun names he => by
    obtain ⟨name, hmem, -⟩ := hrest
    rw [(List.append_eq_nil_iff.mp he).2] at hmem
    cases hmem
  generalize hpurpose : Purpose.content = looking at h
  fun_induction t₀.walk looking links place names with
  | case1 links place e hget =>
    cases h
    exact ⟨0, Nat.zero_le _, fun purpose spare => by rw [Nat.zero_add, List.nil_append]⟩
  | case2 | case5 | case6 | case7 | case8 | case10 | case13 => cases h
  | case3 links place name names hfolder hname ih =>
    obtain ⟨passed, hle, hwalk⟩ := ih h
    refine ⟨passed, hle, fun purpose spare => ?_⟩
    rw [List.cons_append, walk_here (ht _ _ hfolder) hname, hwalk]
  | case4 links place names hfolder _ ih =>
    obtain ⟨passed, hle, hwalk⟩ := ih h
    refine ⟨passed, hle, fun purpose spare => ?_⟩
    rw [List.cons_append, walk_up (ht _ _ hfolder), hwalk]
  | case9 _ _ _ _ _ _ _ _ _ _ _ _ hstop =>
    rw [← hpurpose] at hstop
    cases hstop.2
  | case11 place name names hfolder hhere hup _ hshort next target hlink _ links ih =>
    obtain ⟨passed, hle, hwalk⟩ := ih h
    refine ⟨passed + 1, Nat.succ_le_succ hle, fun purpose spare => ?_⟩
    rw [List.cons_append, Nat.add_right_comm, walk_link (ht _ _ hfolder) ⟨hhere, hup, hshort⟩
      (hslash _ _) (ht _ _ hlink) (fun hs => hne names hs.1), ← List.append_assoc, hwalk]
  | case12 links place name names hfolder hhere hup _ hshort next e he hnext ih =>
    obtain ⟨passed, hle, hwalk⟩ := ih h
    refine ⟨passed, hle, fun purpose spare => ?_⟩
    rw [List.cons_append, walk_name (ht _ _ hfolder) ⟨hhere, hup, hshort⟩ (hslash _ _)
      (fun target he' => he target he') (ht _ _ hnext), hwalk]

end Tree

end RecordRelay
