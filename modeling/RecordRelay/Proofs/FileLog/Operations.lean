import RecordRelay.Proofs.FileLog.Ground

/-!
# The operations of a log

Making a folder, pointing a link, writing a line, reading a topic, removing a folder and opening the
log once more: for each of them it is said what it makes of a folder that is there, and of one that
is not. All of them are about one topic's folder and change nothing outside it.
-/

namespace RecordRelay.FileLog.Ground

open Calendar (Day)
open RecordRelay.Path (IsOrdinary)
open RecordRelay.Tree (Extends Purpose)

variable {g : Ground} {t : Tree} {f name : String} {date : Int} {linked : Option Int}
  {kept : Int → List Line} {l : Line}

/-! ## Walking into a folder -/

/-- A name that is ordinary is not empty. -/
theorem ne_empty_of_isOrdinary (h : IsOrdinary name) : name ≠ "" := fun he => h.ne_here (.inl he)

/-- An ordinary name is no slash. -/
theorem not_isSlash (hname : IsOrdinary name) (purpose : Purpose) :
    ¬ (purpose = .writing ∧ Tree.isSlash [name] = true) := by
  rintro ⟨-, h⟩
  simp only [Tree.isSlash, List.all_cons, List.all_nil, Bool.and_true, Bool.and_eq_true,
    beq_iff_eq] at h
  exact ne_empty_of_isOrdinary hname h.2

/-- Behind the last name of a path there is no slash. -/
theorem not_isSlash_nil (purpose : Purpose) :
    ¬ (purpose = .writing ∧ Tree.isSlash [] = true) := fun h => nomatch h.2

/-! ## Making folders -/

/-- A folder that can be made is made. -/
theorem makeFolders_of_make {t t' : Tree} {p : Path} (h : t.make p .folder = .ok t') :
    t.makeFolders p = (.ok (), t') := by
  unfold Tree.makeFolders
  rw [Tree.makeFoldersUp.eq_def, List.reverse_reverse]
  dsimp only
  rw [h]

/-- A folder that exists already is as good as one that was made. -/
theorem makeFolders_of_isFolder {t : Tree} {p : Path} (h : t.make p .folder = .error .alreadyExists)
    (hfolder : t.isFolder p = true) : t.makeFolders p = (.ok (), t) := by
  unfold Tree.makeFolders
  rw [Tree.makeFoldersUp.eq_def, List.reverse_reverse]
  dsimp only
  rw [h]
  simp only [hfolder, if_true]

section Folder

variable (ht : t.Extends g.tree) (hf : IsOrdinary f)
include ht hf

/-- **The path of a folder** ends where the folder is or would be. -/
theorem reach_folder (hsize : (g.root ++ [f]).size ≤ Tree.maxPath) (purpose : Purpose) :
    (t.get? (g.place ++ [f]) = none →
      t.reach purpose (g.root ++ [f]) = .ok (.vacant (g.place ++ [f])))
    ∧ (t.get? (g.place ++ [f]) = some .folder →
      t.reach purpose (g.root ++ [f]) = .ok (.entry (g.place ++ [f]) .folder)) := by
  obtain ⟨spare, hreach⟩ := reach_below ht hsize
    ⟨f, List.mem_singleton_self f, ne_empty_of_isOrdinary hf⟩ purpose
  rw [hreach]
  constructor
  · exact Tree.walk_vacant (get?_place ht) hf
  · intro hfolder
    rw [Tree.walk_name (get?_place ht) hf (not_isSlash_nil purpose) (fun _ => by simp) hfolder,
      Tree.walk_nil hfolder]

/-- **A path into a folder** goes through the folder. -/
theorem reach_name (hname : IsOrdinary name)
    (hsize : (g.root ++ [f, name]).size ≤ Tree.maxPath) (purpose : Purpose)
    (hfolder : t.get? (g.place ++ [f]) = some .folder) :
    ∃ spare, t.reach purpose (g.root ++ [f, name])
      = t.walk purpose (spare + 1) (g.place ++ [f]) [name] := by
  obtain ⟨spare, hreach⟩ := reach_below ht hsize
    ⟨f, List.mem_cons_self, ne_empty_of_isOrdinary hf⟩ purpose
  refine ⟨spare, ?_⟩
  rw [hreach, Tree.walk_name (get?_place ht) hf (not_isSlash hname purpose) (fun _ => by simp)
    hfolder]

/-- If the folder is not there, the path leads nowhere. -/
theorem reach_of_absent (hname : IsOrdinary name)
    (hsize : (g.root ++ [f, name]).size ≤ Tree.maxPath) (purpose : Purpose)
    (habsent : g.Absent t f) : t.reach purpose (g.root ++ [f, name]) = .error .notFound := by
  obtain ⟨spare, hreach⟩ := reach_below ht hsize
    ⟨f, List.mem_cons_self, ne_empty_of_isOrdinary hf⟩ purpose
  rw [hreach, Tree.walk_notFound (get?_place ht) hf (not_isSlash hname purpose) (habsent [])
    (List.cons_ne_nil name [])]

/-! ## Making the folder -/

omit ht in
/-- A folder's path has no slash at its end. -/
theorem withoutSlash_concat (root : Path) : Path.withoutSlash (root ++ [f]) = root ++ [f] := by
  have hne : ¬ (f == "") = true := fun he => ne_empty_of_isOrdinary hf (beq_iff_eq.mp he)
  have hdrop : (f :: root.reverse).dropWhile (· == "") = f :: root.reverse :=
    List.dropWhile_cons_of_neg hne
  rw [Path.withoutSlash, List.reverse_append, List.reverse_singleton, List.singleton_append,
    hdrop, List.reverse_cons, List.reverse_reverse]

variable (hsize : (g.root ++ [f]).size ≤ Tree.maxPath)
include hsize

/-- **A folder that is not there is made**, and is empty. -/
theorem makeFolders_of_absent (h : g.Absent t f) (hkept : ∀ d, kept d = []) :
    ∃ t', t.makeFolders (g.root ++ [f]) = (.ok (), t') ∧ g.SameElsewhere f t t'
      ∧ g.Holds t' f none kept := by
  have hmake : t.make (g.root ++ [f]) .folder = .ok (t.put (g.place ++ [f]) .folder) := by
    unfold Tree.make Tree.locate
    rw [if_pos rfl, withoutSlash_concat hf, (reach_folder ht hf hsize .entry).1 (h [])]
    rfl
  have hother : ∀ name, (t.put (g.place ++ [f]) .folder).get? (g.place ++ [f, name]) = none := by
    intro name
    rw [Tree.get?_put _ _ _ (by simp), if_neg (by simp)]
    exact h [name]
  refine ⟨t.put (g.place ++ [f]) .folder, ?_, sameElsewhere_put t f [] .folder, ?_⟩
  · exact makeFolders_of_make hmake
  · refine ⟨by rw [Tree.get?_put _ _ _ (by simp), if_pos rfl], hother linkName, fun d _ => ?_⟩
    rw [hother, hkept, fileOf, if_pos rfl]

/-- **A folder that is there** is left alone. -/
theorem makeFolders_of_holds (h : g.Holds t f linked kept) :
    t.makeFolders (g.root ++ [f]) = (.ok (), t) := by
  have hreach := fun purpose => (reach_folder ht hf hsize purpose).2 h.folder
  have hmake : t.make (g.root ++ [f]) .folder = .error .alreadyExists := by
    unfold Tree.make Tree.locate
    rw [if_pos rfl, withoutSlash_concat hf, hreach .entry]
    rfl
  have hfolder : t.isFolder (g.root ++ [f]) = true := by
    unfold Tree.isFolder Tree.find
    rw [hreach .content]
  exact makeFolders_of_isFolder hmake hfolder

/-! ## Removing the folder -/

/-- **A folder that is there is removed** with everything below it. -/
theorem remove_of_holds (h : g.Holds t f linked kept) :
    ∃ t', t.remove (g.root ++ [f]) = .ok t' ∧ g.SameElsewhere f t t' ∧ g.Absent t' f := by
  refine ⟨t.cut (g.place ++ [f]), ?_, sameElsewhere_cut t f [], fun names => ?_⟩
  · unfold Tree.remove Tree.locate
    rw [(reach_folder ht hf hsize .entry).2 h.folder]
    rfl
  · rw [Tree.get?_cut _ _ (by simp), if_pos]
    exact List.isPrefixOf_iff_prefix.mpr ⟨names, by rw [List.append_assoc]; rfl⟩

/-- One that is not there cannot be. -/
theorem remove_of_absent (h : g.Absent t f) : t.remove (g.root ++ [f]) = .error .notFound := by
  unfold Tree.remove Tree.locate
  rw [(reach_folder ht hf hsize .entry).1 (h [])]
  rfl

end Folder

/-! ## Pointing the link -/

/-- The file of a day is what a link to the file of that day leads to, and to no other. -/
theorem leadsTo_fileName (d e : Day) :
    leadsTo (fileName d) (fileName e) = (fileName d == fileName e) := by
  unfold leadsTo
  rw [ofText_fileName]
  exact Bool.and_true _

section Link

variable (ht : t.Extends g.tree) (hf : IsOrdinary f)
  (hsize : (g.root ++ [f, linkName]).size ≤ Tree.maxPath)
include ht hf hsize

/-- **The link's own entry** is what stands under its name. -/
theorem locate_link (hfolder : t.get? (g.place ++ [f]) = some .folder) :
    (t.get? (g.place ++ [f, linkName]) = none →
      t.locate (g.root ++ [f, linkName]) = .ok (.vacant (g.place ++ [f, linkName])))
    ∧ ∀ target, t.get? (g.place ++ [f, linkName]) = some (.link target) →
      t.locate (g.root ++ [f, linkName])
        = .ok (.entry (g.place ++ [f, linkName]) (.link target)) := by
  have hplace : g.place ++ [f] ++ [linkName] = g.place ++ [f, linkName] := List.append_assoc ..
  obtain ⟨spare, hreach⟩ := reach_name ht hf isOrdinary_linkName hsize .entry hfolder
  unfold Tree.locate
  rw [hreach, ← hplace]
  exact ⟨Tree.walk_vacant hfolder isOrdinary_linkName,
    fun target => Tree.walk_entry_link hfolder isOrdinary_linkName⟩

/-- A link can be made where there is none. -/
theorem make_link (hfolder : t.get? (g.place ++ [f]) = some .folder)
    (hnone : t.get? (g.place ++ [f, linkName]) = none) (target : String) :
    t.make (g.root ++ [f, linkName]) (.link target)
      = .ok (t.put (g.place ++ [f, linkName]) (.link target)) := by
  unfold Tree.make
  rw [if_neg (by simp), (locate_link ht hf hsize hfolder).1 hnone]
  rfl

/-- **The link is pointed** to the file of a day, wherever it led before; everything else in the
folder stays. -/
theorem point_of_holds (h : g.Holds t f linked kept) (date : Int) :
    ∃ t', point t (g.root ++ [f, linkName]) (fileName (.ofNumber date)) = (.ok (), t')
      ∧ g.SameElsewhere f t t' ∧ g.Holds t' f (some date) kept := by
  unfold point Tree.target? Tree.exists?
  cases linked with
  | none =>
    rw [(locate_link ht hf hsize h.folder).1 h.link]
    exact ⟨_, congrArg t.settle (make_link ht hf hsize h.folder h.link _),
      sameElsewhere_put t f [linkName] _, h.put_link date⟩
  | some e =>
    rw [(locate_link ht hf hsize h.folder).2 _ h.link]
    simp only [Option.any_some, leadsTo_fileName, beq_iff_eq]
    split
    · next heq =>
      refine ⟨t, rfl, .refl g f t, h.folder, ?_, h.files⟩
      rw [h.link, Option.map_some, Option.map_some, heq]
    · -- the old link is in the way, and is removed first
      have hremove : t.removeFile (g.root ++ [f, linkName])
          = .ok (t.cut (g.place ++ [f, linkName])) := by
        unfold Tree.removeFile
        rw [(locate_link ht hf hsize h.folder).2 _ h.link]
        rfl
      have hsame := sameElsewhere_cut (g := g) t f [linkName]
      have hcut := h.cut_link
      rw [hremove]
      have hmake := make_link (hsame.extends ht) hf hsize hcut.folder hcut.link
        (fileName (.ofNumber date))
      exact ⟨_, congrArg (Tree.settle _) hmake,
        hsame.trans (sameElsewhere_put _ f [linkName] _), hcut.put_link date⟩

end Link

/-! ## Writing a line -/

section File

variable (ht : t.Extends g.tree) (hf : IsOrdinary f)
include ht hf

/-- **Octets are written** to a file behind those that are there, and a file that is not there is
made. -/
theorem modify_of_folder (hname : IsOrdinary name)
    (hsize : (g.root ++ [f, name]).size ≤ Tree.maxPath)
    (hfolder : t.get? (g.place ++ [f]) = some .folder) {content : Bytes}
    (hfile : t.get? (g.place ++ [f, name]) = none ∧ content = []
      ∨ t.get? (g.place ++ [f, name]) = some (.file content)) (octets : Bytes) :
    t.modify (g.root ++ [f, name]) (· ++ octets)
      = .ok (t.put (g.place ++ [f, name]) (.file (content ++ octets))) := by
  have hplace : g.place ++ [f] ++ [name] = g.place ++ [f, name] := List.append_assoc ..
  obtain ⟨spare, hreach⟩ := reach_name ht hf hname hsize .writing hfolder
  unfold Tree.modify
  rw [hreach]
  rw [← hplace] at hfile
  obtain ⟨hnone, rfl⟩ | hfile := hfile
  · rw [Tree.walk_vacant hfolder hname hnone, hplace]
    rfl
  · rw [Tree.walk_name hfolder hname (not_isSlash_nil _) (fun _ => by simp) hfile,
      Tree.walk_nil hfile, hplace]
    rfl

/-- **A line is written** to the file of its day, behind the lines that are there. -/
theorem modify_of_holds (hname : IsOrdinary (fileName (.ofNumber date)))
    (hsize : (g.root ++ [f, fileName (.ofNumber date)]).size ≤ Tree.maxPath)
    (htold : Instant.isTold (.ofNumber date) = true) (h : g.Holds t f linked kept) (l : Line) :
    ∃ t', t.modify (g.root ++ [f, fileName (.ofNumber date)]) (· ++ (l.toJson ++ [lineEnd]))
        = .ok t'
      ∧ g.SameElsewhere f t t'
      ∧ g.Holds t' f linked fun d => if d = date then kept d ++ [l] else kept d := by
  have hfile : t.get? (g.place ++ [f, fileName (.ofNumber date)]) = none ∧ written (kept date) = []
      ∨ t.get? (g.place ++ [f, fileName (.ofNumber date)]) = some (.file (written (kept date))) := by
    rw [h.files date htold, fileOf]
    by_cases hkept : kept date = []
    · rw [if_pos hkept, hkept]
      exact .inl ⟨rfl, rfl⟩
    · rw [if_neg hkept]
      exact .inr rfl
  have hmodify := modify_of_folder ht hf hname hsize h.folder hfile (l.toJson ++ [lineEnd])
  rw [← written_concat] at hmodify
  exact ⟨_, hmodify, sameElsewhere_put t f [_] _, h.put_file htold l⟩

/-- Where the folder is not there, **nothing is written**. -/
theorem modify_of_absent (hname : IsOrdinary name)
    (hsize : (g.root ++ [f, name]).size ≤ Tree.maxPath) (h : g.Absent t f) (w : Bytes → Bytes) :
    t.modify (g.root ++ [f, name]) w = .error .notFound := by
  unfold Tree.modify
  rw [reach_of_absent ht hf hname hsize .writing h]
  rfl

/-! ## Reading through the link -/

/-- **A file is read** through a link that leads to it, and one that is not there is missed. -/
theorem read_of_link (hname : IsOrdinary (fileName (.ofNumber date)))
    (hsize : (g.root ++ [f, linkName]).size ≤ Tree.maxPath)
    (hfolder : t.get? (g.place ++ [f]) = some .folder)
    (hlink : t.get? (g.place ++ [f, linkName]) = some (.link (fileName (.ofNumber date)))) :
    (∀ content, t.get? (g.place ++ [f, fileName (.ofNumber date)]) = some (.file content) →
      t.read (g.root ++ [f, linkName]) = .ok content)
    ∧ (t.get? (g.place ++ [f, fileName (.ofNumber date)]) = none →
      t.read (g.root ++ [f, linkName]) = .error .notFound) := by
  have hplace : ∀ name, g.place ++ [f] ++ [name] = g.place ++ [f, name] := fun _ =>
    List.append_assoc ..
  have hstart : Tree.linkStart (g.place ++ [f]) [fileName (.ofNumber date)] = g.place ++ [f] := by
    refine if_neg ?_
    rw [List.head?_cons, Option.some.injEq]
    exact fileName_ne (by decide)
  rw [← hplace] at hlink
  obtain ⟨spare, hreach⟩ := reach_name ht hf isOrdinary_linkName hsize .content hfolder
  unfold Tree.read Tree.find
  rw [hreach, Tree.walk_link hfolder isOrdinary_linkName (not_isSlash_nil _) hlink (by simp),
    ofText_fileName, hstart, List.append_nil, ← hplace]
  constructor
  · intro content hfile
    rw [Tree.walk_name hfolder hname (not_isSlash_nil _) (fun _ => by simp) hfile,
      Tree.walk_nil hfile]
    rfl
  · intro hnone
    rw [Tree.walk_vacant hfolder hname hnone]
    rfl

/-- Without a link there is **nothing to be read**, nor without the folder. -/
theorem read_of_unlinked (hsize : (g.root ++ [f, linkName]).size ≤ Tree.maxPath)
    (h : g.Absent t f ∨ ∃ kept, g.Holds t f none kept) :
    t.read (g.root ++ [f, linkName]) = .error .notFound := by
  unfold Tree.read Tree.find
  obtain habsent | ⟨kept, hholds⟩ := h
  · rw [reach_of_absent ht hf isOrdinary_linkName hsize .content habsent]
    rfl
  · have hplace : g.place ++ [f] ++ [linkName] = g.place ++ [f, linkName] := List.append_assoc ..
    have hlink := hholds.link
    rw [← hplace] at hlink
    obtain ⟨spare, hreach⟩ := reach_name ht hf isOrdinary_linkName hsize .content hholds.folder
    rw [hreach, Tree.walk_vacant hholds.folder isOrdinary_linkName hlink]
    rfl

end File

/-! ## Opening the log -/

/-- The log as it is opened first. -/
def opened (g : Ground) : FileLog := ⟨g.root, [], g.tree⟩

/-- **Opening the log changes nothing in the tree**, since the root is there; only what was
remembered is forgotten. -/
theorem start_eq (ht : t.Extends g.tree) : FileLog.start g.root t = (.ok (), ⟨g.root, [], t⟩) := by
  have hlinks : Tree.maxLinks = Tree.maxLinks - 1 + 1 := rfl
  have hwalk : t.walk .content Tree.maxLinks [] g.root = .ok (.entry g.place .folder) := by
    rw [hlinks]
    exact Tree.walk_extends ht 1 g.leads
  -- a slash at the end of the root is left out where folders are made
  obtain ⟨blanks, hroot⟩ : ∃ blanks, Path.withoutSlash g.root ++ blanks = g.root := by
    obtain ⟨blanks, h⟩ := List.dropWhile_suffix (l := g.root.reverse) (· == "")
    refine ⟨blanks.reverse, ?_⟩
    rw [Path.withoutSlash, ← List.reverse_append, h, List.reverse_reverse]
  have hfits : (Path.withoutSlash g.root).size ≤ Tree.maxPath := by
    have hle := size_append_le (Path.withoutSlash g.root) blanks
    rw [hroot] at hle
    exact Nat.le_trans hle g.fits
  have hmake : t.make g.root .folder = .error .alreadyExists := by
    obtain ⟨Q, e, hentry⟩ := Tree.exists_entry_of_walk (hroot.symm ▸ hwalk)
    unfold Tree.make Tree.locate Tree.reach
    rw [if_pos rfl, if_neg (Nat.not_lt.mpr hfits), hentry]
    rfl
  have hfolder : t.isFolder g.root = true := by
    unfold Tree.isFolder Tree.find Tree.reach
    rw [if_neg (Nat.not_lt.mpr g.fits), hwalk]
  unfold FileLog.start
  rw [makeFolders_of_isFolder hmake hfolder]

end RecordRelay.FileLog.Ground
