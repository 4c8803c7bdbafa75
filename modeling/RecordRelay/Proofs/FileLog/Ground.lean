import RecordRelay.Proofs.FileLog.Names
import RecordRelay.Proofs.FileLog.Line

/-!
# What the operations of a log do

A log stands on a *ground*: a root that leads to a folder with nothing below it when the log is
opened first. From then on the tree has the entries that it had, and the log's own ones below that
folder. Of a topic's folder one of two things holds: it is not there and neither is anything below
it (`Absent`), or it is there and holds, perhaps, a link to the file of some day, and for every day
a file with certain lines, if there are any (`Holds`).

Each operation of a log is shown to lead from one of these descriptions to the other, and to leave
everything outside the folder alone (`SameElsewhere`).
-/

namespace RecordRelay.FileLog

open Calendar (Day)
open RecordRelay.Path (IsOrdinary)
open RecordRelay.Tree (Extends Purpose)

/-- **Where a log stands**: a root that leads to an empty folder, with a link to spare. -/
structure Ground where
  /-- The path of the root. -/
  root : Path
  /-- The place that it leads to. -/
  place : Path
  /-- The tree when the log is opened first. -/
  tree : Tree
  /-- The root leads there. -/
  leads : tree.walk .content (Tree.maxLinks - 1) [] root = .ok (.entry place .folder)
  /-- Nothing is below it. -/
  bare : ∀ names, names ≠ [] → tree.get? (place ++ names) = none
  /-- The path is not too long. -/
  fits : root.size ≤ Tree.maxPath

namespace Ground

variable {g : Ground} {t t' t'' : Tree} {f : String} {names rest : Path}

/-! ## Paths below the root -/

/-- The root stays a folder. -/
theorem get?_place (ht : t.Extends g.tree) : t.get? g.place = some .folder :=
  ht _ _ (Tree.get?_of_walk g.leads)

/-- **A path below the root** is walked from the place of the root, and a link more may come. -/
theorem reach_below (ht : t.Extends g.tree) (hsize : (g.root ++ rest).size ≤ Tree.maxPath)
    (hrest : ∃ name ∈ rest, name ≠ "") (purpose : Purpose) :
    ∃ spare, t.reach purpose (g.root ++ rest) = t.walk purpose (spare + 1) g.place rest := by
  obtain ⟨passed, hle, hwalk⟩ := Tree.walk_append ht g.leads hrest
  have hlinks : Tree.maxLinks = passed + ((Tree.maxLinks - 1 - passed) + 1) := by
    have hmax : Tree.maxLinks = 40 := rfl
    omega
  refine ⟨Tree.maxLinks - 1 - passed, ?_⟩
  unfold Tree.reach
  rw [if_neg (Nat.not_lt.mpr hsize), ← hwalk purpose, ← hlinks]

/-- The sizes of names add up. -/
theorem size_append_le (p q : Path) : p.size ≤ (p ++ q).size := by
  have hgrows : ∀ (q : Path) (n : Nat),
      n ≤ q.foldl (fun n name => n + 1 + name.utf8ByteSize) n := fun q => by
    induction q with
    | nil => exact fun n => Nat.le_refl n
    | cons name q ih =>
      exact fun n => Nat.le_trans (Nat.le_trans (Nat.le_succ n) (Nat.le_add_right ..)) (ih _)
  unfold Path.size
  rw [List.foldl_append]
  exact hgrows q _

/-! ## Folders of topics -/

/-- Whether **a folder is not there**, nor anything below it. -/
def Absent (g : Ground) (t : Tree) (f : String) : Prop :=
  ∀ names, t.get? (g.place ++ f :: names) = none

/-- The file that holds certain lines; there is none if there are no lines. -/
def fileOf (ls : List Line) : Option Entry := if ls = [] then none else some (.file (written ls))

/-- Whether **a folder holds** these lines for each day, and a link to the file of the day that is
given, if one is. -/
structure Holds (g : Ground) (t : Tree) (f : String) (linked : Option Int)
    (kept : Int → List Line) : Prop where
  /-- The folder is there. -/
  folder : t.get? (g.place ++ [f]) = some .folder
  /-- The link leads to the file of the day. -/
  link : t.get? (g.place ++ [f, linkName])
    = linked.map fun date => .link (fileName (.ofNumber date))
  /-- Every day has its lines. -/
  files : ∀ d, Instant.isTold (.ofNumber d) = true →
    t.get? (g.place ++ [f, fileName (.ofNumber d)]) = fileOf (kept d)

/-- Whether two trees are **the same outside a folder**. -/
def SameElsewhere (g : Ground) (f : String) (t t' : Tree) : Prop :=
  ∀ q, ¬ (g.place ++ [f]) <+: q → t'.get? q = t.get? q

/-- A tree is the same as itself. -/
theorem SameElsewhere.refl (g : Ground) (f : String) (t : Tree) : g.SameElsewhere f t t :=
  fun _ _ => rfl

/-- Two changes inside a folder are one. -/
theorem SameElsewhere.trans (h : g.SameElsewhere f t t') (h' : g.SameElsewhere f t' t'') :
    g.SameElsewhere f t t'' :=
  fun q hq => (h' q hq).trans (h q hq)

/-- What was there at first is not inside any folder of a topic. -/
theorem SameElsewhere.extends (h : g.SameElsewhere f t t') (ht : t.Extends g.tree) :
    t'.Extends g.tree := by
  intro q e hq
  rw [h q ?_]
  · exact ht q e hq
  · rintro ⟨names, rfl⟩
    rw [List.append_assoc, List.singleton_append, g.bare _ (List.cons_ne_nil f names)] at hq
    cases hq

/-- Whether two trees are **the same in a folder**. -/
def SameIn (g : Ground) (f : String) (t t' : Tree) : Prop :=
  ∀ names, t'.get? (g.place ++ f :: names) = t.get? (g.place ++ f :: names)

/-- What is the same outside a folder is the same in any other. -/
theorem SameElsewhere.sameIn {f' : String} (h : g.SameElsewhere f t t') (hf : f' ≠ f) :
    g.SameIn f' t t' := by
  refine fun names => h _ ?_
  rw [List.prefix_append_right_inj]
  exact fun hprefix => hf (List.cons_prefix_cons.mp hprefix).1.symm

/-- A folder that is not there stays so. -/
theorem Absent.of_sameIn (h : g.Absent t f) (hsame : g.SameIn f t t') : g.Absent t' f :=
  fun names => (hsame names).trans (h names)

/-- A folder keeps its link and its files. -/
theorem Holds.of_sameIn {linked : Option Int} {kept : Int → List Line}
    (h : g.Holds t f linked kept) (hsame : g.SameIn f t t') : g.Holds t' f linked kept where
  folder := (hsame []).trans h.folder
  link := (hsame _).trans h.link
  files d hd := (hsame _).trans (h.files d hd)

/-- An entry that is put into a folder changes nothing elsewhere. -/
theorem sameElsewhere_put (t : Tree) (f : String) (names : Path) (e : Entry) :
    g.SameElsewhere f t (t.put (g.place ++ f :: names) e) := by
  intro q hq
  rw [Tree.get?_put _ _ _ (by simp), if_neg]
  rintro rfl
  exact hq ⟨names, by rw [List.append_assoc]; rfl⟩

/-- Nor does what is cut off inside it. -/
theorem sameElsewhere_cut (t : Tree) (f : String) (names : Path) :
    g.SameElsewhere f t (t.cut (g.place ++ f :: names)) := by
  intro q hq
  rw [Tree.get?_cut _ _ (by simp), if_neg]
  intro hprefix
  obtain ⟨more, rfl⟩ := List.isPrefixOf_iff_prefix.mp hprefix
  exact hq ⟨names ++ more, by simp only [List.append_assoc, List.cons_append, List.nil_append]⟩

/-! ## Changes inside a folder -/

section Inside

variable {linked : Option Int} {kept : Int → List Line}

/-- The link that was made leads to its file; the files stay. -/
theorem Holds.put_link (h : g.Holds t f linked kept) (date : Int) :
    g.Holds (t.put (g.place ++ [f, linkName]) (.link (fileName (.ofNumber date)))) f (some date)
      kept where
  folder := by
    rw [Tree.get?_put _ _ _ (by simp), if_neg (by simp)]
    exact h.folder
  link := by
    rw [Tree.get?_put _ _ _ (by simp), if_pos rfl]
    rfl
  files d hd := by
    rw [Tree.get?_put _ _ _ (by simp), if_neg]
    · exact h.files d hd
    · simpa using fileName_ne_linkName _

/-- Without its link a folder still has its files. -/
theorem Holds.cut_link (h : g.Holds t f linked kept) :
    g.Holds (t.cut (g.place ++ [f, linkName])) f none kept where
  folder := by
    rw [Tree.get?_cut _ _ (by simp), if_neg]
    · exact h.folder
    · simp
  link := by
    rw [Tree.get?_cut _ _ (by simp), if_pos (List.isPrefixOf_iff_prefix.mpr (List.prefix_refl _))]
    rfl
  files d hd := by
    rw [Tree.get?_cut _ _ (by simp), if_neg]
    · exact h.files d hd
    · simpa using (fileName_ne_linkName _).symm

/-- A line more in the file of its day; the link and the other files stay. -/
theorem Holds.put_file (h : g.Holds t f linked kept) {date : Int}
    (htold : Instant.isTold (.ofNumber date) = true) (l : Line) :
    g.Holds (t.put (g.place ++ [f, fileName (.ofNumber date)])
      (.file (written (kept date ++ [l])))) f linked
      fun d => if d = date then kept d ++ [l] else kept d where
  folder := by
    rw [Tree.get?_put _ _ _ (by simp), if_neg (by simp)]
    exact h.folder
  link := by
    rw [Tree.get?_put _ _ _ (by simp), if_neg]
    · exact h.link
    · simpa using (fileName_ne_linkName _).symm
  files d hd := by
    rw [Tree.get?_put _ _ _ (by simp)]
    by_cases hdate : d = date
    · rw [hdate, if_pos rfl, if_pos rfl, fileOf, if_neg (by simp)]
    · rw [if_neg hdate, if_neg]
      · exact h.files d hd
      · intro heq
        have hday := eq_of_fileName_eq hd htold (by simpa using heq)
        exact hdate (by rw [← Day.number_ofNumber d, hday, Day.number_ofNumber])

end Inside

end Ground

end RecordRelay.FileLog
