import RecordRelay.Bytes
import RecordRelay.IoFault
import RecordRelay.Text.Split

/-!
# Trees of files

A **tree** says what stands at each place below a top folder: a folder, a file with its octets, a
link with the text of its target, or a device. A place is the list of the names on the way to it,
and no link is on that way.

A *path* is a list of names too, but one that has to be walked: `..` leads up, `.` and the empty
name stay, and a link leads on to its target, forty times at most. Operations on a tree take paths.
Those that look at what is there, or write a file, follow a link at the end of the path; those that
make or remove an entry do not. A path that ends in a slash names no file to be written.
-/

namespace RecordRelay

/-- The names on the way to a place, or the names to be walked. -/
abbrev Path := List String

namespace Path

/-- Whether a list of numbers comes before another or is the same: the first difference decides, and
the end comes first. -/
def numbersNotAfter : List Nat → List Nat → Bool
  | [], _ => true
  | _ :: _, [] => false
  | a :: as, b :: bs => a < b || a == b && numbersNotAfter as bs

/-- Whether a path comes before another or is the same: the first names that differ decide. -/
def notAfter : Path → Path → Bool
  | [], _ => true
  | _ :: _, [] => false
  | a :: as, b :: bs =>
    if a = b then notAfter as bs
    else numbersNotAfter (a.toList.map Char.toNat) (b.toList.map Char.toNat)

/-- Whether a name stays where it is met. -/
def isHere (name : String) : Bool := name == "" || name == "."

/-- The path of the folder that holds the last name of a path, last name first. -/
def holderUp (reversed : Path) : Path := (reversed.dropWhile isHere).tail.dropWhile isHere

theorem holderUp_lt {reversed : Path} (h : reversed ≠ []) :
    (holderUp reversed).length < reversed.length := by
  have first : (reversed.dropWhile isHere).length ≤ reversed.length :=
    (List.dropWhile_suffix isHere).length_le
  have second : (holderUp reversed).length ≤ (reversed.dropWhile isHere).tail.length :=
    (List.dropWhile_suffix isHere).length_le
  have pos : 0 < reversed.length := List.length_pos_iff.mpr h
  rw [List.length_tail] at second
  omega

/-- The path of the folder that holds the last name of a path. -/
def holder (p : Path) : Path := (holderUp p.reverse).reverse

/-- A path without the slash at its end. -/
def withoutSlash (p : Path) : Path := (p.reverse.dropWhile (· == "")).reverse

/-- The number of octets of a path, with a slash in front of each name. -/
def size (p : Path) : Nat := p.foldl (fun n name => n + 1 + name.utf8ByteSize) 0

/-- The names in a text, between its slashes. -/
def ofText (s : String) : Path := (Text.splitOn '/' s.toList).map String.ofList

end Path

/-- What takes octets without keeping them. -/
inductive Device where
  /-- It takes whatever is written to it. -/
  | null
  /-- It never has room for an octet. -/
  | full
  deriving DecidableEq, Repr

/-- What stands at a place. -/
inductive Entry where
  | folder
  | file (content : Bytes)
  | link (target : String)
  | device (device : Device)
  deriving DecidableEq, Repr

/-- A **tree of files**: its entries with their places. The top folder is not listed. -/
structure Tree where
  /-- The entries. -/
  entries : List (Path × Entry)
  deriving DecidableEq, Repr

namespace Tree

/-- The tree with nothing in it. -/
def empty : Tree := ⟨[]⟩

/-- What stands at a place. -/
def get? (t : Tree) (p : Path) : Option Entry :=
  if p = [] then some .folder else t.entries.lookup p

/-- The tree with another entry at a place. -/
def put (t : Tree) (p : Path) (e : Entry) : Tree :=
  ⟨(p, e) :: t.entries.filter fun x => x.1 ≠ p⟩

/-- The tree without a place and what is below it. -/
def cut (t : Tree) (p : Path) : Tree := ⟨t.entries.filter fun x => !p.isPrefixOf x.1⟩

theorem lookup_filter (keep : Path → Bool) (xs : List (Path × Entry)) (q : Path) :
    (xs.filter fun x => keep x.1).lookup q = if keep q then xs.lookup q else none := by
  induction xs with
  | nil => simp
  | cons x xs ih =>
    obtain ⟨p, e⟩ := x
    by_cases hk : keep p <;> by_cases hq : q = p
    · subst hq; simp [hk]
    · have : (q == p) = false := by simpa using hq
      simp [hk, List.lookup_cons, this, ih]
    · subst hq; simp [hk, ih]
    · have : (q == p) = false := by simpa using hq
      simp [hk, List.lookup_cons, this, ih]

/-- **Only the place itself changes** when an entry is put there. -/
theorem get?_put (t : Tree) {p : Path} (e : Entry) (q : Path) (hp : p ≠ []) :
    (t.put p e).get? q = if q = p then some e else t.get? q := by
  unfold get? put
  by_cases h0 : q = []
  · subst h0; simp [Ne.symm hp]
  · by_cases hq : q = p
    · subst hq; simp [h0]
    · have hb : (q == p) = false := by simpa using hq
      have := lookup_filter (fun x => decide (x ≠ p)) t.entries q
      simp [h0, hq, List.lookup_cons, hb] at this ⊢
      exact this

/-- A place that was cut off **holds nothing**, nor does any place below it. -/
theorem get?_cut (t : Tree) {p : Path} (q : Path) (hp : p ≠ []) :
    (t.cut p).get? q = if p.isPrefixOf q then none else t.get? q := by
  unfold get? cut
  by_cases h0 : q = []
  · subst h0
    cases p with
    | nil => exact absurd rfl hp
    | cons a p => simp [List.isPrefixOf]
  · have := lookup_filter (fun x => !p.isPrefixOf x) t.entries q
    simp only [h0, if_false]
    rw [this]
    cases p.isPrefixOf q <;> simp

/-! ## Walking -/

/-- Where a path ends. -/
inductive Stop where
  /-- At an entry. -/
  | entry (place : Path) (entry : Entry)
  /-- In a folder that has no entry of the last name. -/
  | vacant (place : Path)
  deriving DecidableEq, Repr

/-- The number of octets that a name may have. -/
def maxName : Nat := 255

/-- The number of octets that a path may have. -/
def maxPath : Nat := 4095

/-- The number of links that a path may lead over. -/
def maxLinks : Nat := 40

/-- Where a link begins to be walked: at the top if its target begins with a slash, else in the
folder that holds it. -/
def linkStart (holder names : Path) : Path := if names.head? = some "" then [] else holder

/-- What a path is walked for. -/
inductive Purpose where
  /-- For the entry itself. A link behind the last name is not walked. -/
  | entry
  /-- For what is there. -/
  | content
  /-- For a file to be written. A slash behind its name says that a folder is meant. -/
  | writing
  deriving DecidableEq, Repr

/-- Whether names are the rest of a path that ends in a slash. -/
def isSlash (names : Path) : Bool := names ≠ [] && names.all (· == "")

/-- **Walks** from a place along names, over at most `links` links. -/
def walk (t : Tree) (purpose : Purpose) (links : Nat) (place : Path) (names : Path) :
    Except OsFault Stop :=
  match t.get? place, names with
  | some e, [] => .ok (.entry place e)
  | none, _ => .error .notFound
  | some .folder, name :: rest =>
    if name = "" ∨ name = "." then t.walk purpose links place rest
    else if name = ".." then t.walk purpose links place.dropLast rest
    else if purpose = .writing ∧ isSlash rest then .error .isADirectory
    else if maxName < name.utf8ByteSize then .error .nameTooLong
    else
      let next := place ++ [name]
      match t.get? next with
      | none => if rest = [] then .ok (.vacant next) else .error .notFound
      | some (.link target) =>
        if rest = [] ∧ purpose = .entry then .ok (.entry next (.link target))
        else match links with
          | 0 => .error .tooManyLinks
          | links + 1 =>
            t.walk purpose links (linkStart place (Path.ofText target))
              (Path.ofText target ++ rest)
      | some _ => t.walk purpose links next rest
  | some _, _ :: _ => .error .notADirectory
termination_by (links, names.length)

/-- Walks from the top along a path that is not too long. -/
def reach (t : Tree) (purpose : Purpose) (p : Path) : Except OsFault Stop :=
  if maxPath < p.size then .error .nameTooLong else t.walk purpose maxLinks [] p

/-- Walks from the top, over a link at the end too. -/
def find (t : Tree) (p : Path) : Except OsFault Stop := t.reach .content p

/-- Walks from the top to the entry itself, be it a link. -/
def locate (t : Tree) (p : Path) : Except OsFault Stop := t.reach .entry p

/-! ## Looking -/

/-- Whether a path leads to a folder. -/
def isFolder (t : Tree) (p : Path) : Bool :=
  match t.find p with
  | .ok (.entry _ .folder) => true
  | _ => false

/-- Whether a path leads to an entry, be it a link. -/
def exists? (t : Tree) (p : Path) : Bool :=
  match t.locate p with
  | .ok (.entry _ _) => true
  | _ => false

/-- The target of the link that a path leads to. -/
def target? (t : Tree) (p : Path) : Option String :=
  match t.locate p with
  | .ok (.entry _ (.link target)) => some target
  | _ => none

/-- **The content of the file** that a path leads to. -/
def read (t : Tree) (p : Path) : Except OsFault Bytes := do
  match ← t.find p with
  | .entry _ (.file content) => return content
  | .entry _ (.device _) => return []
  | .entry _ _ => throw .isADirectory
  | .vacant _ => throw .notFound

/-! ## Changing -/

/-- Makes an entry where there is none. A slash may stand behind the name of a folder. -/
def make (t : Tree) (p : Path) (e : Entry) : Except OsFault Tree := do
  match ← t.locate (if e = .folder then Path.withoutSlash p else p) with
  | .entry _ _ => throw .alreadyExists
  | .vacant place => return t.put place e

/-- **Makes a folder and the folders on the way to it**, as far as they are missing. The path is
given last name first. Folders that were made stay, also if the way breaks off later. -/
def makeFoldersUp (t : Tree) (reversed : Path) : Except OsFault Unit × Tree :=
  let p := reversed.reverse
  match t.make p .folder with
  | .ok t => (.ok (), t)
  | .error .notFound =>
    if h : reversed = [] then (.error .notFound, t)
    else
      have := Path.holderUp_lt h
      match t.makeFoldersUp (Path.holderUp reversed) with
      | (.error fault, t) => (.error fault, t)
      | (.ok (), t) =>
        match t.make p .folder with
        | .ok t => (.ok (), t)
        | .error fault => (if t.isFolder p then .ok () else .error fault, t)
  | .error fault => (if t.isFolder p then .ok () else .error fault, t)
termination_by reversed.length

@[inherit_doc makeFoldersUp]
def makeFolders (t : Tree) (p : Path) : Except OsFault Unit × Tree := t.makeFoldersUp p.reverse

/-- Changes the content of the file that a path leads to, which is made if it is missing. A device
is written to and stays as it is. -/
def modify (t : Tree) (p : Path) (f : Bytes → Bytes) : Except OsFault Tree := do
  match ← t.reach .writing p with
  | .entry place (.file content) => return t.put place (.file (f content))
  | .entry _ (.device .null) => return t
  | .entry _ (.device .full) => if f [] = [] then return t else throw .noSpace
  | .entry _ _ => throw .isADirectory
  | .vacant place => return t.put place (.file (f []))

/-- What a change tells and what it leaves: one that fails leaves the tree as it is. -/
def settle (t : Tree) : Except OsFault Tree → Except OsFault Unit × Tree
  | .ok t' => (.ok (), t')
  | .error fault => (.error fault, t)

/-- Removes the file or the link that a path leads to. -/
def removeFile (t : Tree) (p : Path) : Except OsFault Tree := do
  match ← t.locate p with
  | .entry _ .folder => throw .isADirectory
  | .entry place _ => return t.cut place
  | .vacant _ => throw .notFound

/-- Removes what a path leads to, a folder with all that is below it. -/
def remove (t : Tree) (p : Path) : Except OsFault Tree := do
  match ← t.locate p with
  | .entry place _ => return t.cut place
  | .vacant _ => throw .notFound

/-- The entries **below a folder**, by their ways from there. A folder comes before what is below
it, and otherwise the names decide. -/
def below (t : Tree) (p : Path) : List (Path × Entry) :=
  (t.entries.filterMap fun (q, e) =>
    if p.isPrefixOf q ∧ p.length < q.length then some (q.drop p.length, e) else none).mergeSort
      fun a b => Path.notAfter a.1 b.1

end Tree

end RecordRelay
