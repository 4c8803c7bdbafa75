import RecordRelay.Proofs.FileLog.Operations
import RecordRelay.Proofs.Run

/-!
# Histories of a log

Three things happen to a log. A message is **appended** at some instant; the log is **opened once
more** by its root, and forgets what it had set up; and somebody **removes the folder of a topic**,
with all that is in it, without telling the log. A history is any sequence of them.

Its trace says what became of each. From the trace alone it can be told what a folder ought to hold
of a day: the messages of that day that were stored in it since it was removed last, in order. Any
topic whose folder this is may have brought them.
-/

namespace RecordRelay

open Calendar (Day)

/-- The **date** of an instant: the number of its day. -/
def Instant.date (t : Instant) : Int := t.day.number

/-- The day of an instant has the date as its number, and no other day has. -/
theorem Instant.ofNumber_date (t : Instant) : Day.ofNumber t.date = t.day := by
  unfold Instant.date Instant.day
  rw [Day.number_ofNumber]

/-- If an instant can be told, so can its date. -/
theorem Instant.Told.isTold_date {t : Instant} (h : t.Told) :
    Instant.isTold (.ofNumber t.date) = true := by
  rw [t.ofNumber_date]
  exact h.day

namespace FileLog

/-! ## What is done, and what becomes of it -/

/-- What is **done** to a log. -/
inductive Deed where
  /-- A message is appended at an instant. -/
  | append (now : Instant) (s : Submission)
  /-- The log is opened once more. -/
  | reopen
  /-- The folder of a topic is removed. -/
  | remove (topic : String)
  deriving DecidableEq, Repr

/-- What **became** of it. -/
inductive Event where
  /-- A message was stored. -/
  | stored (now : Instant) (s : Submission)
  /-- A message was not stored. -/
  | refused (now : Instant) (s : Submission) (fault : OsFault)
  /-- The log was opened. -/
  | opened
  /-- A folder was there and was removed. -/
  | removed (folder : String)
  deriving DecidableEq, Repr

/-- **Does something** to a log. Only a log that cannot be opened stops a history; to remove a
folder that is not there is nothing. -/
def Deed.step : Deed → FileLog → Option (FileLog × List Event)
  | append now s, log =>
    match log.append now .whole s with
    | (.ok (), log) => some (log, [.stored now s])
    | (.error fault, log) => some (log, [.refused now s fault])
  | reopen, log =>
    match FileLog.start log.root log.tree with
    | (.ok (), log) => some (log, [.opened])
    | (.error _, _) => none
  | remove topic, log =>
    match log.tree.remove (topicFolder log.root topic) with
    | .ok t => some ({ log with tree := t }, [.removed (folderName topic)])
    | .error _ => some (log, [])

namespace Deed

variable {now : Instant} {s : Submission} {topic : String} {log log' : FileLog} {fault : OsFault}

/-- An append that succeeds stores its message. -/
theorem step_append_of_ok (h : log.append now .whole s = (.ok (), log')) :
    (append now s).step log = some (log', [.stored now s]) := by
  unfold step
  dsimp only
  rw [h]

/-- One that fails refuses it. -/
theorem step_append_of_error (h : log.append now .whole s = (.error fault, log')) :
    (append now s).step log = some (log', [.refused now s fault]) := by
  unfold step
  dsimp only
  rw [h]

/-- A log that can be opened is opened. -/
theorem step_reopen (h : FileLog.start log.root log.tree = (.ok (), log')) :
    reopen.step log = some (log', [.opened]) := by
  unfold step
  dsimp only
  rw [h]

/-- A folder that is there is removed. -/
theorem step_remove_of_ok {t : Tree} (h : log.tree.remove (topicFolder log.root topic) = .ok t) :
    (remove topic).step log = some ({ log with tree := t }, [.removed (folderName topic)]) := by
  unfold step
  dsimp only
  rw [h]

/-- Where there is none, nothing happens. -/
theorem step_remove_of_error (h : log.tree.remove (topicFolder log.root topic) = .error fault) :
    (remove topic).step log = some (log, []) := by
  unfold step
  dsimp only
  rw [h]

/-- What was stored is what was to be appended. -/
theorem eq_append_of_stored {deed : Deed} {es : List Event} (h : deed.step log = some (log', es))
    (hstored : .stored now s ∈ es) : deed = append now s := by
  cases deed with
  | append now' s' =>
    rw [step] at h
    split at h
    all_goals
      cases h
      cases List.mem_singleton.mp hstored
    rfl
  | reopen =>
    rw [step] at h
    split at h
    · cases h
      cases List.mem_singleton.mp hstored
    · cases h
  | remove topic =>
    rw [step] at h
    split at h
    · cases h
      cases List.mem_singleton.mp hstored
    · cases h
      cases hstored

end Deed

/-- The date of a deed, if it has one. -/
def Deed.date? : Deed → Option Int
  | append now _ => some now.date
  | reopen | remove _ => none

/-- The dates of stored messages are **among those of the deeds**. -/
theorem date_mem_of_exec {deeds : List Deed} {log log' : FileLog} {tr : List Event} {now : Instant}
    {s : Submission} (h : exec Deed.step deeds log = some (log', tr))
    (hstored : .stored now s ∈ tr) :
    now.date ∈ deeds.filterMap Deed.date? := by
  revert hstored
  refine exec_induction (motive := fun deeds _ tr => .stored now s ∈ tr →
    now.date ∈ deeds.filterMap Deed.date?) (fun h => nomatch h)
    (fun deeds log tr deed log' es _ ih hstep hstored => ?_) h
  rw [List.filterMap_append]
  obtain hstored | hstored := List.mem_append.mp hstored
  · exact List.mem_append_left _ (ih hstored)
  · rw [Deed.eq_append_of_stored hstep hstored]
    exact List.mem_append_right _ (List.mem_singleton_self _)

/-! ## How an append ends -/

/-- The path of a file in the folder of a topic. -/
theorem file_path {root : Path} {log : FileLog} (h : log.root = root) (topic file : String) :
    topicFolder log.root topic ++ [file] = root ++ [folderName topic, file] := by
  rw [h]
  exact List.append_assoc ..

section Append

variable {log log' : FileLog} {now : Instant} {s : Submission}
  (hactivate : log.activate s.topic (fileName now.day) = (.ok (), log'))
include hactivate

/-- Behind a topic that is set up, an append **is the writing of its line**, as far as it is
written. -/
theorem append_of_modify {write : Write} {t : Tree}
    (hmodify : log'.tree.modify (topicFolder log'.root s.topic ++ [fileName now.day])
      (· ++ write.kept ((Line.ofSubmission now s).toJson ++ [lineEnd])) = .ok t) :
    log.append now write s = (write.outcome, { log' with tree := t }) := by
  unfold append
  dsimp only
  rw [hactivate]
  dsimp only
  rw [hmodify]

/-- If there is no place for it the topic is **forgotten**. -/
theorem append_of_notFound
    (hmodify : log'.tree.modify (topicFolder log'.root s.topic ++ [fileName now.day])
      (· ++ ((Line.ofSubmission now s).toJson ++ [lineEnd])) = .error .notFound) :
    log.append now .whole s
      = (.error .notFound, { log' with active := log'.active.filter fun x => x.1 ≠ s.topic }) := by
  unfold append
  dsimp only
  rw [hactivate]
  dsimp only [Write.kept]
  rw [hmodify]

end Append

/-! ## What ought to be there -/

/-- What a folder holds of a day after an event. -/
def Event.keep (folder : String) (date : Int) (held : List (Instant × Submission)) :
    Event → List (Instant × Submission)
  | stored now s =>
    if folderName s.topic = folder ∧ now.date = date then held ++ [(now, s)] else held
  | removed name => if name = folder then [] else held
  | refused _ _ _ | opened => held

/-- The messages **kept in a folder for a day**: those of the day that were stored in it since it
was removed last, oldest first, with the instants at which they were stored. -/
def kept (folder : String) (date : Int) (tr : List Event) : List (Instant × Submission) :=
  tr.foldl (Event.keep folder date) []

section Kept

variable {folder : String} {date : Int} {tr : List Event}

/-- An event changes what is kept. -/
theorem kept_concat (tr : List Event) (e : Event) :
    kept folder date (tr ++ [e]) = e.keep folder date (kept folder date tr) := by
  unfold kept
  rw [List.foldl_append, List.foldl_cons, List.foldl_nil]

/-- A message that is stored in the folder on the day is kept there. -/
theorem kept_stored {now : Instant} {s : Submission} (hfolder : folderName s.topic = folder)
    (hdate : now.date = date) :
    kept folder date (tr ++ [.stored now s]) = kept folder date tr ++ [(now, s)] := by
  rw [kept_concat]
  exact if_pos ⟨hfolder, hdate⟩

/-- One that is stored elsewhere or on another day is not. -/
theorem kept_stored_of_not {now : Instant} {s : Submission}
    (h : ¬ (folderName s.topic = folder ∧ now.date = date)) :
    kept folder date (tr ++ [.stored now s]) = kept folder date tr := by
  rw [kept_concat]
  exact if_neg h

/-- What was refused is not kept. -/
@[simp]
theorem kept_refused (now : Instant) (s : Submission) (fault : OsFault) :
    kept folder date (tr ++ [.refused now s fault]) = kept folder date tr := kept_concat tr _

/-- To open the log takes nothing away. -/
@[simp]
theorem kept_opened : kept folder date (tr ++ [.opened]) = kept folder date tr := kept_concat tr _

/-- A folder that was removed keeps nothing. -/
@[simp]
theorem kept_removed : kept folder date (tr ++ [.removed folder]) = [] := by
  rw [kept_concat]
  exact if_pos rfl

/-- Other folders keep what they have. -/
theorem kept_removed_of_ne {name : String} (h : name ≠ folder) :
    kept folder date (tr ++ [.removed name]) = kept folder date tr := by
  rw [kept_concat]
  exact if_neg h

/-- What is kept **was stored**, and its topic has this folder. -/
theorem stored_of_mem_kept {m : Instant × Submission} (h : m ∈ kept folder date tr) :
    .stored m.1 m.2 ∈ tr ∧ folderName m.2.topic = folder := by
  induction tr using List.reverseRecOn with
  | nil => cases h
  | append_singleton tr e ih =>
    have hbefore (h : m ∈ kept folder date tr) :
        .stored m.1 m.2 ∈ tr ++ [e] ∧ folderName m.2.topic = folder :=
      ⟨List.mem_append_left _ (ih h).1, (ih h).2⟩
    rw [kept_concat] at h
    unfold Event.keep at h
    split at h
    · split at h
      · next hkept =>
        obtain h | h := List.mem_append.mp h
        · exact hbefore h
        · rw [List.mem_singleton.mp h]
          exact ⟨List.mem_append_right _ (List.mem_singleton_self _), hkept.1⟩
      · exact hbefore h
    · split at h
      · cases h
      · exact hbefore h
    · exact hbefore h
    · exact hbefore h

end Kept

/-- Whether **a line carries a message**: it says what is known of the message and when it was
stored, and what it holds as its payload restores the payload octet by octet. -/
structure Line.Carries (l : Line) (now : Instant) (s : Submission) : Prop where
  /-- The identifier. -/
  id : l.id = s.id.text
  /-- The topic, as it was given. -/
  topic : l.topic = s.topic
  /-- When the message was handed in. -/
  submittedAt : l.submittedAt = s.submittedAt
  /-- When it was stored. -/
  appendedAt : l.appendedAt = now
  /-- The content type. -/
  contentType : l.contentType = s.payload.contentType
  /-- The payload. -/
  body : l.body? = some s.payload.bytes

/-- The line that is written for a message carries it. -/
theorem Line.carries_ofSubmission (now : Instant) (s : Submission) :
    (Line.ofSubmission now s).Carries now s :=
  ⟨rfl, rfl, rfl, rfl, rfl, Line.body?_ofSubmission now s⟩

/-- Whether **a topic reads as certain messages**: it can be read, and its lines carry the messages,
one line for each of them and in their order. -/
def Reads (root : Path) (topic : String) (t : Tree) (messages : List (Instant × Submission)) :
    Prop :=
  ∃ ls, current root topic t = .ok ls ∧ List.Forall₂ (fun l m => l.Carries m.1 m.2) ls messages

namespace Ground

/-- Whether an append **stores its message**: it succeeds, and right after it the topic reads as the
messages that are kept in its folder for the day, this one last. -/
def Stores (g : Ground) (log : FileLog) (tr : List Event) (now : Instant) (s : Submission)
    (log' : FileLog) : Prop :=
  log.append now .whole s = (.ok (), log')
    ∧ Reads g.root s.topic log'.tree
      (kept (folderName s.topic) now.date (tr ++ [.stored now s]))

/-! ## What a history may be -/

/-- Whether the tree **takes a name** below the folder of a topic. -/
structure Takes (g : Ground) (topic name : String) : Prop where
  /-- The folder's name is short enough. -/
  folder_le : (folderName topic).utf8ByteSize ≤ Tree.maxName
  /-- The name itself is. -/
  name_le : name.utf8ByteSize ≤ Tree.maxName
  /-- So is the path. -/
  path_le : (g.root ++ [folderName topic, name]).size ≤ Tree.maxPath

instance (g : Ground) (topic name : String) : Decidable (g.Takes topic name) :=
  decidable_of_iff (_ ∧ _ ∧ _) ⟨fun ⟨hfolder, hname, hpath⟩ => ⟨hfolder, hname, hpath⟩,
    fun ⟨hfolder, hname, hpath⟩ => ⟨hfolder, hname, hpath⟩⟩

/-- Where a name is taken below a folder, the folder is. -/
theorem folder_path_le {g : Ground} {topic name : String} (h : g.Takes topic name) :
    (g.root ++ [folderName topic]).size ≤ Tree.maxPath := by
  have hpath := h.path_le
  rw [List.append_cons] at hpath
  exact Nat.le_trans (size_append_le _ _) hpath

/-- Whether a deed is one that **the tree and the calendar allow**: names are not too long, and
instants can be told. -/
def Allows (g : Ground) : Deed → Prop
  | .append now s =>
    g.Takes s.topic linkName ∧ g.Takes s.topic (fileName now.day) ∧ now.Told ∧ s.submittedAt.Told
  | .reopen => True
  | .remove topic => g.Takes topic linkName

instance (g : Ground) : DecidablePred g.Allows
  | .append now s => inferInstanceAs (Decidable (g.Takes s.topic linkName
      ∧ g.Takes s.topic (fileName now.day) ∧ now.Told ∧ s.submittedAt.Told))
  | .reopen => inferInstanceAs (Decidable True)
  | .remove topic => inferInstanceAs (Decidable (g.Takes topic linkName))

/-- Whether a history is **fair**: every deed is allowed, and the clock never goes back to an
earlier date. -/
structure Fair (g : Ground) (deeds : List Deed) : Prop where
  /-- Every deed is allowed. -/
  allowed : ∀ deed ∈ deeds, g.Allows deed
  /-- No date is before an earlier one. -/
  clock : (deeds.filterMap Deed.date?).Pairwise (· ≤ ·)

instance (g : Ground) (deeds : List Deed) : Decidable (g.Fair deeds) :=
  decidable_of_iff (_ ∧ _) ⟨fun ⟨hallowed, hclock⟩ => ⟨hallowed, hclock⟩,
    fun ⟨hallowed, hclock⟩ => ⟨hallowed, hclock⟩⟩

end Ground

end FileLog

end RecordRelay
