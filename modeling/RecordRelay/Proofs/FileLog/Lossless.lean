import RecordRelay.Proofs.FileLog.Agreement
import Mathlib.Data.List.Forall2

/-!
# The log loses nothing

After any fair history on an empty root an append ends in one of two ways.

It stores its message, and then the topic reads as exactly the messages that are kept in its folder
for the day, the new one last. Or it is refused; then the folder was removed since this log set the
topic up for that day, nothing was written, and the next append to the topic puts things right
again.

No third way is possible, since a log that agrees with its history meets a folder that is gone only
if it was removed, and forgets the topic when it does.
-/

namespace RecordRelay.FileLog

open Calendar (Day)

variable {g : Ground} {log log' : FileLog} {tr : List Event} {topic : String} {now : Instant}
  {s : Submission}

/-! ## Reading what is kept -/

/-- **A topic reads as what is kept** in its folder for the day that the link leads to. -/
theorem Agrees.reads (h : Agrees g log tr) (hlink : g.Takes topic linkName)
    (hfile : g.Takes topic (fileName now.day)) (hnow : now.Told)
    (hholds : g.Holds log.tree (folderName topic) (some now.date)
      (linesIn (folderName topic) tr)) :
    Reads g.root topic log.tree (kept (folderName topic) now.date tr) := by
  rw [← now.ofNumber_date] at hfile
  have hleads : ∀ d ∈ some now.date, Instant.isTold (.ofNumber d) = true
      ∧ (fileName (.ofNumber d)).utf8ByteSize ≤ Tree.maxName := by
    rintro _ ⟨⟩
    exact ⟨hnow.isTold_date, hfile.name_le⟩
  refine ⟨linesIn (folderName topic) tr now.date, ?_, ?_⟩
  · exact (Ground.Found.holds hholds).current_eq h.tree hlink hleads (dated_linesIn h.told _)
  · unfold linesIn
    rw [List.forall₂_map_left_iff, List.forall₂_same]
    exact fun m _ => Line.carries_ofSubmission m.1 m.2

/-! ## One append -/

section Append

variable (h : Agrees g log tr) (hallowed : g.Allows (.append now s))
  (hclock : ∀ now' s', .stored now' s' ∈ tr → now'.date ≤ now.date)
include h hallowed hclock

/-- In a folder that is set up the message is stored, and all that is kept is read. -/
theorem stores_of_holds {active : List (String × String)} {t : Tree}
    (hactivate : log.activate s.topic (fileName now.day)
      = (.ok (), { log with active := active, tree := t }))
    (hactive : ∀ topic file, topic ≠ s.topic → active.lookup topic = some file →
      log.active.lookup topic = some file)
    (hfile : active.lookup s.topic = some (fileName now.day))
    (hsame : g.SameElsewhere (folderName s.topic) log.tree t)
    (hholds : g.Holds t (folderName s.topic) (some now.date) (linesIn (folderName s.topic) tr)) :
    ∃ log', g.Stores log tr now s log' ∧ Agrees g log' (tr ++ [.stored now s]) := by
  obtain ⟨log', happend, hagrees, hholds'⟩ :=
    h.append_of_holds hclock hallowed hactivate hactive hfile hsame hholds
  obtain ⟨hlink, hfileTaken, hnow, -⟩ := hallowed
  exact ⟨log', ⟨happend,
    hagrees.reads hlink hfileTaken hnow hholds'⟩, hagrees⟩

/-- **An append to a topic that is not set up for the day succeeds.** -/
theorem append_of_new (hlookup : log.active.lookup s.topic ≠ some (fileName now.day)) :
    ∃ log', g.Stores log tr now s log' ∧ Agrees g log' (tr ++ [.stored now s]) := by
  rw [← now.ofNumber_date] at hlookup
  obtain ⟨t, hactivate, hsame, hholds⟩ := h.activate hallowed.1 hlookup
  rw [now.ofNumber_date] at hactivate
  refine stores_of_holds h hallowed hclock hactivate (fun topic file hne hfile => ?_)
    ?_ hsame hholds
  · rw [List.lookup_cons, beq_false_of_ne hne] at hfile
    dsimp only at hfile
    rwa [lookup_forget, if_neg hne] at hfile
  · rw [List.lookup_cons, beq_self_eq_true]

/-- **An append to a topic that is set up** succeeds as well, or the folder is gone. -/
theorem append_of_known (hlookup : log.active.lookup s.topic = some (fileName now.day)) :
    (∃ log', g.Stores log tr now s log' ∧ Agrees g log' (tr ++ [.stored now s]))
    ∨ ∃ log', log.append now .whole s = (.error .notFound, log')
      ∧ Agrees g log' (tr ++ [.refused now s .notFound])
      ∧ log'.tree = log.tree ∧ log'.active.lookup s.topic = none
      ∧ RemovedSince tr s.topic now.date := by
  have hday : ∀ e, fileName now.day = fileName (.ofNumber e) →
      Instant.isTold (.ofNumber e) = true → e = now.date := fun e hname htold => by
    rw [Instant.date, eq_of_fileName_eq hallowed.2.2.1.day htold hname, Day.number_ofNumber]
  cases h.folders (folderName s.topic) with
  | gone habsent _ hremembers =>
    obtain ⟨e, after, hname, htold, hset, hremoved⟩ := hremembers s.topic _ rfl hlookup
    obtain ⟨log', happend, hagrees, htree, hforgotten⟩ :=
      h.append_of_absent hallowed hlookup habsent
    rw [hday e hname htold] at hset
    exact .inr ⟨log', happend, hagrees, htree, hforgotten, after, hset, hremoved⟩
  | there now' s' hstored hholds hremembers =>
    -- the link leads to no earlier day, because of what is remembered, and to no later one
    obtain ⟨e, -, hname, htold, -, hle⟩ := hremembers s.topic _ rfl hlookup
    rw [hday e hname htold] at hle
    rw [Int.le_antisymm (hclock now' s' hstored) hle] at hholds
    exact .inl (stores_of_holds h hallowed hclock (if_pos hlookup) (fun _ _ _ hfile => hfile)
      hlookup (.refl g _ log.tree) hholds)

/-- **However an append ends**: its message is stored, or the folder is gone. -/
theorem append_ends :
    (∃ log', g.Stores log tr now s log' ∧ Agrees g log' (tr ++ [.stored now s]))
    ∨ ∃ log', log.append now .whole s = (.error .notFound, log')
      ∧ Agrees g log' (tr ++ [.refused now s .notFound])
      ∧ log'.tree = log.tree ∧ log'.active.lookup s.topic = none
      ∧ RemovedSince tr s.topic now.date := by
  by_cases hlookup : log.active.lookup s.topic = some (fileName now.day)
  · exact append_of_known h hallowed hclock hlookup
  · exact .inl (append_of_new h hallowed hclock hlookup)

end Append

/-! ## Histories -/

/-- A history that is fair was fair before. -/
theorem Ground.Fair.before {deeds more : List Deed} (h : g.Fair (deeds ++ more)) :
    g.Fair deeds where
  allowed deed hdeed := h.allowed deed (List.mem_append_left more hdeed)
  clock := by
    have hclock := h.clock
    rw [List.filterMap_append] at hclock
    exact (List.pairwise_append.mp hclock).1

section Last

variable {deeds : List Deed} {deed : Deed} (h : g.Fair (deeds ++ [deed]))
include h

/-- The last deed of a fair history is allowed. -/
theorem Ground.Fair.last : g.Allows deed :=
  h.allowed deed (List.mem_append_right deeds (List.mem_singleton_self deed))

/-- It comes on no earlier day than any message that **was stored before**. -/
theorem Ground.Fair.le_last {log₀ : FileLog} (hexec : exec Deed.step deeds log₀ = some (log, tr))
    {date : Int} (hdate : deed.date? = some date) {now : Instant} {s : Submission}
    (hstored : .stored now s ∈ tr) : now.date ≤ date := by
  have hclock := h.clock
  rw [List.filterMap_append, List.filterMap_cons_some hdate] at hclock
  exact (List.pairwise_append.mp hclock).2.2 _ (date_mem_of_exec hexec hstored) date
    List.mem_cons_self

end Last

/-- **Every deed that is allowed can be done, and keeps the agreement**, if an append comes on no
earlier day than any message that is stored. -/
theorem Agrees.step {deed : Deed} (h : Agrees g log tr) (hallowed : g.Allows deed)
    (hclock : ∀ {date}, deed.date? = some date →
      ∀ {now s}, .stored now s ∈ tr → now.date ≤ date) :
    ∃ log' es, deed.step log = some (log', es) ∧ Agrees g log' (tr ++ es) := by
  cases deed with
  | append now s =>
    obtain ⟨log', ⟨happend, -⟩, hagrees⟩ | ⟨log', happend, hagrees, -⟩ :=
      append_ends h hallowed fun _ _ => hclock rfl
    · exact ⟨log', _, Deed.step_append_of_ok happend, hagrees⟩
    · exact ⟨log', _, Deed.step_append_of_error happend, hagrees⟩
  | reopen =>
    obtain ⟨log', hstep, hagrees⟩ := h.reopen
    exact ⟨log', _, hstep, hagrees⟩
  | remove topic => exact h.remove hallowed

/-- A fair history can be gone through, and **the log agrees with what became of it**. The induction
is on the history, last deed first. -/
theorem exec_agrees {deeds : List Deed} (hfair : g.Fair deeds) :
    ∃ log tr, exec Deed.step deeds g.opened = some (log, tr) ∧ Agrees g log tr := by
  induction deeds using List.reverseRecOn with
  | nil => exact ⟨g.opened, [], rfl, agrees_opened g⟩
  | append_singleton deeds deed ih =>
    obtain ⟨log, tr, hexec, hagrees⟩ := ih hfair.before
    obtain ⟨log', es, hstep, hagrees'⟩ := hagrees.step hfair.last (hfair.le_last hexec)
    exact ⟨log', tr ++ es, exec_concat hexec hstep, hagrees'⟩

/-- **The log loses nothing, keeps the order and repairs itself.** The log is opened on an empty
root, and any fair history follows. Then an append either succeeds, and the topic reads as all
messages kept in its folder for the day, the new one last. Or it fails; then the folder was removed
since this log stored a message of the topic on that day, nothing is written, and if the topic is
appended to next, that succeeds and can be read. -/
theorem reads_or_repairs (g : Ground) (deeds : List Deed) (now : Instant) (s : Submission)
    (hfair : g.Fair (deeds ++ [.append now s])) :
    FileLog.start g.root g.tree = (.ok (), g.opened)
    ∧ ∃ log tr, exec Deed.step deeds g.opened = some (log, tr)
      ∧ ((∃ log', g.Stores log tr now s log')
        ∨ ∃ fault log', log.append now .whole s = (.error fault, log')
          ∧ log'.tree = log.tree
          ∧ RemovedSince tr s.topic now.date
          ∧ ∀ now' s', s'.topic = s.topic →
            g.Fair (deeds ++ [.append now s] ++ [.append now' s']) →
            ∃ log'', g.Stores log' (tr ++ [.refused now s fault]) now' s' log'') := by
  obtain ⟨log, tr, hexec, hagrees⟩ := exec_agrees hfair.before
  refine ⟨Ground.start_eq (Tree.Extends.refl g.tree), log, tr, hexec, ?_⟩
  obtain ⟨log', hstores, -⟩ | ⟨log', happend, hagrees', htree, hforgotten, hremoved⟩ :=
    append_ends hagrees hfair.last fun _ _ => hfair.le_last hexec rfl
  · exact .inl ⟨log', hstores⟩
  · refine .inr ⟨.notFound, log', happend, htree, hremoved, fun now' s' htopic hfair' => ?_⟩
    -- the topic was forgotten, so the next append sets it up again
    have hlookup : log'.active.lookup s'.topic ≠ some (fileName now'.day) := by
      rw [htopic, hforgotten]
      exact (Option.some_ne_none _).symm
    have hexec' := exec_concat hexec (Deed.step_append_of_error happend)
    obtain ⟨log'', hstores, -⟩ := append_of_new hagrees' hfair'.last
      (fun _ _ => hfair'.le_last hexec' rfl) hlookup
    exact ⟨log'', hstores⟩

/-- A folder below the top with nothing in it. -/
def Ground.belowTop : Ground where
  root := ["", "log"]
  place := ["log"]
  tree := ⟨[(["log"], .folder)]⟩
  leads := by
    rw [Tree.walk_here rfl (.inl rfl), Tree.walk_name rfl ⟨by decide, by decide, by decide⟩
      (by decide) (by simp) rfl, Tree.walk_nil rfl]
    rfl
  bare names h := by
    obtain ⟨name, names, rfl⟩ := List.exists_cons_of_ne_nil h
    simp [Tree.get?]
  fits := by decide

/-- Two topics share a folder, one of them with octets that are no text. Then the log is opened once
more, the next day comes, and the folder is removed. -/
def sharedFolder : List Deed :=
  [.append ⟨86399, 0⟩ ⟨⟨"first"⟩, "a/b", ⟨.json, Bytes.ofString "\x7b\x7d"⟩, ⟨86398, 0⟩⟩,
    .append ⟨0, 0⟩ ⟨⟨"second"⟩, "a b", ⟨.protobuf, [0xFF, 0x0A]⟩, ⟨0, 0⟩⟩,
    .reopen,
    .append ⟨86400, 0⟩ ⟨⟨"third"⟩, "a b", ⟨.json, []⟩, ⟨86400, 0⟩⟩,
    .remove "a/b"]

/-- What is appended next. -/
def nextDay : Submission := ⟨⟨"fourth"⟩, "a b", ⟨.json, [0x0A]⟩, ⟨86400, 0⟩⟩

/-- After that history the one or the other becomes of the next append. -/
theorem reads_or_repairs_shared_folder :
    Ground.belowTop.Fair (sharedFolder ++ [.append ⟨86401, 0⟩ nextDay])
    ∧ Ground.belowTop.Fair
      (sharedFolder ++ [.append ⟨86401, 0⟩ nextDay] ++ [.append ⟨86401, 0⟩ nextDay])
    ∧ ∃ log tr, exec Deed.step sharedFolder Ground.belowTop.opened = some (log, tr)
      ∧ ((∃ log', Ground.belowTop.Stores log tr ⟨86401, 0⟩ nextDay log')
        ∨ ∃ fault log', log.append ⟨86401, 0⟩ .whole nextDay = (.error fault, log')
          ∧ log'.tree = log.tree
          ∧ RemovedSince tr "a b" 1
          ∧ ∃ log'', Ground.belowTop.Stores log' (tr ++ [.refused ⟨86401, 0⟩ nextDay fault])
            ⟨86401, 0⟩ nextDay log'') := by
  have hfair : Ground.belowTop.Fair
      (sharedFolder ++ [.append ⟨86401, 0⟩ nextDay] ++ [.append ⟨86401, 0⟩ nextDay]) := by decide
  obtain ⟨-, log, tr, hexec, h⟩ := reads_or_repairs Ground.belowTop sharedFolder ⟨86401, 0⟩ nextDay
    hfair.before
  refine ⟨hfair.before, hfair, log, tr, hexec, h.imp_right ?_⟩
  rintro ⟨fault, log', happend, htree, hremoved, hnext⟩
  exact ⟨fault, log', happend, htree, hremoved, hnext _ nextDay rfl hfair⟩

end RecordRelay.FileLog
