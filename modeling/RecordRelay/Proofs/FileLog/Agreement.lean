import RecordRelay.Proofs.FileLog.History

/-!
# A log agrees with its history

A folder **stands** in one of two ways. It is not there, and its history keeps nothing in it. Or it
is there, holds for every day the lines of the messages that are kept for the day, and its link
leads to the file of a day that is not before any day for which the log remembers one of its topics.

What the log remembers of a topic it has from a message that it stored itself since it was opened
last. If the folder is gone nevertheless, it was removed after that message. This is why an append
that meets no folder tells something: it can only be the first one after such a removal.

Every deed keeps this up. An append to a topic that was set up for the day finds the link leading
there: it leads to no earlier day because of what is remembered, and to no later one because of the
clock.
-/

namespace RecordRelay.FileLog

open Calendar (Day)

variable {g : Ground} {log log' : FileLog} {tr after es : List Event} {topic file f : String}
  {date : Int} {now : Instant} {s : Submission}

/-! ## What is remembered -/

/-- Whether a topic **was set up** for a date at a message that the log stored; `after` is what
happened since, and the log was not opened once more. -/
structure SetUp (tr after : List Event) (topic : String) (date : Int) : Prop where
  /-- A message of the topic was stored on the day. -/
  stored : ∃ before now s, tr = before ++ .stored now s :: after ∧ s.topic = topic ∧ now.date = date
  /-- It was this log that stored it. -/
  same : .opened ∉ after

/-- A topic that was set up stays so until the log is opened. -/
theorem SetUp.later (h : SetUp tr after topic date) (hes : .opened ∉ es) :
    SetUp (tr ++ es) (after ++ es) topic date := by
  obtain ⟨⟨before, now, s, rfl, htopic, hdate⟩, hsame⟩ := h
  refine ⟨⟨before, now, s, List.append_assoc .., htopic, hdate⟩, fun hmem => ?_⟩
  exact (List.mem_append.mp hmem).elim hsame hes

/-- A topic is set up for no day that is after all days on which messages were stored. -/
theorem SetUp.le (h : SetUp tr after topic date) {latest : Int}
    (hclock : ∀ now s, .stored now s ∈ tr → now.date ≤ latest) : date ≤ latest := by
  obtain ⟨before, now, s, rfl, -, rfl⟩ := h.stored
  exact hclock now s (List.mem_append_right before List.mem_cons_self)

/-- Whether a topic was set up for a date and **its folder was removed since**. -/
def RemovedSince (tr : List Event) (topic : String) (date : Int) : Prop :=
  ∃ after, SetUp tr after topic date ∧ .removed (folderName topic) ∈ after

/-- Whether all that a log **remembers** of a folder's topics it has from messages that it stored,
and something is true of their days and of what happened since. -/
def Remembers (log : FileLog) (tr : List Event) (f : String) (since : Int → List Event → Prop) :
    Prop :=
  ∀ topic file, folderName topic = f → log.active.lookup topic = some file →
    ∃ e after, file = fileName (.ofNumber e) ∧ Instant.isTold (.ofNumber e) = true
      ∧ SetUp tr after topic e ∧ since e after

/-- What is remembered later was remembered before. -/
theorem Remembers.later {since since' : Int → List Event → Prop} (h : Remembers log tr f since)
    (hactive : ∀ topic file, folderName topic = f → log'.active.lookup topic = some file →
      log.active.lookup topic = some file)
    (hes : .opened ∉ es) (hsince : ∀ e after, since e after → since' e (after ++ es)) :
    Remembers log' (tr ++ es) f since' := by
  intro topic file hf hfile
  obtain ⟨e, after, hname, htold, hset, hafter⟩ := h topic file hf (hactive topic file hf hfile)
  exact ⟨e, after ++ es, hname, htold, hset.later hes, hsince e after hafter⟩

/-- A log that was just opened remembers nothing. -/
theorem Remembers.of_nil (hactive : log.active = []) (since : Int → List Event → Prop) :
    Remembers log tr f since := by
  intro topic file _ hfile
  rw [hactive] at hfile
  cases hfile

/-- What is left when a topic is forgotten. -/
theorem lookup_forget (active : List (String × String)) (topic topic' : String) :
    (active.filter fun x => x.1 ≠ topic).lookup topic'
      = if topic' = topic then none else active.lookup topic' := by
  induction active with
  | nil => exact (ite_self none).symm
  | cons x active ih =>
    rw [List.filter_cons, List.lookup_cons]
    by_cases hx : x.1 = topic
    · rw [if_neg (by simpa using hx), ih]
      split
      · rfl
      · next hne => rw [beq_false_of_ne fun he => hne (he.trans hx)]
    · rw [if_pos (by simpa using hx), List.lookup_cons, ih]
      split
      · next he => rw [if_neg fun h => hx ((beq_iff_eq.mp he).symm.trans h)]
      · rfl

/-! ## How folders are found -/

/-- How **a folder is found**: it is not there and nothing ought to be in it, or it holds what it
ought to. -/
inductive Ground.Found (g : Ground) (t : Tree) (f : String) : Option Int → (Int → List Line) → Prop
  | absent {lines : Int → List Line} (absent : g.Absent t f) (nothing : ∀ d, lines d = []) :
    g.Found t f none lines
  | holds {linked : Option Int} {lines : Int → List Line} (holds : g.Holds t f linked lines) :
    g.Found t f linked lines

namespace Ground.Found

variable {linked : Option Int} {lines : Int → List Line}

/-- **At first** no folder is there. -/
theorem opened (g : Ground) (f : String) : g.Found g.opened.tree f none fun _ => [] :=
  .absent (fun names => g.bare _ (List.cons_ne_nil f names)) fun _ => rfl

/-- A folder that is left alone is found as before. -/
theorem of_sameIn {t t' : Tree} (h : g.Found t f linked lines) (hsame : g.SameIn f t t') :
    g.Found t' f linked lines := by
  cases h with
  | absent habsent hnothing => exact .absent (habsent.of_sameIn hsame) hnothing
  | holds hholds => exact .holds (hholds.of_sameIn hsame)

/-- **After its folder is made** a topic's folder is there, and holds what it held. -/
theorem makeFolders {t : Tree} (h : g.Found t (folderName topic) linked lines)
    (ht : t.Extends g.tree) (hlink : g.Takes topic linkName) :
    ∃ t', t.makeFolders (g.root ++ [folderName topic]) = (.ok (), t')
      ∧ g.SameElsewhere (folderName topic) t t' ∧ g.Holds t' (folderName topic) linked lines := by
  have hf := isOrdinary_folderName hlink.folder_le
  have hsize := Ground.folder_path_le hlink
  cases h with
  | absent habsent hnothing => exact Ground.makeFolders_of_absent ht hf hsize habsent hnothing
  | holds hholds =>
    exact ⟨t, Ground.makeFolders_of_holds ht hf hsize hholds, .refl g _ t, hholds⟩

/-- **Setting a topic up** makes its folder, if there is none, and points the link to the file of
the day. -/
theorem activate (h : g.Found log.tree (folderName topic) linked lines) (hroot : log.root = g.root)
    (ht : log.tree.Extends g.tree) (hlink : g.Takes topic linkName)
    (hlookup : log.active.lookup topic ≠ some (fileName (.ofNumber date))) :
    ∃ t, log.activate topic (fileName (.ofNumber date)) = (.ok (), { log with
        active := (topic, fileName (.ofNumber date)) :: log.active.filter fun x => x.1 ≠ topic
        tree := t })
      ∧ g.SameElsewhere (folderName topic) log.tree t
      ∧ g.Holds t (folderName topic) (some date) lines := by
  obtain ⟨t₁, hmake, hsame, hholds⟩ := h.makeFolders ht hlink
  -- wherever the link led before, it leads to the file of the day now
  obtain ⟨t₂, hpoint, hsame', hholds'⟩ :=
    Ground.point_of_holds (hsame.extends ht) (isOrdinary_folderName hlink.folder_le)
      hlink.path_le hholds date
  refine ⟨t₂, ?_, hsame.trans hsame', hholds'⟩
  have hlinkPath : topicLink g.root topic = g.root ++ [folderName topic, linkName] :=
    List.append_assoc ..
  unfold FileLog.activate
  rw [if_neg hlookup, hroot]
  dsimp only [topicFolder]
  rw [hmake]
  dsimp only
  rw [hlinkPath, hpoint]

/-- **A topic reads as what its link leads to**, and as nothing if there is no link, or nothing for
it to lead to. -/
theorem current_eq {t : Tree} (h : g.Found t (folderName topic) linked lines)
    (ht : t.Extends g.tree) (hlink : g.Takes topic linkName)
    (hleads : ∀ d ∈ linked, Instant.isTold (.ofNumber d) = true
      ∧ (fileName (.ofNumber d)).utf8ByteSize ≤ Tree.maxName)
    (hdated : ∀ d, ∀ l ∈ lines d, l.Dated) :
    current g.root topic t = .ok (linked.elim [] lines) := by
  have hf := isOrdinary_folderName hlink.folder_le
  have hpath : topicLink g.root topic = g.root ++ [folderName topic, linkName] :=
    List.append_assoc ..
  unfold current
  rw [hpath]
  cases h with
  | absent habsent hnothing =>
    rw [Ground.read_of_unlinked ht hf hlink.path_le (.inl habsent)]
    rfl
  | holds hholds =>
    cases linked with
    | none =>
      rw [Ground.read_of_unlinked ht hf hlink.path_le (.inr ⟨lines, hholds⟩)]
      rfl
    | some date =>
      obtain ⟨htold, hname⟩ := hleads date rfl
      have hfile := hholds.files date htold
      have hread := Ground.read_of_link ht hf (isOrdinary_fileName hname) hlink.path_le
        hholds.folder hholds.link
      rw [Ground.fileOf] at hfile
      by_cases hempty : lines date = []
      · rw [if_pos hempty] at hfile
        rw [hread.2 hfile, Option.elim_some, hempty]
      · rw [if_neg hempty] at hfile
        rw [hread.1 _ hfile]
        exact readLines_written (hdated date)

/-- **To remove a folder** does nothing if it is not there, and otherwise it is gone. -/
theorem remove (h : g.Found log.tree (folderName topic) linked lines) (hroot : log.root = g.root)
    (ht : log.tree.Extends g.tree) (hlink : g.Takes topic linkName) :
    (Deed.remove topic).step log = some (log, [])
    ∨ ∃ t, (Deed.remove topic).step log
        = some ({ log with tree := t }, [.removed (folderName topic)])
      ∧ g.SameElsewhere (folderName topic) log.tree t ∧ g.Absent t (folderName topic) := by
  have hf := isOrdinary_folderName hlink.folder_le
  have hsize := Ground.folder_path_le hlink
  have hpath : topicFolder log.root topic = g.root ++ [folderName topic] := by
    rw [hroot]
    rfl
  cases h with
  | absent habsent _ =>
    have hremove := Ground.remove_of_absent ht hf hsize habsent
    rw [← hpath] at hremove
    exact .inl (Deed.step_remove_of_error hremove)
  | holds hholds =>
    obtain ⟨t, hremove, hsame, habsent⟩ := Ground.remove_of_holds ht hf hsize hholds
    rw [← hpath] at hremove
    exact .inr ⟨t, Deed.step_remove_of_ok hremove, hsame, habsent⟩

end Ground.Found

/-- **An append to a folder that is there** writes its line, once the topic is set up. -/
theorem Ground.Holds.append {active : List (String × String)} {t : Tree} {linked : Option Int}
    {lines : Int → List Line} (h : g.Holds t (folderName s.topic) linked lines)
    (hroot : log.root = g.root) (ht : t.Extends g.tree) (hallowed : g.Allows (.append now s))
    (hactivate : log.activate s.topic (fileName now.day)
      = (.ok (), { log with active := active, tree := t })) :
    ∃ t', log.append now .whole s = (.ok (), { log with active := active, tree := t' })
      ∧ g.SameElsewhere (folderName s.topic) t t'
      ∧ g.Holds t' (folderName s.topic) linked fun d =>
        if d = now.date then lines d ++ [Line.ofSubmission now s] else lines d := by
  obtain ⟨hlinkTaken, hfileTaken, hnow, -⟩ := hallowed
  rw [← now.ofNumber_date] at hfileTaken
  obtain ⟨t', hmodify, hsame, hholds⟩ := Ground.modify_of_holds ht
    (isOrdinary_folderName hlinkTaken.folder_le) (isOrdinary_fileName hfileTaken.name_le)
    hfileTaken.path_le hnow.isTold_date h (Line.ofSubmission now s)
  rw [now.ofNumber_date, ← file_path hroot] at hmodify
  exact ⟨t', append_of_modify hactivate hmodify, hsame, hholds⟩

/-- **An append to a folder that is gone** writes nothing, and a topic that was set up is
forgotten. -/
theorem Ground.Absent.append (h : g.Absent log.tree (folderName s.topic))
    (hroot : log.root = g.root) (ht : log.tree.Extends g.tree)
    (hallowed : g.Allows (.append now s))
    (hlookup : log.active.lookup s.topic = some (fileName now.day)) :
    log.append now .whole s
      = (.error .notFound, { log with active := log.active.filter fun x => x.1 ≠ s.topic }) := by
  obtain ⟨hlinkTaken, hfileTaken, -, -⟩ := hallowed
  rw [← now.ofNumber_date] at hfileTaken
  have hmodify := Ground.modify_of_absent ht (isOrdinary_folderName hlinkTaken.folder_le)
    (isOrdinary_fileName hfileTaken.name_le) hfileTaken.path_le h
    (· ++ ((Line.ofSubmission now s).toJson ++ [lineEnd]))
  rw [now.ofNumber_date, ← file_path hroot] at hmodify
  exact append_of_notFound (if_pos hlookup) hmodify

/-! ## How folders stand -/

/-- The lines of the messages that are kept in a folder. -/
def linesIn (f : String) (tr : List Event) (date : Int) : List Line :=
  (kept f date tr).map fun m => Line.ofSubmission m.1 m.2

/-- They are the same as long as the same is kept. -/
theorem linesIn_congr (hkept : ∀ d, kept f d (tr ++ es) = kept f d tr) :
    linesIn f (tr ++ es) = linesIn f tr := by
  funext d
  unfold linesIn
  rw [hkept]

/-- A stored message adds its line to its day. -/
theorem linesIn_stored (now : Instant) (s : Submission) (tr : List Event) :
    linesIn (folderName s.topic) (tr ++ [.stored now s]) = fun d =>
      if d = now.date then linesIn (folderName s.topic) tr d ++ [Line.ofSubmission now s]
      else linesIn (folderName s.topic) tr d := by
  funext d
  unfold linesIn
  split
  · next hd => rw [kept_stored rfl hd.symm, List.map_append, List.map_singleton]
  · next hd => rw [kept_stored_of_not fun h => hd h.2.symm]

/-- They can be read, as far as the instants of stored messages can be told. -/
theorem dated_linesIn (htold : ∀ now s, .stored now s ∈ tr → now.Told ∧ s.submittedAt.Told)
    (f : String) (date : Int) : ∀ l ∈ linesIn f tr date, l.Dated := by
  intro l hl
  obtain ⟨m, hm, rfl⟩ := List.mem_map.mp hl
  obtain ⟨hnow, hs⟩ := htold m.1 m.2 (stored_of_mem_kept hm).1
  exact ⟨hs, hnow⟩

/-- How **a folder stands**. -/
inductive Stands (g : Ground) (log : FileLog) (tr : List Event) (f : String) : Prop where
  /-- It is not there, and was removed since any topic that is remembered was set up. -/
  | gone (absent : g.Absent log.tree f) (nothing : ∀ d, kept f d tr = [])
      (remembers : Remembers log tr f fun _ after => .removed f ∈ after)
  /-- It is there, and its link leads to the file of a day on or after which any topic that is
  remembered was set up. -/
  | there (now : Instant) (s : Submission) (stored : .stored now s ∈ tr)
      (holds : g.Holds log.tree f (some now.date) (linesIn f tr))
      (remembers : Remembers log tr f fun e _ => e ≤ now.date)

/-- However it stands, what is remembered is from messages that were stored. -/
theorem Stands.remembers (h : Stands g log tr f) : Remembers log tr f fun _ _ => True := by
  intro topic file hf hfile
  cases h with
  | gone _ _ hremembers | there _ _ _ _ hremembers =>
    obtain ⟨e, after, hname, htold, hset, -⟩ := hremembers topic file hf hfile
    exact ⟨e, after, hname, htold, hset, trivial⟩

/-- However it stands, it is found so. -/
theorem Stands.found (h : Stands g log tr f) :
    ∃ linked, g.Found log.tree f linked (linesIn f tr) := by
  cases h with
  | gone habsent hnothing _ =>
    exact ⟨none, .absent habsent fun d => by rw [linesIn, hnothing, List.map_nil]⟩
  | there now s _ hholds _ => exact ⟨some now.date, .holds hholds⟩

/-- A folder that is left alone goes on standing. -/
theorem Stands.untouched (h : Stands g log tr f) (hsame : g.SameIn f log.tree log'.tree)
    (hactive : ∀ topic file, folderName topic = f → log'.active.lookup topic = some file →
      log.active.lookup topic = some file)
    (hes : .opened ∉ es) (hkept : ∀ d, kept f d (tr ++ es) = kept f d tr) :
    Stands g log' (tr ++ es) f := by
  cases h with
  | gone habsent hnothing hremembers =>
    exact .gone (habsent.of_sameIn hsame) (fun d => (hkept d).trans (hnothing d))
      (hremembers.later hactive hes fun _ after h => List.mem_append_left es h)
  | there now s hstored hholds hremembers =>
    refine .there now s (List.mem_append_left es hstored) ?_
      (hremembers.later hactive hes fun _ _ h => h)
    rw [linesIn_congr hkept]
    exact hholds.of_sameIn hsame

/-- **What is remembered of the folder of a message that was just stored**: the topic of the message
as of today, and other topics of the folder as of days that were no later. -/
theorem Stands.remembers_stored (h : Stands g log tr (folderName s.topic))
    (hclock : ∀ now' s', .stored now' s' ∈ tr → now'.date ≤ now.date) (hnow : now.Told)
    (hactive : ∀ topic file, topic ≠ s.topic → log'.active.lookup topic = some file →
      log.active.lookup topic = some file)
    (hfile : log'.active.lookup s.topic = some (fileName now.day)) :
    Remembers log' (tr ++ [.stored now s]) (folderName s.topic) fun e _ => e ≤ now.date := by
  intro topic file htopic hlookup
  by_cases hown : topic = s.topic
  · have hname : file = fileName (.ofNumber now.date) := by
      rw [hown, hfile] at hlookup
      rw [now.ofNumber_date, Option.some.inj hlookup]
    exact ⟨now.date, [], hname, hnow.isTold_date,
      ⟨⟨tr, now, s, rfl, hown.symm, rfl⟩, List.not_mem_nil⟩, Int.le_refl _⟩
  · obtain ⟨e, after, hname, htold, hset, -⟩ := h.remembers topic file htopic
      (hactive topic file hown hlookup)
    have hkeeps : Event.opened ∉ [Event.stored now s] := by simp
    exact ⟨e, _, hname, htold, hset.later hkeeps, hset.le hclock⟩

/-- Whether a log **agrees with its history**. -/
structure Agrees (g : Ground) (log : FileLog) (tr : List Event) : Prop where
  /-- The root is that of the ground. -/
  root : log.root = g.root
  /-- All that was there at first is there. -/
  tree : log.tree.Extends g.tree
  /-- The instants of stored messages can be told. -/
  told : ∀ now s, .stored now s ∈ tr → now.Told ∧ s.submittedAt.Told
  /-- Every folder stands. -/
  folders : ∀ f, Stands g log tr f

/-- **At first** no folder is there. -/
theorem agrees_opened (g : Ground) : Agrees g g.opened [] where
  root := rfl
  tree := Tree.Extends.refl g.tree
  told _ _ h := nomatch h
  folders f := .gone (fun names => g.bare _ (List.cons_ne_nil f names)) (fun _ => rfl)
    (Remembers.of_nil rfl _)

namespace Agrees

variable (h : Agrees g log tr)
include h

/-! ## Opening once more, and removing -/

/-- **To open the log** is possible at any time, and keeps the agreement. -/
theorem reopen : ∃ log', Deed.reopen.step log = some (log', [.opened])
    ∧ Agrees g log' (tr ++ [.opened]) := by
  refine ⟨⟨g.root, [], log.tree⟩, Deed.step_reopen ?_, rfl, h.tree, fun now s hs => ?_, fun f => ?_⟩
  · rw [h.root, Ground.start_eq h.tree]
  · refine h.told now s ?_
    simpa using hs
  · cases h.folders f with
    | gone habsent hnothing _ =>
      exact .gone habsent (fun d => kept_opened.trans (hnothing d)) (.of_nil rfl _)
    | there now s hstored hholds _ =>
      refine .there now s (List.mem_append_left _ hstored) ?_ (.of_nil rfl _)
      rw [linesIn_congr fun d => kept_opened]
      exact hholds

/-- **To remove a folder** keeps the agreement, be it there or not. -/
theorem remove (htakes : g.Takes topic linkName) :
    ∃ log' es, (Deed.remove topic).step log = some (log', es) ∧ Agrees g log' (tr ++ es) := by
  obtain ⟨linked, hfound⟩ := (h.folders (folderName topic)).found
  obtain hstep | ⟨t, hstep, hsame, habsent⟩ := hfound.remove h.root h.tree htakes
  · exact ⟨log, [], hstep, by rwa [List.append_nil]⟩
  · refine ⟨_, _, hstep, h.root, hsame.extends h.tree, fun now' s' hs => ?_, fun f => ?_⟩
    · refine h.told now' s' ?_
      simpa using hs
    · have hopened : Event.opened ∉ [Event.removed (folderName topic)] := by simp
      by_cases hne : f = folderName topic
      · rw [hne]
        exact .gone habsent (fun d => kept_removed) ((h.folders _).remembers.later
          (fun _ _ _ h => h) hopened
          fun _ after _ => List.mem_append_right after (List.mem_singleton_self _))
      · exact (h.folders f).untouched (hsame.sameIn hne) (fun _ _ _ h => h) hopened
          fun d => kept_removed_of_ne (Ne.symm hne)

/-! ## Appending -/

/-- **Setting a topic up** makes its folder, if there is none, and points the link to the file of
the day. -/
theorem activate (hlink : g.Takes topic linkName)
    (hlookup : log.active.lookup topic ≠ some (fileName (.ofNumber date))) :
    ∃ t, log.activate topic (fileName (.ofNumber date)) = (.ok (), { log with
        active := (topic, fileName (.ofNumber date)) :: log.active.filter fun x => x.1 ≠ topic
        tree := t })
      ∧ g.SameElsewhere (folderName topic) log.tree t
      ∧ g.Holds t (folderName topic) (some date) (linesIn (folderName topic) tr) := by
  obtain ⟨linked, hfound⟩ := (h.folders (folderName topic)).found
  exact hfound.activate h.root h.tree hlink hlookup

/-- **An append to a folder that is set up** writes its line there. -/
theorem append_of_holds (hclock : ∀ now' s', .stored now' s' ∈ tr → now'.date ≤ now.date)
    (hallowed : g.Allows (.append now s)) {active : List (String × String)} {t : Tree}
    (hactivate : log.activate s.topic (fileName now.day)
      = (.ok (), { log with active := active, tree := t }))
    (hactive : ∀ topic file, topic ≠ s.topic → active.lookup topic = some file →
      log.active.lookup topic = some file)
    (hfile : active.lookup s.topic = some (fileName now.day))
    (hsame : g.SameElsewhere (folderName s.topic) log.tree t)
    (hholds : g.Holds t (folderName s.topic) (some now.date) (linesIn (folderName s.topic) tr)) :
    ∃ log', log.append now .whole s = (.ok (), log')
      ∧ Agrees g log' (tr ++ [.stored now s])
      ∧ g.Holds log'.tree (folderName s.topic) (some now.date)
        (linesIn (folderName s.topic) (tr ++ [.stored now s])) := by
  obtain ⟨t', happend, hsame', hholds'⟩ :=
    hholds.append h.root (hsame.extends h.tree) hallowed hactivate
  rw [← linesIn_stored] at hholds'
  obtain ⟨-, -, hnow, hs⟩ := hallowed
  refine ⟨_, happend, ⟨h.root, (hsame.trans hsame').extends h.tree, fun now' s' hmem => ?_,
    fun f => ?_⟩, hholds'⟩
  · obtain hmem | hmem := List.mem_append.mp hmem
    · exact h.told now' s' hmem
    · cases List.mem_singleton.mp hmem
      exact ⟨hnow, hs⟩
  · by_cases hne : f = folderName s.topic
    · rw [hne]
      exact .there now s (List.mem_append_right tr (List.mem_singleton_self _)) hholds'
        ((h.folders _).remembers_stored hclock hnow hactive hfile)
    · refine (h.folders f).untouched ((hsame.trans hsame').sameIn hne) (fun topic file htopic => ?_)
        (by simp) fun d => kept_stored_of_not fun hkept => hne hkept.1.symm
      exact hactive topic file fun htopic' => hne (htopic.symm.trans (congrArg folderName htopic'))

/-- **An append to a folder that is gone** writes nothing, and the topic is forgotten. -/
theorem append_of_absent (hallowed : g.Allows (.append now s))
    (hlookup : log.active.lookup s.topic = some (fileName now.day))
    (habsent : g.Absent log.tree (folderName s.topic)) :
    ∃ log', log.append now .whole s = (.error .notFound, log')
      ∧ Agrees g log' (tr ++ [.refused now s .notFound])
      ∧ log'.tree = log.tree ∧ log'.active.lookup s.topic = none := by
  have hforget : ∀ topic, (log.active.filter fun x => x.1 ≠ s.topic).lookup topic
      = if topic = s.topic then none else log.active.lookup topic :=
    lookup_forget log.active s.topic
  refine ⟨_, habsent.append h.root h.tree hallowed hlookup, ⟨h.root, h.tree,
    fun now' s' hmem => h.told now' s' (by simpa using hmem), fun f => ?_⟩, rfl, ?_⟩
  · refine (h.folders f).untouched (fun _ => rfl) (fun topic file _ hfile => ?_) (by simp)
      fun d => kept_refused ..
    dsimp only at hfile
    rw [hforget] at hfile
    split at hfile
    · cases hfile
    · exact hfile
  · rw [hforget, if_pos rfl]

end Agrees

end RecordRelay.FileLog
