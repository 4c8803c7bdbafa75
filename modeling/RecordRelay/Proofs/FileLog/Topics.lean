import RecordRelay.Proofs.FileLog.Lossless

/-!
# Topics that share a folder

A topic is read through the link in its folder, and so it reads as whatever was written there. All
of that was stored for topics **of the same folder**, whatever has been done to the log and however
the clock has gone: no line ever comes from another folder (`reads_own_iff`).

Whether the lines are also of the same topic depends on the topic alone. Everything that has no
place in the name of a folder becomes an underscore, and so does nothing else; a folder without an
underscore is therefore the folder of one topic, and that topic has no other name than the folder.
A folder with an underscore has two topics at least: its own name, and the same with slashes.

A log that is left to itself agrees with its history, which is more than is needed here and takes a
clock that does not go back. What is left without the clock is a *tidy* log: each folder is there
with its lines, or is not there and has none, and its link leads to the file of some day or other.
-/

namespace RecordRelay.FileLog

open Calendar (Day)

variable {g : Ground} {log log' : FileLog} {tr es : List Event} {topic f : String} {now : Instant}
  {s : Submission}

/-! ## Topics and their folders -/

/-- Whether a topic **has its folder to itself**: all of its characters stand for themselves, none
of them is an underscore, and not all of them are full stops. -/
def IsAlone (topic : String) : Prop :=
  (∀ c ∈ topic.toList, isPlain c = true ∧ c ≠ '_') ∧ ∃ c ∈ topic.toList, c ≠ '.'

instance : DecidablePred IsAlone := fun _ =>
  @instDecidableAnd _ _ (List.decidableBAll _ _) (List.decidableBEx _ _)

/-- Where nothing became an underscore, **nothing was replaced**. -/
theorem folderChars_eq_self {cs : List Char} (h : '_' ∉ folderChars cs) : folderChars cs = cs := by
  unfold folderChars at h ⊢
  split at h
  · exact absurd (List.mem_singleton_self _) h
  next hne =>
  split at h
  · obtain ⟨c, cs, rfl⟩ := List.exists_cons_of_ne_nil hne
    exact absurd List.mem_cons_self h
  · have hself : cs.map (fun c => if isPlain c then c else '_') = cs.map id := by
      refine List.map_congr_left fun c hc => ?_
      split
      · rfl
      · next hplain =>
        have hmem : '_' ∈ cs.map fun c => if isPlain c then c else '_' :=
          List.mem_map.mpr ⟨c, hc, if_neg hplain⟩
        exact absurd hmem h
    rw [if_neg hne]
    split
    · contradiction
    · rw [hself, List.map_id]

/-- A topic has its folder to itself if the folder is written **without an underscore**. -/
theorem isAlone_iff_not_mem : IsAlone topic ↔ '_' ∉ (folderName topic).toList := by
  rw [toList_folderName]
  constructor
  · rintro ⟨hchars, hdot⟩ hmem
    rw [folderChars_of_isPlain (fun c hc => (hchars c hc).1) hdot] at hmem
    exact (hchars '_' hmem).2 rfl
  · intro h
    have hself := folderChars_eq_self h
    have hplain : ∀ c ∈ folderChars topic.toList, isPlain c = true := fun _ =>
      isPlain_of_mem_folderChars
    have hdot := exists_ne_dot_folderChars topic.toList
    rw [hself] at h hplain hdot
    exact ⟨fun c hc => ⟨hplain c hc, fun he => h (he ▸ hc)⟩, hdot⟩

/-- A name with slashes in the place of underscores. -/
def slashed (name : String) : String :=
  String.ofList (name.toList.map fun c => if c = '_' then '/' else c)

/-- The characters of such a name. -/
theorem toList_slashed (name : String) :
    (slashed name).toList = name.toList.map fun c => if c = '_' then '/' else c :=
  String.toList_ofList

/-- It has the folder of the name, if the name has an underscore and is a folder's. -/
theorem folderName_slashed (hplain : ∀ c ∈ f.toList, isPlain c = true) (hmem : '_' ∈ f.toList) :
    folderName (slashed f) = f := by
  have hslash : '/' ∈ f.toList.map fun c => if c = '_' then '/' else c :=
    List.mem_map.mpr ⟨'_', hmem, rfl⟩
  have hdots : ¬ (f.toList.map fun c => if c = '_' then '/' else c).all (· == '.') = true :=
    fun hall => absurd (List.all_eq_true.mp hall '/' hslash) (by decide)
  have hback : ∀ c ∈ f.toList,
      (if isPlain (if c = '_' then '/' else c) then if c = '_' then '/' else c else '_') = c := by
    intro c hc
    split
    · next hunderscore =>
      rw [hunderscore]
      rfl
    · rw [if_pos (hplain c hc)]
  rw [folderName, toList_slashed, folderChars, if_neg (List.ne_nil_of_mem hslash), if_neg hdots,
    List.map_map]
  refine (congrArg String.ofList ?_).trans String.ofList_toList
  exact (List.map_congr_left hback).trans (List.map_id _)

/-- A topic **has its folder to itself** exactly if no other topic has the same. -/
theorem isAlone_iff :
    IsAlone topic ↔ ∀ other, folderName other = folderName topic → other = topic := by
  have hself : ∀ {name}, '_' ∉ (folderName name).toList → folderName name = name := fun h => by
    rw [toList_folderName] at h
    rw [folderName, folderChars_eq_self h, String.ofList_toList]
  rw [isAlone_iff_not_mem]
  constructor
  · intro h other hsame
    rw [← hself h, ← hsame, hself (hsame ▸ h)]
  · intro honly hmem
    have hplain : ∀ c ∈ (folderName topic).toList, isPlain c = true := fun c hc =>
      isPlain_of_mem_folderChars (toList_folderName topic ▸ hc)
    -- the folder's own name and the same with slashes are both the topic, and so they are the same
    have hname := honly _ (folderName_folderName topic)
    have hslashed := honly _ (folderName_slashed hplain hmem)
    have hchars := congrArg String.toList (hslashed.trans hname.symm)
    rw [toList_slashed] at hchars
    obtain ⟨c, -, hc⟩ := List.mem_map.mp (hchars ▸ hmem)
    split at hc
    · exact absurd hc (by decide)
    · contradiction

/-! ## Tidy logs -/

/-- Whether the file of a date **can be there**: the date can be told, and its name is not too
long. -/
structure Filed (date : Int) : Prop where
  /-- The date can be told. -/
  told : Instant.isTold (.ofNumber date) = true
  /-- The name of its file is not too long. -/
  name_le : (fileName (.ofNumber date)).utf8ByteSize ≤ Tree.maxName

/-- Whether a log is **tidy**. -/
structure Tidy (g : Ground) (log : FileLog) (tr : List Event) : Prop where
  /-- The root is that of the ground. -/
  root : log.root = g.root
  /-- All that was there at first is there. -/
  tree : log.tree.Extends g.tree
  /-- The instants of stored messages can be told. -/
  told : ∀ now s, .stored now s ∈ tr → now.Told ∧ s.submittedAt.Told
  /-- Every folder is found with the lines that are kept in it, and its link leads to a file that
  can be there. -/
  folders : ∀ f, ∃ linked, g.Found log.tree f linked (linesIn f tr) ∧ ∀ d ∈ linked, Filed d

/-- **At first** no folder is there. -/
theorem tidy_opened (g : Ground) : Tidy g g.opened [] where
  root := rfl
  tree := Tree.Extends.refl g.tree
  told _ _ h := nomatch h
  folders f := ⟨none, .opened g f, fun _ h => nomatch h⟩

namespace Tidy

variable (h : Tidy g log tr)
include h

/-- **To open the log** leaves it tidy. -/
theorem reopen : ∃ log', Deed.reopen.step log = some (log', [.opened])
    ∧ Tidy g log' (tr ++ [.opened]) := by
  refine ⟨⟨g.root, [], log.tree⟩, Deed.step_reopen ?_, rfl, h.tree, fun now s hs => ?_, fun f => ?_⟩
  · rw [h.root, Ground.start_eq h.tree]
  · refine h.told now s ?_
    simpa using hs
  · rw [linesIn_congr fun d => kept_opened]
    exact h.folders f

/-- What happens in one folder leaves the log tidy if **that folder** is found as it ought to be. -/
theorem of_folder (hroot : log'.root = g.root) (hsame : g.SameElsewhere f log.tree log'.tree)
    (htold : ∀ now s, .stored now s ∈ tr ++ es → now.Told ∧ s.submittedAt.Told)
    (helsewhere : ∀ f', f' ≠ f → ∀ d, kept f' d (tr ++ es) = kept f' d tr)
    (hfound : ∃ linked, g.Found log'.tree f linked (linesIn f (tr ++ es)) ∧ ∀ d ∈ linked, Filed d) :
    Tidy g log' (tr ++ es) where
  root := hroot
  tree := hsame.extends h.tree
  told := htold
  folders f' := by
    by_cases hne : f' = f
    · rw [hne]
      exact hfound
    · obtain ⟨linked, hother, hfiled⟩ := h.folders f'
      rw [linesIn_congr (helsewhere f' hne)]
      exact ⟨linked, hother.of_sameIn (hsame.sameIn hne), hfiled⟩

/-- **To remove a folder** leaves the log tidy. -/
theorem remove (htakes : g.Takes topic linkName) :
    ∃ log' es, (Deed.remove topic).step log = some (log', es) ∧ Tidy g log' (tr ++ es) := by
  obtain ⟨linked, hfound, -⟩ := h.folders (folderName topic)
  obtain hstep | ⟨t, hstep, hsame, habsent⟩ := hfound.remove h.root h.tree htakes
  · exact ⟨log, [], hstep, by rwa [List.append_nil]⟩
  · refine ⟨_, _, hstep, h.of_folder h.root hsame (fun now' s' hs => ?_)
      (fun f' hne d => kept_removed_of_ne (Ne.symm hne)) ⟨none, .absent habsent fun d => ?_,
      fun _ hd => nomatch hd⟩⟩
    · refine h.told now' s' ?_
      simpa using hs
    · rw [linesIn, kept_removed, List.map_nil]

/-- **An append to a folder that is there** writes its line. -/
theorem append_of_holds (hallowed : g.Allows (.append now s)) {active : List (String × String)}
    {t : Tree} {linked : Option Int}
    (hactivate : log.activate s.topic (fileName now.day)
      = (.ok (), { log with active := active, tree := t }))
    (hsame : g.SameElsewhere (folderName s.topic) log.tree t)
    (hholds : g.Holds t (folderName s.topic) linked (linesIn (folderName s.topic) tr))
    (hfiled : ∀ d ∈ linked, Filed d) :
    ∃ log', (Deed.append now s).step log = some (log', [.stored now s])
      ∧ Tidy g log' (tr ++ [.stored now s]) := by
  obtain ⟨t', happend, hsame', hholds'⟩ :=
    hholds.append h.root (hsame.extends h.tree) hallowed hactivate
  rw [← linesIn_stored] at hholds'
  obtain ⟨-, -, hnow, hs⟩ := hallowed
  refine ⟨_, Deed.step_append_of_ok happend,
    h.of_folder h.root (hsame.trans hsame') (fun now' s' hmem => ?_)
      (fun f' hne d => kept_stored_of_not fun hkept => hne hkept.1.symm)
      ⟨linked, .holds hholds', hfiled⟩⟩
  obtain hmem | hmem := List.mem_append.mp hmem
  · exact h.told now' s' hmem
  · cases List.mem_singleton.mp hmem
    exact ⟨hnow, hs⟩

/-- **An append** leaves the log tidy, however it ends. -/
theorem append (hallowed : g.Allows (.append now s)) :
    ∃ log' es, (Deed.append now s).step log = some (log', es) ∧ Tidy g log' (tr ++ es) := by
  obtain ⟨linked, hfound, hfiled⟩ := h.folders (folderName s.topic)
  by_cases hlookup : log.active.lookup s.topic = some (fileName now.day)
  · cases hfound with
    | absent habsent hnothing =>
      have happend := habsent.append h.root h.tree hallowed hlookup
      refine ⟨_, _, Deed.step_append_of_error happend,
        h.of_folder h.root (.refl g (folderName s.topic) log.tree) (fun now' s' hmem => ?_)
          (fun f' _ d => kept_refused ..) ⟨none, .absent habsent fun d => ?_, hfiled⟩⟩
      · exact h.told now' s' (by simpa using hmem)
      · rw [linesIn_congr fun d => kept_refused ..]
        exact hnothing d
    | holds hholds =>
      obtain ⟨log', hstep, htidy⟩ := h.append_of_holds hallowed (if_pos hlookup)
        (.refl g _ log.tree) hholds hfiled
      exact ⟨log', _, hstep, htidy⟩
  · rw [← now.ofNumber_date] at hlookup
    obtain ⟨t, hactivate, hsame, hholds⟩ := hfound.activate h.root h.tree hallowed.1 hlookup
    rw [now.ofNumber_date] at hactivate
    have hfiled' : ∀ d ∈ some now.date, Filed d := by
      rintro _ ⟨⟩
      have hname := hallowed.2.1.name_le
      rw [← now.ofNumber_date] at hname
      exact ⟨hallowed.2.2.1.isTold_date, hname⟩
    obtain ⟨log', hstep, htidy⟩ := h.append_of_holds hallowed hactivate hsame hholds hfiled'
    exact ⟨log', _, hstep, htidy⟩

/-- **Every deed that is allowed** can be done and leaves the log tidy. -/
theorem step {deed : Deed} (hallowed : g.Allows deed) :
    ∃ log' es, deed.step log = some (log', es) ∧ Tidy g log' (tr ++ es) := by
  cases deed with
  | append now s => exact h.append hallowed
  | reopen =>
    obtain ⟨log', hstep, htidy⟩ := h.reopen
    exact ⟨log', _, hstep, htidy⟩
  | remove topic => exact h.remove hallowed

/-- **A topic reads as lines of its folder**, each for a message that was stored. -/
theorem reads (hlink : g.Takes topic linkName) :
    ∃ ls, current g.root topic log.tree = .ok ls
      ∧ ∀ l ∈ ls, folderName l.topic = folderName topic
        ∧ ∃ now s, .stored now s ∈ tr ∧ l.Carries now s := by
  obtain ⟨linked, hfound, hfiled⟩ := h.folders (folderName topic)
  refine ⟨_, hfound.current_eq h.tree hlink
    (fun d hd => ⟨(hfiled d hd).told, (hfiled d hd).name_le⟩) (dated_linesIn h.told _),
    fun l hl => ?_⟩
  cases linked with
  | none => cases hl
  | some d =>
    obtain ⟨m, hm, rfl⟩ := List.mem_map.mp hl
    obtain ⟨hstored, hfolder⟩ := stored_of_mem_kept hm
    exact ⟨hfolder, m.1, m.2, hstored, Line.carries_ofSubmission m.1 m.2⟩

end Tidy

/-- Any history of deeds that are allowed can be gone through, and **leaves the log tidy**. The
induction is on the history, last deed first. -/
theorem exec_tidy {deeds : List Deed} (hallowed : ∀ deed ∈ deeds, g.Allows deed) :
    ∃ log tr, exec Deed.step deeds g.opened = some (log, tr) ∧ Tidy g log tr := by
  induction deeds using List.reverseRecOn with
  | nil => exact ⟨g.opened, [], rfl, tidy_opened g⟩
  | append_singleton deeds deed ih =>
    obtain ⟨log, tr, hexec, htidy⟩ := ih fun d hd => hallowed d (List.mem_append_left _ hd)
    obtain ⟨log', es, hstep, htidy'⟩ :=
      htidy.step (hallowed deed (List.mem_append_right deeds (List.mem_singleton_self deed)))
    exact ⟨log', tr ++ es, exec_concat hexec hstep, htidy'⟩

/-! ## Whose lines a topic reads -/

/-- Two messages that are appended on one day to topics of one folder **are read together**. -/
theorem reads_both {now' : Instant} {s' : Submission} (hallowed : g.Allows (.append now s))
    (hallowed' : g.Allows (.append now' s')) (hfolder : folderName s.topic = folderName s'.topic)
    (hdate : now.date = now'.date) :
    ∃ log tr l l', exec Deed.step [.append now s, .append now' s'] g.opened = some (log, tr)
      ∧ current g.root s'.topic log.tree = .ok [l, l']
      ∧ l.Carries now s ∧ l'.Carries now' s' := by
  obtain ⟨log, ⟨happend, -⟩, hagrees⟩ := append_of_new (agrees_opened g) hallowed
    (fun _ _ h => nomatch h) (fun h => nomatch h)
  have hexec : exec Deed.step [.append now s] g.opened = some (log, [.stored now s]) :=
    exec_singleton_eq_some_iff.mpr (Deed.step_append_of_ok happend)
  have hclock : ∀ t u, Event.stored t u ∈ [Event.stored now s] → t.date ≤ now'.date := by
    intro t u hstored
    cases List.mem_singleton.mp hstored
    exact Int.le_of_eq hdate
  obtain ⟨log', ⟨happend', ls, hread, hcarries⟩, -⟩ | ⟨-, -, -, -, -, after, hset, hremoved⟩ :=
    append_ends hagrees hallowed' hclock
  · have hkept : kept (folderName s'.topic) now'.date [.stored now s] = [(now, s)] := by
      rw [← List.nil_append [_], kept_stored hfolder hdate]
      rfl
    rw [kept_stored rfl rfl, List.nil_append, hkept] at hcarries
    obtain ⟨l, _, hl, hothers, rfl⟩ := List.forall₂_cons_right_iff.mp hcarries
    obtain ⟨l', _, hl', hnone, rfl⟩ := List.forall₂_cons_right_iff.mp hothers
    rw [List.forall₂_nil_right_iff.mp hnone] at hread
    exact ⟨log', _, l, l', exec_concat hexec (Deed.step_append_of_ok happend'), hread, hl, hl'⟩
  · -- nothing was removed
    obtain ⟨before, t, u, heq, -⟩ := hset.stored
    have hmem : Event.removed (folderName s'.topic) ∈ [Event.stored now s] := by
      rw [show [Event.stored now s] = before ++ .stored t u :: after from heq]
      exact List.mem_append_right before (List.mem_cons_of_mem _ hremoved)
    cases List.mem_singleton.mp hmem

/-- **A topic reads lines of its own folder only**, and lines of its own only if it has its folder
to itself.

* After any history of a log, with messages of any topics at any instants, a topic can be read, and
  what is read are lines for messages that were stored for topics of the same folder.
* In all histories these lines are all of the topic itself, exactly if all of its characters stand
  for themselves, none of them is an underscore, and not all of them are full stops.
* These are the topics whose folder no other topic has.

Of the topic it is asked that the tree takes its link and the file of some day. -/
theorem reads_own_iff (g : Ground) (topic : String) (now : Instant)
    (hlink : g.Takes topic linkName) (hfile : g.Takes topic (fileName now.day)) (hnow : now.Told) :
    (∀ deeds : List Deed, (∀ deed ∈ deeds, g.Allows deed) →
      ∃ log tr ls, exec Deed.step deeds g.opened = some (log, tr)
        ∧ current g.root topic log.tree = .ok ls
        ∧ ∀ l ∈ ls, folderName l.topic = folderName topic
          ∧ ∃ now s, .stored now s ∈ tr ∧ l.Carries now s)
    ∧ ((∀ (deeds : List Deed) (log : FileLog) (tr : List Event) (ls : List Line),
        (∀ deed ∈ deeds, g.Allows deed) → exec Deed.step deeds g.opened = some (log, tr) →
        current g.root topic log.tree = .ok ls → ∀ l ∈ ls, l.topic = topic) ↔ IsAlone topic)
    ∧ (IsAlone topic ↔ ∀ other, folderName other = folderName topic → other = topic) := by
  have hreads : ∀ deeds : List Deed, (∀ deed ∈ deeds, g.Allows deed) →
      ∃ log tr ls, exec Deed.step deeds g.opened = some (log, tr)
        ∧ current g.root topic log.tree = .ok ls
        ∧ ∀ l ∈ ls, folderName l.topic = folderName topic
          ∧ ∃ now s, .stored now s ∈ tr ∧ l.Carries now s := by
    intro deeds hallowed
    obtain ⟨log, tr, hexec, htidy⟩ := exec_tidy hallowed
    obtain ⟨ls, hread, hls⟩ := htidy.reads hlink
    exact ⟨log, tr, ls, hexec, hread, hls⟩
  refine ⟨hreads, ⟨fun hown => isAlone_iff.mpr fun other hsame => ?_, ?_⟩, isAlone_iff⟩
  · -- a message for another topic of the folder would be read together with one of the topic's own
    have hallowed : ∀ name, folderName name = folderName topic →
        g.Allows (.append now ⟨⟨""⟩, name, ⟨.json, []⟩, now⟩) := by
      intro name hname
      refine ⟨⟨?_, hlink.name_le, ?_⟩, ⟨?_, hfile.name_le, ?_⟩, hnow, hnow⟩ <;> simp only [hname]
      exacts [hlink.folder_le, hlink.path_le, hfile.folder_le, hfile.path_le]
    obtain ⟨log, tr, l, l', hexec, hread, hl, -⟩ :=
      reads_both (hallowed other hsame) (hallowed topic rfl) hsame rfl
    refine hl.topic.symm.trans (hown _ log tr _ (fun deed hdeed => ?_) hexec hread l
      List.mem_cons_self)
    obtain rfl | hdeed := List.mem_cons.mp hdeed
    · exact hallowed other hsame
    · rw [List.mem_singleton.mp hdeed]
      exact hallowed topic rfl
  · intro halone deeds log tr ls hallowed hexec hread l hl
    obtain ⟨log', tr', ls', hexec', hread', hls⟩ := hreads deeds hallowed
    obtain ⟨rfl, rfl⟩ := Prod.mk.inj (Option.some.inj (hexec.symm.trans hexec'))
    obtain rfl := Except.ok.inj (hread.symm.trans hread')
    exact isAlone_iff.mp halone l.topic (hls l hl).1

/-- Two topics with one folder, below the top. -/
theorem reads_own_iff_shared :
    (∃ log tr ls, exec Deed.step sharedFolder Ground.belowTop.opened = some (log, tr)
      ∧ current Ground.belowTop.root "a b" log.tree = .ok ls
      ∧ ∀ l ∈ ls, folderName l.topic = "a_b" ∧ ∃ now s, .stored now s ∈ tr ∧ l.Carries now s)
    ∧ ¬ IsAlone "a b" ∧ IsAlone "a-b.c" := by
  have hallowed : ∀ deed ∈ sharedFolder, Ground.belowTop.Allows deed := by decide
  have h := reads_own_iff Ground.belowTop "a b" ⟨0, 0⟩ (by decide) (by decide) (by decide)
  exact ⟨h.1 sharedFolder hallowed, by decide, by decide⟩

/-- **A topic that reads another's lines**: both have the folder `a_b`. -/
theorem read_under_other_topic :
    ∃ log tr l l', exec Deed.step
        [.append ⟨0, 0⟩ ⟨⟨"first"⟩, "a/b", ⟨.json, Bytes.ofString "one"⟩, ⟨0, 0⟩⟩,
          .append ⟨1, 0⟩ ⟨⟨"second"⟩, "a_b", ⟨.json, Bytes.ofString "two"⟩, ⟨1, 0⟩⟩]
        Ground.belowTop.opened = some (log, tr)
      ∧ current Ground.belowTop.root "a_b" log.tree = .ok [l, l']
      ∧ l.topic = "a/b" ∧ l.topic ≠ "a_b" := by
  have hallowed : Ground.belowTop.Allows
      (.append ⟨0, 0⟩ ⟨⟨"first"⟩, "a/b", ⟨.json, Bytes.ofString "one"⟩, ⟨0, 0⟩⟩) := by decide
  have hallowed' : Ground.belowTop.Allows
      (.append ⟨1, 0⟩ ⟨⟨"second"⟩, "a_b", ⟨.json, Bytes.ofString "two"⟩, ⟨1, 0⟩⟩) := by decide
  obtain ⟨log, tr, l, l', hexec, hread, hl, -⟩ :=
    reads_both hallowed hallowed' (by decide) (by decide)
  refine ⟨log, tr, l, l', hexec, hread, hl.topic, ?_⟩
  rw [hl.topic]
  decide

end RecordRelay.FileLog
