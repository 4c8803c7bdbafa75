import RecordRelay.Proofs.FileLog.Lossless
import RecordRelay.Proofs.Json.Broken
import Mathlib.Data.List.Basic

/-!
# Writes that break off

The write of a line may break off anywhere, and the append tells so. What it left stays in the file,
and the next line is written right behind it, on the same line of the file. A topic is read line by
line and not at all if one of them cannot be, so **what a write left decides about the whole day**
(`current_iff_intact`).

It does no harm if the write left nothing, or the whole line, end and all; the message is read then
although its append failed. If only the end is missing, the line is read as long as it is the last
one. After anything else the topic cannot be read, whatever is appended later on that day, although
those appends succeed. For then some line of the file begins with an object that broke off, or with
one that another follows, and in neither case is it one record.
-/

namespace RecordRelay.FileLog

open Json

variable {g : Ground} {log log' : FileLog} {topic : String} {date : Int}

/-! ## Attempts to append -/

/-- An **attempt** to append a message at an instant, and how its write ends. -/
structure Attempt where
  /-- When the message is stored. -/
  now : Instant
  /-- How the write ends. -/
  write : Write
  /-- The message. -/
  s : Submission
  deriving DecidableEq, Repr

namespace Attempt

/-- The line of the message. -/
def line (a : Attempt) : Line := Line.ofSubmission a.now a.s

/-- What the attempt leaves in the file. -/
def kept (a : Attempt) : Bytes := a.write.kept (a.line.toJson ++ [lineEnd])

/-- **Makes an attempt**, and tells how it ends. -/
def step (a : Attempt) (log : FileLog) : Option (FileLog × List (Except OsFault Unit)) :=
  let (outcome, log) := log.append a.now a.write a.s
  some (log, [outcome])

/-- The line of a message that may be appended can be read. -/
theorem dated {a : Attempt} (h : g.Allows (.append a.now a.s)) : a.line.Dated :=
  ⟨h.2.2.2, h.2.2.1⟩

/-- It ends as the append does. -/
theorem step_of_append {a : Attempt} {outcome : Except OsFault Unit}
    (h : log.append a.now a.write a.s = (outcome, log')) :
    a.step log = some (log', [outcome]) := by
  unfold step
  rw [h]

/-- It leaves nothing, or the line with its end, or **a part of the line**, which may be all of it
but the end. -/
theorem kept_cases (a : Attempt) :
    a.kept = [] ∨ a.kept = a.line.toJson ++ [lineEnd]
      ∨ (a.kept ≠ [] ∧ a.kept <+: a.line.toJson) := by
  unfold kept
  cases a.write with
  | whole => exact .inr (.inl rfl)
  | torn n =>
    -- only the end stands behind the line, so less than all of both is a part of the line
    by_cases hn : n ≤ a.line.toJson.length
    · have htake : (Write.torn n).kept (a.line.toJson ++ [lineEnd]) = a.line.toJson.take n :=
        List.take_append_of_le_length hn
      rw [htake]
      by_cases hempty : a.line.toJson.take n = []
      · exact .inl hempty
      · exact .inr (.inr ⟨hempty, List.take_prefix _ _⟩)
    · exact .inr (.inl (List.take_of_length_le (by
        rw [List.length_append, List.length_singleton]
        omega)))

end Attempt

/-- What attempts leave in the file, one behind the other. -/
def content (attempts : List Attempt) : Bytes := attempts.flatMap Attempt.kept

/-- Whether the file is **intact** after attempts: each of them left nothing or a line with its end,
but for one that left a line without, behind which nothing was left. -/
inductive Intact : List Attempt → Prop
  | nil : Intact []
  | nothing {a : Attempt} {others : List Attempt} (h : a.kept = []) (hothers : Intact others) :
    Intact (a :: others)
  | ended {a : Attempt} {others : List Attempt} (h : a.kept = a.line.toJson ++ [lineEnd])
    (hothers : Intact others) : Intact (a :: others)
  | unended {a : Attempt} {others : List Attempt} (h : a.kept = a.line.toJson)
    (hothers : ∀ b ∈ others, b.kept = []) : Intact (a :: others)

instance decidableIntact : DecidablePred Intact
  | [] => isTrue .nil
  | a :: others =>
    have := decidableIntact others
    decidable_of_iff (a.kept = [] ∧ Intact others
        ∨ a.kept = a.line.toJson ++ [lineEnd] ∧ Intact others
        ∨ a.kept = a.line.toJson ∧ ∀ b ∈ others, b.kept = [])
      ⟨fun
        | .inl ⟨h, hothers⟩ => .nothing h hothers
        | .inr (.inl ⟨h, hothers⟩) => .ended h hothers
        | .inr (.inr ⟨h, hothers⟩) => .unended h hothers,
      fun
        | .nothing h hothers => .inl ⟨h, hothers⟩
        | .ended h hothers => .inr (.inl ⟨h, hothers⟩)
        | .unended h hothers => .inr (.inr ⟨h, hothers⟩)⟩

/-- A file that is intact was intact before. -/
theorem Intact.of_append {attempts more : List Attempt} (h : Intact (attempts ++ more)) :
    Intact attempts := by
  induction attempts with
  | nil => exact .nil
  | cons a attempts ih =>
    cases h with
    | nothing h hothers => exact .nothing h (ih hothers)
    | ended h hothers => exact .ended h (ih hothers)
    | unended h hothers => exact .unended h fun b hb => hothers b (List.mem_append_left more hb)

/-- The lines of the attempts that **left something**. -/
def left (attempts : List Attempt) : List Line :=
  (attempts.filter (·.kept ≠ [])).map Attempt.line

/-- The lines of the attempts that **succeeded**. -/
def acknowledged (attempts : List Attempt) : List Line :=
  (attempts.filter (·.write = .whole)).map Attempt.line

/-- An attempt that succeeded left its line. -/
theorem acknowledged_sublist (attempts : List Attempt) :
    (acknowledged attempts).Sublist (left attempts) := by
  refine (List.monotone_filter_right attempts fun a ha => ?_).map Attempt.line
  rw [decide_eq_true_eq] at ha ⊢
  rw [Attempt.kept, ha]
  exact List.append_ne_nil_of_right_ne_nil _ (List.cons_ne_nil _ _)

/-! ## A file that is intact -/

/-- **An intact file** is a text, and falls apart into the lines that were left. -/
theorem Intact.lines_eq {attempts : List Attempt} (h : Intact attempts) :
    Bytes.IsText (content attempts)
    ∧ (lines (content attempts)).filter (!isBlank ·) = (left attempts).map Line.toJson := by
  induction h with
  | nil => exact ⟨Bytes.isText_nil, by decide⟩
  | @nothing a others h _ ih =>
    rwa [content, List.flatMap_cons, h, List.nil_append, left, List.filter_cons_of_neg (by simpa)]
  | @ended a others h _ ih =>
    have hend : content (a :: others) = a.line.toJson ++ lineEnd :: content others := by
      rw [content, List.flatMap_cons, h, List.append_assoc]
      rfl
    have hleft : left (a :: others) = a.line :: left others := by
      rw [left, List.filter_cons_of_pos (by simp [h])]
      rfl
    rw [hend, hleft, filter_lines_append, ih.2]
    refine ⟨a.line.isText_toJson.append (Bytes.IsText.append (a := [lineEnd]) ?_ ih.1), rfl⟩
    exact Bytes.isText_of_lt (by simp [lineEnd])
  | @unended a others h hothers =>
    have hend : content (a :: others) = a.line.toJson := by
      rw [content, List.flatMap_cons, h, List.flatMap_eq_nil_iff.mpr hothers, List.append_nil]
    have hleft : left (a :: others) = [a.line] := by
      rw [left, List.filter_cons_of_pos (by simpa [h] using a.line.toJson_ne_nil),
        List.filter_eq_nil_iff.mpr fun b hb => by simpa using hothers b hb]
      rfl
    rw [hend, hleft, lines_of_noControl a.line.noControl_toJson,
      List.filter_cons_of_pos (by rw [isBlank_toJson]; rfl)]
    exact ⟨a.line.isText_toJson, rfl⟩

/-! ## A file that is not -/

/-- The fields of a line are read as strings. -/
theorem Line.areStrings_jsonFields : Line.jsonFields.AreStrings := by
  have htext {c : Cursor} {f : String → Line.Told} {r : Read Line.Told c}
      (h : (do return (← Line.readText c).map f) = Except.ok r) :
      ∃ expected, ∃ v : Read String c, readString expected c = .ok v ∧ v.left = r.left := by
    obtain ⟨v, hv, h⟩ := exists_of_bind_eq_ok h
    obtain rfl := Except.ok.inj h
    exact ⟨_, v, hv, rfl⟩
  have htime {c : Cursor} {f : Instant → Line.Told} {r : Read Line.Told c}
      (h : (do return (← Line.readTime c).map f) = Except.ok r) :
      ∃ expected, ∃ v : Read String c, readString expected c = .ok v ∧ v.left = r.left := by
    obtain ⟨t, ht, h⟩ := exists_of_bind_eq_ok h
    obtain rfl := Except.ok.inj h
    obtain ⟨v, hv, ht⟩ := exists_of_bind_eq_ok ht
    split at ht
    · obtain rfl := Except.ok.inj ht
      exact ⟨_, v, hv, rfl⟩
    · cases ht
  intro name s c r h
  unfold Line.jsonFields at h
  dsimp only at h
  split at h
  · exact htext h
  · exact htext h
  · exact htime h
  · exact htime h
  · exact htext h
  · exact htext h
  · exact htext h

/-- **A part of a line** and what objects that broke off leave behind it are such. -/
theorem stumps_append {l : Line} {p q : Bytes} (hp : p <+: l.toJson) (hq : Stumps q) :
    Stumps (p ++ q) := by
  obtain ⟨rest, hrest⟩ := l.toJson_eq_cons
  rw [hrest] at hp
  rcases p with _ | ⟨a, _ | ⟨b, p⟩⟩
  · exact hq
  · obtain ⟨rfl, -⟩ := List.cons_prefix_cons.mp hp
    exact .brace hq
  · obtain ⟨rfl, hbrace⟩ := List.cons_prefix_cons.mp hp
    obtain ⟨rfl, hquote⟩ := List.cons_prefix_cons.mp hbrace
    refine .quote ?_
    cases p with
    | nil => exact hq.stops
    | cons d p =>
      obtain ⟨rfl, -⟩ := List.cons_prefix_cons.mp hquote
      exact Stops.cons (by decide) _

/-- **What goes on with such** is neither blank nor a line, unless it is the line itself. -/
theorem fails_of_prefix {l : Line} (hdated : l.Dated) {p q : Bytes} (hp : p <+: l.toJson)
    (hne : p ≠ []) (hq : Stumps q) (hmore : p = l.toJson → q ≠ []) :
    isBlank (p ++ q) = false ∧ ∃ e, Line.ofJson? (p ++ q) = .error e := by
  have hread : ∃ e, Line.jsonFields.read? .nothing (p ++ q) = .error e := by
    by_cases hwhole : p = l.toJson
    · rw [hwhole, l.toJson_eq_object]
      exact fails_of_filled (Line.filled_members hdated) rfl hq (hmore hwhole)
    · rw [l.toJson_eq_object] at hp hwhole
      exact fails_of_isCut Line.areStrings_jsonFields (by simp [Line.jsonFields, Line.names]) hp
        hwhole hne hq
  obtain ⟨e, he⟩ := hread
  refine ⟨?_, e, by unfold Line.ofJson?; rw [he]; rfl⟩
  obtain ⟨rest, hrest⟩ := l.toJson_eq_cons
  obtain ⟨b, others, rfl⟩ := List.exists_cons_of_ne_nil hne
  rw [hrest] at hp
  rw [(List.cons_prefix_cons.mp hp).1]
  exact isBlank_brace _

/-- Whether a line **is the first** of a file: it is all there is, or an end stands behind it. -/
def IsFirstLine (line octets : Bytes) : Prop :=
  octets = line ∨ ∃ rest, octets = line ++ lineEnd :: rest

/-- What is put in front of a file is put in front of its first line. -/
theorem IsFirstLine.append {line octets : Bytes} (h : IsFirstLine line octets) (p : Bytes) :
    IsFirstLine (p ++ line) (p ++ octets) := by
  obtain rfl | ⟨rest, rfl⟩ := h
  · exact .inl rfl
  · exact .inr ⟨rest, (List.append_assoc ..).symm⟩

/-- The first line is one of the lines. -/
theorem IsFirstLine.mem_lines {line octets : Bytes} (h : IsFirstLine line octets)
    (hcontrol : Bytes.NoControl line) : line ∈ lines octets := by
  obtain rfl | ⟨rest, rfl⟩ := h
  · rw [lines_of_noControl hcontrol]
    exact List.mem_singleton_self _
  · rw [lines_append_cons hcontrol]
    exact List.mem_cons_self

/-- **The first line of the file** is left by objects that broke off; and if it is empty, nothing
was left. -/
theorem exists_stumps (attempts : List Attempt) :
    ∃ q, Stumps q ∧ Bytes.NoControl q ∧ (q = [] → ∀ a ∈ attempts, a.kept = [])
      ∧ IsFirstLine q (content attempts) := by
  induction attempts with
  | nil => exact ⟨[], .nil, Bytes.noControl_nil, fun _ => List.forall_mem_nil _, .inl rfl⟩
  | cons a attempts ih =>
    obtain ⟨q, hq, hcontrol, hnothing, hfirst⟩ := ih
    rw [content, List.flatMap_cons]
    obtain h | h | ⟨hne, h⟩ := a.kept_cases
    · rw [h]
      exact ⟨q, hq, hcontrol, fun he => List.forall_mem_cons.mpr ⟨h, hnothing he⟩, hfirst⟩
    · rw [h, List.append_assoc]
      exact ⟨a.line.toJson, a.line.toJson.append_nil ▸ stumps_append (List.prefix_refl _) .nil,
        a.line.noControl_toJson, fun he => absurd he a.line.toJson_ne_nil, .inr ⟨_, rfl⟩⟩
    · have hkept : Bytes.NoControl a.kept := fun b hb =>
        a.line.noControl_toJson b (List.IsPrefix.subset h hb)
      exact ⟨a.kept ++ q, stumps_append h hq, Bytes.noControl_append.mpr ⟨hkept, hcontrol⟩,
        fun he => absurd (List.append_eq_nil_iff.mp he).1 hne, hfirst.append _⟩

/-- If **one line cannot be read**, the file cannot. -/
theorem readLines_error {octets line : Bytes} (hmem : line ∈ lines octets)
    (hblank : isBlank line = false) (hline : ∃ e, Line.ofJson? line = .error e) :
    ∃ e, readLines octets = .error e := by
  have hmapM : ∀ ls : List Bytes, line ∈ ls →
      ∃ e, ls.mapM (fun line => (Line.ofJson? line).mapError SinkFault.json) = .error e := by
    obtain ⟨e, he⟩ := hline
    intro ls hmem
    induction ls with
    | nil => cases hmem
    | cons l ls ih =>
      rw [List.mapM_cons]
      cases hl : Line.ofJson? l with
      | error e => exact ⟨_, rfl⟩
      | ok read =>
        obtain rfl | hmem := List.mem_cons.mp hmem
        · rw [he] at hl
          cases hl
        · obtain ⟨e, hothers⟩ := ih hmem
          exact ⟨e, by rw [hothers]; rfl⟩
  unfold readLines
  split
  · exact ⟨_, rfl⟩
  · exact hmapM _ (List.mem_filter.mpr ⟨hmem, by rw [hblank]; rfl⟩)

/-- **A line that is no record** is among the lines of a file that is not intact. The induction is
on the attempts up to the first that left a part of its line. -/
theorem exists_unreadable {attempts : List Attempt}
    (hdated : ∀ a ∈ attempts, a.line.Dated) (h : ¬ Intact attempts) :
    ∃ line ∈ lines (content attempts), isBlank line = false
      ∧ ∃ e, Line.ofJson? line = .error e := by
  induction attempts with
  | nil => exact absurd .nil h
  | cons a attempts ih =>
    have hothers := ih fun b hb => hdated b (List.mem_cons_of_mem a hb)
    obtain hkept | hkept | ⟨hne, hprefix⟩ := a.kept_cases
    · rw [content, List.flatMap_cons, hkept, List.nil_append]
      exact hothers fun hintact => h (.nothing hkept hintact)
    · obtain ⟨line, hline, hbad⟩ := hothers fun hintact => h (.ended hkept hintact)
      refine ⟨line, ?_, hbad⟩
      rw [content, List.flatMap_cons, hkept, List.append_assoc, List.singleton_append,
        lines_append_cons a.line.noControl_toJson]
      exact List.mem_cons_of_mem _ hline
    · -- the line goes on with what was left behind it
      obtain ⟨q, hq, hcontrol, hnothing, hfirst⟩ := exists_stumps attempts
      refine ⟨a.kept ++ q, (hfirst.append a.kept).mem_lines ?_, ?_⟩
      · refine Bytes.noControl_append.mpr ⟨fun b hb => ?_, hcontrol⟩
        exact a.line.noControl_toJson b (List.IsPrefix.subset hprefix hb)
      · exact fails_of_prefix (hdated a List.mem_cons_self) hprefix hne hq fun hwhole he =>
          h (.unended hwhole (hnothing he))

/-- **A file reads** as the lines that were left if it is intact, and if it is not, it cannot be
read. -/
theorem readLines_content {attempts : List Attempt} (hdated : ∀ a ∈ attempts, a.line.Dated) :
    (Intact attempts → readLines (content attempts) = .ok (left attempts))
    ∧ (¬ Intact attempts → ∃ e, readLines (content attempts) = .error e) := by
  constructor
  · intro h
    obtain ⟨htext, hlines⟩ := h.lines_eq
    refine readLines_of_lines htext hlines fun l hl => ?_
    obtain ⟨a, ha, rfl⟩ := List.mem_map.mp hl
    exact hdated a (List.mem_of_mem_filter ha)
  · intro h
    obtain ⟨line, hmem, hblank, hline⟩ := exists_unreadable hdated h
    exact readLines_error hmem hblank hline

/-! ## The log -/

/-- Whether a topic **is written to the file of a date**: it is set up, its link leads to the file,
and the file holds certain octets. As long as there are none the file need not be there. -/
structure Writing (g : Ground) (topic : String) (date : Int) (log : FileLog) (octets : Bytes) :
    Prop where
  /-- The root is that of the ground. -/
  root : log.root = g.root
  /-- All that was there at first is there. -/
  tree : log.tree.Extends g.tree
  /-- The topic is set up. -/
  active : log.active.lookup topic = some (fileName (.ofNumber date))
  /-- The folder is there. -/
  folder : log.tree.get? (g.place ++ [folderName topic]) = some .folder
  /-- The link leads to the file. -/
  link : log.tree.get? (g.place ++ [folderName topic, linkName])
    = some (.link (fileName (.ofNumber date)))
  /-- The file holds the octets. -/
  file : log.tree.get? (g.place ++ [folderName topic, fileName (.ofNumber date)]) = none
      ∧ octets = []
    ∨ log.tree.get? (g.place ++ [folderName topic, fileName (.ofNumber date)]) = some (.file octets)

/-- A log that was just opened **sets a topic up** for a date. -/
theorem writing_of_opened (hlink : g.Takes topic linkName)
    (htold : Instant.isTold (.ofNumber date) = true) :
    ∃ log, g.opened.activate topic (fileName (.ofNumber date)) = (.ok (), log)
      ∧ Writing g topic date log [] := by
  obtain ⟨t, hactivate, hsame, hholds⟩ := (Ground.Found.opened g (folderName topic)).activate rfl
    (Tree.Extends.refl g.tree) hlink (fun h => nomatch h)
  refine ⟨_, hactivate, rfl, hsame.extends (Tree.Extends.refl g.tree), ?_, hholds.folder,
    hholds.link, .inl ⟨hholds.files date htold, rfl⟩⟩
  rw [List.lookup_cons, beq_self_eq_true]

namespace Writing

variable {octets : Bytes}

/-- A topic that is set up is left as it is. -/
theorem activate (h : Writing g topic date log octets) :
    log.activate topic (fileName (.ofNumber date)) = (.ok (), log) :=
  if_pos h.active

/-- **An attempt adds to the file** what it leaves, and ends as its write does. -/
theorem step {a : Attempt} (hallowed : g.Allows (.append a.now a.s))
    (hactivate : log.activate a.s.topic (fileName (.ofNumber a.now.date)) = (.ok (), log'))
    (h : Writing g a.s.topic a.now.date log' octets) :
    ∃ log'', a.step log = some (log'', [a.write.outcome])
      ∧ Writing g a.s.topic a.now.date log'' (octets ++ a.kept) := by
  obtain ⟨hlinkTaken, hfileTaken, -, -⟩ := hallowed
  rw [← a.now.ofNumber_date] at hfileTaken
  have hmodify := Ground.modify_of_folder h.tree (isOrdinary_folderName hlinkTaken.folder_le)
    (isOrdinary_fileName hfileTaken.name_le) hfileTaken.path_le h.folder h.file a.kept
  rw [← file_path h.root, a.now.ofNumber_date] at hmodify
  rw [a.now.ofNumber_date] at hactivate
  have happend : log.append a.now a.write a.s = (a.write.outcome, { log' with tree := _ }) :=
    append_of_modify hactivate hmodify
  refine ⟨_, Attempt.step_of_append happend, h.root, ?_, h.active, ?_, ?_, ?_⟩
  · exact (Ground.sameElsewhere_put log'.tree (folderName a.s.topic) [_] _).extends h.tree
  · rw [Tree.get?_put _ _ _ (by simp), if_neg (by simp)]
    exact h.folder
  · rw [Tree.get?_put _ _ _ (by simp), if_neg]
    · exact h.link
    · simpa using (fileName_ne (by decide)).symm
  · rw [Tree.get?_put _ _ _ (by simp), a.now.ofNumber_date, if_pos rfl]
    exact .inr rfl

/-- **The topic reads as its file**, be it there or not. -/
theorem current_eq (h : Writing g topic date log octets) (hlink : g.Takes topic linkName)
    (hfile : g.Takes topic (fileName (.ofNumber date))) :
    current g.root topic log.tree = readLines octets := by
  have hpath : topicLink g.root topic = g.root ++ [folderName topic, linkName] :=
    List.append_assoc ..
  have hread := Ground.read_of_link h.tree (isOrdinary_folderName hlink.folder_le)
    (isOrdinary_fileName hfile.name_le) hlink.path_le h.folder h.link
  unfold current
  rw [hpath]
  obtain ⟨hnone, rfl⟩ | hfile := h.file
  · rw [hread.2 hnone]
    rfl
  · rw [hread.1 octets hfile]

end Writing

/-- **Attempts for one topic on one date** end as their writes do, and the topic reads as what they
left. The induction is on the attempts, last one first; the first of them sets the topic up. -/
theorem exec_attempts {attempts : List Attempt} (hlink : g.Takes topic linkName)
    (hallowed : ∀ a ∈ attempts,
      g.Allows (.append a.now a.s) ∧ a.s.topic = topic ∧ a.now.date = date) :
    ∃ log, exec Attempt.step attempts g.opened = some (log, attempts.map (·.write.outcome))
      ∧ current g.root topic log.tree = readLines (content attempts)
      ∧ (attempts = [] ∧ log = g.opened ∨ Writing g topic date log (content attempts)) := by
  induction attempts using List.reverseRecOn with
  | nil =>
    refine ⟨g.opened, rfl, ?_, .inl ⟨rfl, rfl⟩⟩
    exact (Ground.Found.opened g (folderName topic)).current_eq (Tree.Extends.refl g.tree) hlink
      (fun _ h => nomatch h) fun _ _ h => nomatch h
  | append_singleton attempts a ih =>
    obtain ⟨log, hexec, -, hlog⟩ := ih fun b hb => hallowed b (List.mem_append_left _ hb)
    obtain ⟨ha, rfl, rfl⟩ :=
      hallowed a (List.mem_append_right attempts (List.mem_singleton_self a))
    -- the first attempt meets an empty root, and all others a topic that is set up
    have hready : ∃ log', log.activate a.s.topic (fileName (.ofNumber a.now.date)) = (.ok (), log')
        ∧ Writing g a.s.topic a.now.date log' (content attempts) := by
      obtain ⟨rfl, rfl⟩ | hwriting := hlog
      · exact writing_of_opened hlink ha.2.2.1.isTold_date
      · exact ⟨log, hwriting.activate, hwriting⟩
    obtain ⟨log', hactivate, hwriting⟩ := hready
    obtain ⟨log'', hstep, hwriting'⟩ := hwriting.step ha hactivate
    have hcontent : content attempts ++ a.kept = content (attempts ++ [a]) := by
      rw [content, content, List.flatMap_append, List.flatMap_singleton]
    rw [hcontent] at hwriting'
    have hfile := ha.2.1
    rw [← a.now.ofNumber_date] at hfile
    refine ⟨log'', ?_, hwriting'.current_eq hlink hfile, .inr hwriting'⟩
    rw [List.map_append]
    exact exec_concat hexec hstep

/-- **What the writes left decides about the whole day.** The log is opened on an empty root, and
any attempts follow to append messages to one topic on one date, of which any write may break off
anywhere.

* Each append ends as its write does.
* As long as the file is intact the topic reads as the lines that were left, in order, and those of
  the appends that succeeded are among them.
* As soon as it is not intact the topic cannot be read, nor after whatever attempts may follow. -/
theorem current_iff_intact (g : Ground) (topic : String) (date : Int) (attempts : List Attempt)
    (hlink : g.Takes topic linkName)
    (hallowed : ∀ a ∈ attempts,
      g.Allows (.append a.now a.s) ∧ a.s.topic = topic ∧ a.now.date = date) :
    ∃ log, exec Attempt.step attempts g.opened = some (log, attempts.map (·.write.outcome))
      ∧ (Intact attempts → current g.root topic log.tree = .ok (left attempts)
        ∧ (acknowledged attempts).Sublist (left attempts))
      ∧ (¬ Intact attempts → (∃ fault, current g.root topic log.tree = .error fault)
        ∧ ∀ more, ¬ Intact (attempts ++ more)) := by
  obtain ⟨log, hexec, hcurrent, -⟩ := exec_attempts hlink hallowed
  obtain ⟨hintact, hbroken⟩ := readLines_content fun a ha => Attempt.dated (hallowed a ha).1
  rw [← hcurrent] at hintact hbroken
  exact ⟨log, hexec, fun h => ⟨hintact h, acknowledged_sublist attempts⟩,
    fun h => ⟨hbroken h, fun _ hmore => h hmore.of_append⟩⟩

/-- One line is written, the next breaks off within the name of its first member, and one more is
written behind it. -/
def brokenOff : List Attempt :=
  [⟨⟨0, 0⟩, .whole, ⟨⟨"first"⟩, "people", ⟨.json, Bytes.ofString "one"⟩, ⟨0, 0⟩⟩⟩,
    ⟨⟨1, 0⟩, .torn 3, ⟨⟨"second"⟩, "people", ⟨.json, Bytes.ofString "two"⟩, ⟨1, 0⟩⟩⟩,
    ⟨⟨2, 0⟩, .whole, ⟨⟨"third"⟩, "people", ⟨.json, Bytes.ofString "three"⟩, ⟨2, 0⟩⟩⟩]

/-- All of them are attempts for one topic on one date. -/
theorem allows_brokenOff :
    ∀ a ∈ brokenOff, Ground.belowTop.Allows (.append a.now a.s) ∧ a.s.topic = "people"
      ∧ a.now.date = 0 := by
  decide

/-- The first line is read after the first attempt, and nothing is after the third. -/
theorem current_iff_intact_broken_off :
    (∃ log first, exec Attempt.step (brokenOff.take 1) Ground.belowTop.opened
        = some (log, [.ok ()])
      ∧ left (brokenOff.take 1) = [first]
      ∧ current Ground.belowTop.root "people" log.tree = .ok [first])
    ∧ ∃ log, exec Attempt.step brokenOff Ground.belowTop.opened
        = some (log, [.ok (), .error .noSpace, .ok ()])
      ∧ ∃ fault, current Ground.belowTop.root "people" log.tree = .error fault := by
  have hlink : Ground.belowTop.Takes "people" linkName := by decide
  obtain ⟨log, hexec, hintact, -⟩ := current_iff_intact Ground.belowTop "people" 0
    (brokenOff.take 1) hlink fun a ha => allows_brokenOff a (List.mem_of_mem_take ha)
  obtain ⟨log', hexec', -, hbroken⟩ := current_iff_intact Ground.belowTop "people" 0
    brokenOff hlink allows_brokenOff
  exact ⟨⟨log, _, hexec, rfl, (hintact (by decide +kernel)).1⟩,
    log', hexec', (hbroken (by decide +kernel)).1⟩

/-- **Lines that cannot be read although their appends succeeded**, as a write between them broke
off. -/
theorem unreadable_after_success :
    ∃ log first third, exec Attempt.step brokenOff Ground.belowTop.opened
        = some (log, [.ok (), .error .noSpace, .ok ()])
      ∧ acknowledged brokenOff = [first, third]
      ∧ ∀ ls, current Ground.belowTop.root "people" log.tree ≠ .ok ls := by
  obtain ⟨log, hexec, hcurrent, -⟩ := exec_attempts (by decide) allows_brokenOff
  obtain ⟨fault, hfault⟩ :=
    (readLines_content fun a ha => Attempt.dated (allows_brokenOff a ha).1).2 (by decide +kernel)
  refine ⟨log, _, _, hexec, rfl, fun ls hls => ?_⟩
  rw [hcurrent, hfault] at hls
  cases hls

end RecordRelay.FileLog
