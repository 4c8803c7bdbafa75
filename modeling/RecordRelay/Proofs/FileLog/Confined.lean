import RecordRelay.Proofs.FileLog.Names

/-!
# A topic stays in its folder

Of all that a log makes paths of, only the topic comes from outside. So whatever the topic is, with
slashes, full stops and any other characters, **every path that an append or a reading names is the
folder of the topic or lies directly in it**, and that folder lies directly in the root
(`topic_stays_in_folder`).

Which paths are named cannot be seen from what an append leaves in a tree. Append and reading are
therefore written down once more as *scripts*, which reach the tree only through *calls*, each with
the paths that it names. Run on a tree, the scripts do what the log does; and whatever the calls are
answered, be it by a tree with links in it or by one that fails at will, the scripts go on to name
the same few paths.
-/

namespace RecordRelay

/-- Whether a path **lies directly in** a folder. -/
def Path.IsIn (p folder : Path) : Prop := ∃ name, Path.IsName name ∧ p = folder ++ [name]

namespace FileLog

open RecordRelay.Path (IsName IsIn)

/-- Whether a path **stays in the folder of a topic**: it is the folder or lies directly in it. -/
def StaysIn (root : Path) (topic : String) (p : Path) : Prop :=
  p = topicFolder root topic ∨ IsIn p (topicFolder root topic)

/-! ## Scripts -/

/-- A **call** to a tree of files, with the type of its answer. -/
inductive Call : Type → Type where
  | makeFolders (p : Path) : Call (Except OsFault Unit)
  | target? (p : Path) : Call (Option String)
  | exists? (p : Path) : Call Bool
  | removeFile (p : Path) : Call (Except OsFault Unit)
  | makeLink (p : Path) (target : String) : Call (Except OsFault Unit)
  | modify (p : Path) (f : Bytes → Bytes) : Call (Except OsFault Unit)
  | read (p : Path) : Call (Except OsFault Bytes)

/-- The **paths that a call names**. A link also names the place that it leads to. -/
def Call.named {β : Type} : Call β → List Path
  | makeFolders p | target? p | exists? p | removeFile p | modify p _ | read p => [p]
  | makeLink p target => [p, p.dropLast ++ Path.ofText target]

/-- What a call does on a tree. -/
def Call.run {β : Type} : Call β → Tree → β × Tree
  | makeFolders p, t => t.makeFolders p
  | target? p, t => (t.target? p, t)
  | exists? p, t => (t.exists? p, t)
  | removeFile p, t => t.settle (t.removeFile p)
  | makeLink p target, t => t.settle (t.make p (.link target))
  | modify p f, t => t.settle (t.modify p f)
  | read p, t => (t.read p, t)

/-- A **script**: it is done, or makes a call and goes on with the answer. -/
inductive Script (α : Type) : Type 1 where
  | done (a : α)
  | call {β : Type} (c : Call β) (next : β → Script α)

namespace Script

variable {α : Type}

/-- What a script does on a tree. -/
def run : Script α → Tree → α × Tree
  | done a, t => (a, t)
  | call c next, t => (next (c.run t).1).run (c.run t).2

/-- Whether a script **names only certain paths**, whatever its calls are answered. -/
def Names (allowed : Path → Prop) : Script α → Prop
  | done _ => True
  | call c next => (∀ p ∈ c.named, allowed p) ∧ ∀ answer, (next answer).Names allowed

end Script

open Script (done call)

variable {α : Type}

/-- The script that points a link to a file beside it. -/
def pointing (p : Path) (file : String) (next : Except OsFault Unit → Script α) : Script α :=
  call (.target? p) fun target =>
    if target.any (leadsTo · file) then next (.ok ())
    else call (.exists? p) fun there =>
      if there then
        call (.removeFile p) fun
          | .error fault => next (.error fault)
          | .ok () => call (.makeLink p file) next
      else call (.makeLink p file) next

/-- The script that sets a topic up; it goes on with what is remembered then. -/
def activating (root : Path) (topic file : String) (active : List (String × String))
    (next : Except OsFault Unit → List (String × String) → Script α) : Script α :=
  if active.lookup topic = some file then next (.ok ()) active
  else call (.makeFolders (topicFolder root topic)) fun
    | .error fault => next (.error fault) active
    | .ok () => pointing (topicLink root topic) file fun
      | .error fault => next (.error fault) active
      | .ok () => next (.ok ()) ((topic, file) :: active.filter fun x => x.1 ≠ topic)

/-- The script that **appends a message**. -/
def appending (now : Instant) (write : Write) (s : Submission) (root : Path)
    (active : List (String × String)) : Script (Except OsFault Unit × List (String × String)) :=
  activating root s.topic (fileName now.day) active fun
    | .error fault, active => done (.error fault, active)
    | .ok (), active =>
      let line := (Line.ofSubmission now s).toJson ++ [lineEnd]
      call (.modify (topicFolder root s.topic ++ [fileName now.day]) (· ++ write.kept line)) fun
        | .error .noSpace => done (.error .noSpace, active)
        | .error fault => done (.error fault, active.filter fun x => x.1 ≠ s.topic)
        | .ok () => done (write.outcome, active)

/-- The script that **reads a topic**. -/
def reading (root : Path) (topic : String) : Script (Except SinkFault (List Line)) :=
  call (.read (topicLink root topic)) fun
    | .ok content => done (readLines content)
    | .error .notFound => done (.ok [])
    | .error fault => done (.error (.io (.os fault)))

/-! ## What the scripts do -/

theorem run_target? (p : Path) (next : Option String → Script α) (t : Tree) :
    (call (.target? p) next).run t = (next (t.target? p)).run t := rfl

theorem run_exists? (p : Path) (next : Bool → Script α) (t : Tree) :
    (call (.exists? p) next).run t = (next (t.exists? p)).run t := rfl

theorem run_removeFile (p : Path) (next : Except OsFault Unit → Script α) (t : Tree) :
    (call (.removeFile p) next).run t
      = (next (t.settle (t.removeFile p)).1).run (t.settle (t.removeFile p)).2 := rfl

theorem run_modify (p : Path) (f : Bytes → Bytes) (next : Except OsFault Unit → Script α)
    (t : Tree) :
    (call (.modify p f) next).run t
      = (next (t.settle (t.modify p f)).1).run (t.settle (t.modify p f)).2 := rfl

/-- Pointing a link is what its script does. -/
theorem run_pointing (p : Path) (file : String) (next : Except OsFault Unit → Script α) (t : Tree) :
    (pointing p file next).run t = (next (point t p file).1).run (point t p file).2 := by
  rw [pointing, run_target?, point]
  split
  · rfl
  · rw [run_exists?]
    split
    · rw [run_removeFile]
      rcases t.settle (t.removeFile p) with ⟨fault | ⟨⟩, t'⟩ <;> rfl
    · rfl

/-- Setting a topic up is what its script does. -/
theorem run_activating (root : Path) (topic file : String) (active : List (String × String))
    (next : Except OsFault Unit → List (String × String) → Script α) (t : Tree) :
    (activating root topic file active next).run t
      = let r := FileLog.activate topic file ⟨root, active, t⟩
        (next r.1 r.2.active).run r.2.tree := by
  unfold activating FileLog.activate
  dsimp only
  split
  · rfl
  · simp only [Script.run, Call.run]
    rcases t.makeFolders (topicFolder root topic) with ⟨fault | ⟨⟩, t'⟩
    · rfl
    · dsimp only
      rw [run_pointing]
      rcases point t' (topicLink root topic) file with ⟨fault | ⟨⟩, t''⟩ <;> rfl

/-- Setting a topic up leaves the root where it is. -/
theorem root_activate (topic file : String) (log : FileLog) :
    (activate topic file log).2.root = log.root := by
  unfold activate
  split
  · rfl
  · rcases log.tree.makeFolders (topicFolder log.root topic) with ⟨fault | ⟨⟩, t⟩
    · rfl
    · dsimp only
      rcases point t (topicLink log.root topic) file with ⟨fault | ⟨⟩, t'⟩ <;> rfl

/-- **An append is what its script does.** -/
theorem append_eq_run (now : Instant) (write : Write) (s : Submission) (log : FileLog) :
    log.append now write s
      = let r := (appending now write s log.root log.active).run log.tree
        (r.1.1, ⟨log.root, r.1.2, r.2⟩) := by
  have hroot := root_activate s.topic (fileName now.day) log
  unfold appending append
  rw [run_activating]
  rcases hset : activate s.topic (fileName now.day) log with ⟨outcome, root, active, t⟩
  rw [hset] at hroot
  obtain rfl : root = log.root := hroot
  rcases outcome with fault | ⟨⟩
  · simp only [hset]
    rfl
  · simp only [hset, run_modify]
    rcases t.modify _ _ with fault | t'
    · cases fault <;> rfl
    · rfl

/-- **A reading is what its script does**; it leaves the tree as it is. -/
theorem run_reading (root : Path) (topic : String) (t : Tree) :
    (reading root topic).run t = (current root topic t, t) := by
  unfold reading current
  simp only [Script.run, Call.run]
  rcases t.read (topicLink root topic) with fault | content
  · cases fault <;> rfl
  · rfl

/-! ## What the scripts name -/

/-- Pointing a link names the link and the file beside it. -/
theorem names_pointing {allowed : Path → Prop} {p : Path} {file : String}
    {next : Except OsFault Unit → Script α} (hp : allowed p)
    (hfile : allowed (p.dropLast ++ Path.ofText file)) (hnext : ∀ r, (next r).Names allowed) :
    (pointing p file next).Names allowed := by
  have hone : ∀ q ∈ [p], allowed q := by simpa using hp
  have hmake : (call (.makeLink p file) next).Names allowed :=
    ⟨by simpa [Call.named] using ⟨hp, hfile⟩, hnext⟩
  refine ⟨hone, fun target => ?_⟩
  dsimp only
  split
  · exact hnext _
  · refine ⟨hone, fun there => ?_⟩
    dsimp only
    split
    · refine ⟨hone, fun removed => ?_⟩
      rcases removed with fault | ⟨⟩
      · exact hnext _
      · exact hmake
    · exact hmake

/-- What stays in the folder of a topic: the folder itself. -/
theorem staysIn_topicFolder (root : Path) (topic : String) :
    StaysIn root topic (topicFolder root topic) := .inl rfl

/-- And whatever has a name there. -/
theorem staysIn_of_isName {name : String} (h : IsName name) (root : Path) (topic : String) :
    StaysIn root topic (topicFolder root topic ++ [name]) := .inr ⟨name, h, rfl⟩

/-- The link does. -/
theorem staysIn_topicLink (root : Path) (topic : String) :
    StaysIn root topic (topicLink root topic) := staysIn_of_isName isName_linkName root topic

/-- The root does not, for the folder lies below it. -/
theorem not_staysIn_root (root : Path) (topic : String) : ¬ StaysIn root topic root := by
  rintro (h | ⟨name, -, h⟩)
  · have hlength := congrArg List.length h
    simp [topicFolder] at hlength
  · have hlength := congrArg List.length h
    simp [topicFolder] at hlength

/-- Setting a topic up **names nothing outside of its folder**. -/
theorem names_activating {root : Path} {topic file : String} {active : List (String × String)}
    {next : Except OsFault Unit → List (String × String) → Script α} (hfile : IsName file)
    (hnext : ∀ r active, (next r active).Names (StaysIn root topic)) :
    (activating root topic file active next).Names (StaysIn root topic) := by
  unfold activating
  split
  · exact hnext _ _
  · refine ⟨by simpa [Call.named] using staysIn_topicFolder root topic, fun made => ?_⟩
    rcases made with fault | ⟨⟩
    · exact hnext _ _
    · refine names_pointing (staysIn_topicLink root topic) ?_ fun pointed => ?_
      · -- beside the link means in the folder of the topic
        rw [topicLink, List.dropLast_concat, hfile.ofText]
        exact staysIn_of_isName hfile root topic
      · rcases pointed with fault | ⟨⟩ <;> exact hnext _ _

/-- An append **names nothing outside of the folder of its topic**. -/
theorem names_appending (now : Instant) (write : Write) (s : Submission) (root : Path)
    (active : List (String × String)) :
    (appending now write s root active).Names (StaysIn root s.topic) := by
  refine names_activating (isName_fileName now.day) fun set active => ?_
  rcases set with fault | ⟨⟩
  · trivial
  · refine ⟨by simpa [Call.named] using staysIn_of_isName (isName_fileName now.day) root s.topic,
      fun written => ?_⟩
    rcases written with fault | ⟨⟩
    · cases fault <;> trivial
    · trivial

/-- A reading names nothing outside of it either. -/
theorem names_reading (root : Path) (topic : String) :
    (reading root topic).Names (StaysIn root topic) := by
  refine ⟨by simpa [Call.named] using staysIn_topicLink root topic, fun content => ?_⟩
  rcases content with fault | content
  · cases fault <;> trivial
  · trivial

/-- **No topic leaves its folder, and no folder leaves the root.** Whatever the topic is, its folder
is called by letters and digits of ASCII, hyphens, underscores and full stops, not by full stops
alone, and a topic of that name has the same folder; so the folder lies directly in the root. A
reading is a script, and so is an append, and the paths that they name, whatever the files answer,
are that folder and what lies directly in it, the root never. -/
theorem topic_stays_in_folder (topic : String) :
    (folderName topic ≠ ""
      ∧ (∀ c ∈ (folderName topic).toList, c.isAlphanum = true ∨ c = '-' ∨ c = '_' ∨ c = '.')
      ∧ (∃ c ∈ (folderName topic).toList, c ≠ '.')
      ∧ folderName (folderName topic) = folderName topic)
    ∧ (∀ root, IsIn (topicFolder root topic) root ∧ ¬ StaysIn root topic root)
    ∧ (∀ root, (reading root topic).Names (StaysIn root topic)
      ∧ ∀ t, (reading root topic).run t = (current root topic t, t))
    ∧ ∀ now write (s : Submission) (log : FileLog), s.topic = topic →
      (appending now write s log.root log.active).Names (StaysIn log.root topic)
      ∧ log.append now write s
        = let r := (appending now write s log.root log.active).run log.tree
          (r.1.1, ⟨log.root, r.1.2, r.2⟩) := by
  have hlist := toList_folderName topic
  have hname := isName_folderName topic
  refine ⟨⟨fun he => hname.ne_here (.inl he), fun c hc => ?_, ?_, folderName_folderName topic⟩,
    fun root => ⟨⟨_, hname, rfl⟩, not_staysIn_root root topic⟩,
    fun root => ⟨names_reading root topic, run_reading root topic⟩, ?_⟩
  · exact isPlain_iff.mp (isPlain_of_mem_folderChars (hlist ▸ hc))
  · exact hlist ▸ exists_ne_dot_folderChars topic.toList
  · rintro now write s log rfl
    exact ⟨names_appending now write s log.root log.active, append_eq_run now write s log⟩

/-- Full stops beside characters that are replaced stay full stops, and lead nowhere. -/
theorem topic_stays_in_folder_dots :
    folderName "../..\x00" = ".._.._" ∧ ∀ root, IsIn (root ++ [".._.._"]) root := by
  have hname : folderName "../..\x00" = ".._.._" := by decide
  refine ⟨hname, fun root => ?_⟩
  have h := ((topic_stays_in_folder "../..\x00").2.1 root).1
  rwa [topicFolder, hname] at h

end FileLog

end RecordRelay
