import RecordRelay.FileLog
import RecordRelay.Proofs.Calendar.Timestamp
import RecordRelay.Proofs.Json.Object

/-!
# Lines read back

A line is an object of seven strings, two of which are timestamps. It **reads back** if the instants
in it can be told, and what it says about its payload restores the payload octet by octet, be it a
text or not.

A file is its lines with an end behind each of them. Since no line has an end inside, is blank or
ends in a carriage return, the file falls apart into the very lines that were written
(`readLines_written`).
-/

namespace RecordRelay.FileLog

open Json

/-! ## One line -/

namespace Line

/-- A line is an object of strings. -/
theorem toJson_eq_object (l : Line) : l.toJson = object l.members := by
  have hopen : Bytes.ofString "\x7b" = [0x7B] := by decide
  have hcomma : Bytes.ofString "," = [0x2C] := by decide
  have hcolon : Bytes.ofString ":" = [0x3A] := by decide
  have hclose : Bytes.ofString "\x7d" = [0x7D] := by decide
  have hmember : ∀ m, member m = Json.member m := fun m => by
    rw [member, Json.member, hcolon, List.append_assoc]
    rfl
  rw [toJson, members, hopen, hcomma, hclose]
  simp only [object, furtherMembers, List.map_cons, List.map_nil, List.intercalate_cons_cons,
    List.intercalate_singleton, List.flatMap_cons, List.flatMap_nil, hmember, List.cons_append,
    List.nil_append, List.append_assoc]

/-- Whether **the instants of a line can be told**. -/
structure Dated (l : Line) : Prop where
  /-- When the message was handed in. -/
  submittedAt : l.submittedAt.Told
  /-- When it was stored. -/
  appendedAt : l.appendedAt.Told

variable {told : Told} {name : String}

/-- A member that holds a text fills its field. -/
theorem fills_text {f : String → Told} (s : String) (hknown : jsonFields.names.contains name = true)
    (hfresh : told.has name = false)
    (hread : ∀ c, jsonFields.read name told c = do return (← readText c).map f) :
    Fills jsonFields told (name, s) (f s) := by
  refine ⟨hknown, hfresh, fun c rest hc => ?_⟩
  rw [hread]
  exact (readString_quote "a string" hc).map f

/-- A member that holds a timestamp fills its field, if the instant can be told. -/
theorem fills_time {f : Instant → Told} {t : Instant} (ht : t.Told)
    (hknown : jsonFields.names.contains name = true) (hfresh : told.has name = false)
    (hread : ∀ c, jsonFields.read name told c = do return (← readTime c).map f) :
    Fills jsonFields told (name, t.text) (f t) := by
  refine ⟨hknown, hfresh, fun c rest hc => ?_⟩
  have htime : Gives (readTime c) t rest := by
    obtain ⟨read, hok, hvalue, hrest⟩ :=
      readString_quote "an RFC 3339 formatted date and time string" hc
    refine ⟨read.map fun _ => t, ?_, rfl, hrest⟩
    unfold readTime readParsed
    rw [hok]
    simp only [bind, Except.bind, hvalue, Instant.read?_text ht]
    rfl
  rw [hread]
  exact htime.map f

/-- The members of a line fill a line. -/
theorem filled_members {l : Line} (h : l.Dated) :
    Filled jsonFields .nothing l.members ⟨some l.id, some l.topic, some l.submittedAt,
      some l.appendedAt, some l.contentType, some l.encoding, some l.payload⟩ := by
  refine .cons (fills_text l.id (by decide) rfl fun _ => rfl) ?_
  refine .cons (fills_text l.topic (by decide) rfl fun _ => rfl) ?_
  refine .cons (fills_time h.submittedAt (by decide) rfl fun _ => rfl) ?_
  refine .cons (fills_time h.appendedAt (by decide) rfl fun _ => rfl) ?_
  refine .cons (fills_text l.contentType (by decide) rfl fun _ => rfl) ?_
  refine .cons (fills_text l.encoding (by decide) rfl fun _ => rfl) ?_
  exact .cons (fills_text l.payload (by decide) rfl fun _ => rfl) (.nil _)

/-- A line begins with a brace and the name of its first member. -/
theorem toJson_eq_cons (l : Line) : ∃ rest, l.toJson = 0x7B :: 0x22 :: 0x69 :: rest := by
  have hid : "id".toList.flatMap quoteChar = [0x69, 0x64] := by decide
  rw [l.toJson_eq_object, members, object, List.append_assoc, List.cons_append, member_append,
    hid]
  exact ⟨_, rfl⟩

/-- It is not empty. -/
theorem toJson_ne_nil (l : Line) : l.toJson ≠ [] := by
  obtain ⟨rest, hrest⟩ := l.toJson_eq_cons
  rw [hrest]
  exact List.cons_ne_nil _ _

/-- There is no control in a line. -/
theorem noControl_toJson (l : Line) : Bytes.NoControl l.toJson := by
  rw [l.toJson_eq_object]
  exact noControl_object _

/-- A line is a text. -/
theorem isText_toJson (l : Line) : Bytes.IsText l.toJson := by
  obtain ⟨s, hs⟩ := object_eq_ofString l.members
  exact ⟨_, l.toJson_eq_object.trans hs⟩

/-- **A line reads back.** -/
theorem ofJson?_toJson {l : Line} (h : l.Dated) : ofJson? l.toJson = .ok l := by
  unfold ofJson?
  rw [toJson_eq_object, read?_object (filled_members h) rfl]
  rfl

/-- **A line restores what the message carried.** -/
theorem body?_ofSubmission (now : Instant) (s : Submission) :
    (ofSubmission now s).body? = some s.payload.bytes := by
  unfold ofSubmission body?
  split
  next encoding payload h =>
  split at h
  · next text htext =>
    cases h
    exact congrArg some (Bytes.ofString_of_text? htext)
  · cases h
    exact Text.unhex?_hex s.payload.bytes

end Line

/-! ## Whole files -/

/-- The content of a file with these lines: an end behind each of them. -/
def written (ls : List Line) : Bytes := ls.flatMap fun l => l.toJson ++ [lineEnd]

/-- A line more is written behind the others. -/
theorem written_concat (ls : List Line) (l : Line) :
    written (ls ++ [l]) = written ls ++ (l.toJson ++ [lineEnd]) := by
  simp only [written, List.flatMap_append, List.flatMap_cons, List.flatMap_nil, List.append_nil]

/-- No end of a line is among octets without controls. -/
theorem lineEnd_not_mem {line : Bytes} (h : Bytes.NoControl line) : lineEnd ∉ line := fun hmem =>
  absurd (h lineEnd hmem) (by decide)

/-- **What stands before the first end is the first line**, and the others are those behind it. -/
theorem lines_append_cons {line : Bytes} (h : Bytes.NoControl line) (rest : Bytes) :
    lines (line ++ lineEnd :: rest) = line :: lines rest := by
  have hline : withoutReturn line = line := if_neg fun hlast =>
    absurd (h 0x0D (List.mem_of_getLast? hlast)) (by decide)
  obtain ⟨piece, pieces, hpieces⟩ :=
    List.exists_cons_of_ne_nil (Text.splitOn_ne_nil lineEnd rest)
  unfold lines
  rw [Text.splitOn_append_cons (lineEnd_not_mem h), hpieces]
  exact congrArg (· :: _) hline

/-- Octets without an end are **one line**. -/
theorem lines_of_noControl {line : Bytes} (h : Bytes.NoControl line) : lines line = [line] := by
  unfold lines
  rw [Text.splitOn_of_not_mem (lineEnd_not_mem h)]
  rfl

/-- A text that begins with a brace has the brace as its first character. -/
theorem toNat_of_brace {ch : Char} {cs : List Char} {rest : Bytes}
    (h : (ch :: cs).flatMap String.utf8EncodeChar = 0x7B :: rest) : ch.toNat = 0x7B := by
  rw [List.flatMap_cons] at h
  by_cases hascii : ch.toNat < 0x80
  · rw [Bytes.utf8EncodeChar_of_lt hascii] at h
    have hnat := congrArg UInt8.toNat (List.cons.inj h).1
    rwa [Nat.toUInt8_eq, UInt8.toNat_ofNat', Nat.mod_eq_of_lt (by omega)] at hnat
  · obtain ⟨b, others, hencode⟩ :=
      List.exists_cons_of_ne_nil (String.utf8EncodeChar_ne_nil (c := ch))
    rw [hencode] at h
    have hle := Bytes.le_of_mem_utf8EncodeChar hascii (hencode ▸ List.mem_cons_self)
    rw [(List.cons.inj h).1] at hle
    exact absurd hle (by decide)

/-- A line that begins with a brace is not blank. -/
theorem isBlank_brace (rest : Bytes) : isBlank (0x7B :: rest) = false := by
  unfold isBlank
  cases htext : Bytes.text? (0x7B :: rest) with
  | none => rfl
  | some s =>
    have hoctets := Bytes.ofString_of_text? htext
    rw [Bytes.ofString] at hoctets
    rw [Option.any_some]
    cases hchars : s.toList with
    | nil =>
      rw [hchars] at hoctets
      cases hoctets
    | cons ch cs =>
      rw [hchars] at hoctets
      have hblank : Text.isBlank ch = false := by
        simp [Text.isBlank, toNat_of_brace hoctets]
      rw [List.all_cons, hblank, Bool.false_and]

/-- No line is blank. -/
theorem isBlank_toJson (l : Line) : isBlank l.toJson = false := by
  obtain ⟨rest, hrest⟩ := l.toJson_eq_cons
  rw [hrest]
  exact isBlank_brace _

/-- A file of lines is a text. -/
theorem isText_written (ls : List Line) : Bytes.IsText (written ls) := by
  refine Bytes.isText_flatten fun piece hpiece => ?_
  obtain ⟨l, -, rfl⟩ := List.mem_map.mp hpiece
  refine l.isText_toJson.append (Bytes.isText_of_lt ?_)
  simp [lineEnd]

/-- **A file reads as certain lines** if it is a text, falls apart into just these, blanks aside,
and their instants can be told. -/
theorem readLines_of_lines {content : Bytes} {ls : List Line} (htext : Bytes.IsText content)
    (hlines : (lines content).filter (!isBlank ·) = ls.map Line.toJson)
    (h : ∀ l ∈ ls, l.Dated) : readLines content = .ok ls := by
  have hread : ∀ ls : List Line, (∀ l ∈ ls, l.Dated) →
      (ls.map Line.toJson).mapM (fun line => (Line.ofJson? line).mapError SinkFault.json)
        = .ok ls := by
    intro ls hls
    induction ls with
    | nil => rfl
    | cons l ls ih =>
      have hl := Line.ofJson?_toJson (hls l List.mem_cons_self)
      rw [List.map_cons, List.mapM_cons, hl, ih fun l' hl' => hls l' (List.mem_cons_of_mem l hl')]
      rfl
  unfold readLines
  rw [Option.isNone_eq_false_iff.mpr htext.isSome_text?, hlines]
  exact hread ls h

/-- A line and its end, and what is read behind them. -/
theorem filter_lines_append (l : Line) (rest : Bytes) :
    (lines (l.toJson ++ lineEnd :: rest)).filter (!isBlank ·)
      = l.toJson :: (lines rest).filter (!isBlank ·) := by
  rw [lines_append_cons l.noControl_toJson, List.filter_cons_of_pos (by rw [isBlank_toJson]; rfl)]

/-- **A file reads back** as the lines that were written to it. -/
theorem readLines_written {ls : List Line} (h : ∀ l ∈ ls, l.Dated) :
    readLines (written ls) = .ok ls := by
  refine readLines_of_lines (isText_written ls) ?_ h
  clear h
  induction ls with
  | nil => decide
  | cons l ls ih =>
    have hcons : written (l :: ls) = l.toJson ++ lineEnd :: written ls := by
      simp only [written, List.flatMap_cons, List.append_assoc, List.singleton_append]
    rw [hcons, filter_lines_append, ih, List.map_cons]

end RecordRelay.FileLog
