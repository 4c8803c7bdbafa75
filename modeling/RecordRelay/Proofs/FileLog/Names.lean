import RecordRelay.Proofs.Calendar.Timestamp
import RecordRelay.Proofs.FileLog.Walk

/-!
# Names in a log

What a log calls its folders, its files and its links is in each case a **name** (`Path.IsName`): one
step down, and never the way to anything else. This holds of the folder of a topic whatever the topic
is, since the characters that could make something else of it are replaced, and full stops alone are
replaced too. A name that is not too long is **ordinary**, so that it can be walked; a link to a
name leads to what is called so beside the link; and different days have different files, none of
which is called like the link.
-/

namespace RecordRelay

/-- Whether a text **is a name**: one step down from a folder to what it holds, and not the way to
anything else. -/
structure Path.IsName (name : String) : Prop where
  /-- It does not stay. -/
  ne_here : ¬ (name = "" ∨ name = ".")
  /-- It does not lead up. -/
  ne_up : name ≠ ".."
  /-- It has no slash, so it is one step and does not begin at the top. -/
  no_slash : '/' ∉ name.toList
  /-- It does not end early. -/
  no_nul : '\x00' ∉ name.toList

/-- Read as a path a name is one step. -/
theorem Path.IsName.ofText {name : String} (h : Path.IsName name) : Path.ofText name = [name] := by
  rw [Path.ofText, Text.splitOn_of_not_mem h.no_slash, List.map_singleton, String.ofList_toList]

/-- A name that is not too long is ordinary. -/
theorem Path.IsName.isOrdinary {name : String} (h : Path.IsName name)
    (hsize : name.utf8ByteSize ≤ Tree.maxName) : Path.IsOrdinary name :=
  ⟨h.ne_here, h.ne_up, Nat.not_lt.mpr hsize⟩

namespace FileLog

open Calendar (Day)
open RecordRelay.Path (IsName IsOrdinary)

/-- The characters that stand for themselves. -/
theorem isPlain_iff {c : Char} :
    isPlain c = true ↔ c.isAlphanum = true ∨ c = '-' ∨ c = '_' ∨ c = '.' := by
  simp only [isPlain, Bool.or_eq_true, beq_iff_eq, or_assoc]

/-- Such characters and plus signs make a name, **if they are not all full stops**. -/
theorem isName_of_isPlain {name : String} (h : ∀ c ∈ name.toList, isPlain c = true ∨ c = '+')
    (hdot : ∃ c ∈ name.toList, c ≠ '.') : IsName name := by
  obtain ⟨c, hc, hdot⟩ := hdot
  have hdots : ∀ s : String, s.toList.all (· == '.') = true → name ≠ s := by
    rintro _ hs rfl
    exact hdot (beq_iff_eq.mp (List.all_eq_true.mp hs c hc))
  have hother : ∀ c, ¬ (isPlain c = true ∨ c = '+') → c ∉ name.toList := fun c hc hmem =>
    hc (h c hmem)
  refine ⟨?_, hdots ".." (by decide), hother '/' (by decide), hother '\x00' (by decide)⟩
  rintro (he | he)
  · exact hdots "" (by decide) he
  · exact hdots "." (by decide) he

/-! ## Folders -/

/-- The folder of a topic has a character that is **no full stop**. -/
theorem exists_ne_dot_folderChars (cs : List Char) : ∃ c ∈ folderChars cs, c ≠ '.' := by
  unfold folderChars
  split
  · exact ⟨'_', List.mem_singleton_self _, by decide⟩
  next hne =>
  split
  · obtain ⟨c, cs, rfl⟩ := List.exists_cons_of_ne_nil hne
    exact ⟨'_', List.mem_cons_self, by decide⟩
  · next hdots =>
    obtain ⟨c, hc, hdot⟩ := List.all_eq_false.mp (Bool.not_eq_true _ ▸ hdots)
    refine ⟨_, List.mem_map.mpr ⟨c, hc, rfl⟩, ?_⟩
    split
    · exact fun he => hdot (beq_iff_eq.mpr he)
    · decide

/-- All of its characters **stand for themselves**. -/
theorem isPlain_of_mem_folderChars {cs : List Char} {c : Char} (h : c ∈ folderChars cs) :
    isPlain c = true := by
  unfold folderChars at h
  split at h
  · rw [List.mem_singleton.mp h]
    decide
  · split at h
    · obtain ⟨-, -, rfl⟩ := List.mem_map.mp h
      decide
    · obtain ⟨d, -, rfl⟩ := List.mem_map.mp h
      split
      · assumption
      · decide

/-- Such characters, not all of them full stops, **are their own folder**. -/
theorem folderChars_of_isPlain {cs : List Char} (h : ∀ c ∈ cs, isPlain c = true)
    (hdot : ∃ c ∈ cs, c ≠ '.') : folderChars cs = cs := by
  obtain ⟨c, hc, hdot⟩ := hdot
  have hdots : ¬ cs.all (· == '.') = true := fun hall =>
    hdot (beq_iff_eq.mp (List.all_eq_true.mp hall c hc))
  have hself : cs.map (fun c => if isPlain c then c else '_') = cs.map id :=
    List.map_congr_left fun d hd => if_pos (h d hd)
  rw [folderChars, if_neg (List.ne_nil_of_mem hc), if_neg hdots, hself, List.map_id]

/-- The characters of the name of the folder. -/
theorem toList_folderName (topic : String) :
    (folderName topic).toList = folderChars topic.toList := String.toList_ofList

/-- **The folder of a topic has a name.** -/
theorem isName_folderName (topic : String) : IsName (folderName topic) := by
  refine isName_of_isPlain (fun c hc => .inl ?_) ?_
  · exact isPlain_of_mem_folderChars (toList_folderName topic ▸ hc)
  · rw [toList_folderName]
    exact exists_ne_dot_folderChars _

/-- The folder of its name is **the same folder**. -/
theorem folderName_folderName (topic : String) :
    folderName (folderName topic) = folderName topic := by
  rw [folderName, toList_folderName, folderChars_of_isPlain
    (fun c => isPlain_of_mem_folderChars) (exists_ne_dot_folderChars _)]
  rfl

/-- The name is ordinary, if it is not too long. -/
theorem isOrdinary_folderName {topic : String}
    (h : (folderName topic).utf8ByteSize ≤ Tree.maxName) : IsOrdinary (folderName topic) :=
  (isName_folderName topic).isOrdinary h

/-! ## Files -/

/-- The text of a day consists of digits and signs. -/
theorem isDigit_or_of_mem_dayText {d : Day} {c : Char} (h : c ∈ Instant.dayText d) :
    c.isDigit = true ∨ c = '-' ∨ c = '+' := by
  have hpadded : ∀ {width n : Nat}, c ∈ Instant.padded width n →
      c.isDigit = true ∨ c = '-' ∨ c = '+' := fun hc => .inl (Instant.isDigit_of_mem_padded hc)
  simp only [Instant.dayText, List.mem_append, List.mem_cons] at h
  obtain (hyear | rfl | hmonth) | rfl | hday := h
  · unfold Instant.yearText at hyear
    split at hyear
    · exact hpadded hyear
    · obtain rfl | hyear := List.mem_cons.mp hyear
      · split
        · exact .inr (.inl rfl)
        · exact .inr (.inr rfl)
      · exact hpadded hyear
  · exact .inr (.inl rfl)
  · exact hpadded hmonth
  · exact .inr (.inl rfl)
  · exact hpadded hday

/-- The characters of the file of a day. -/
theorem toList_fileName (d : Day) :
    (fileName d).toList = "log_".toList ++ Instant.dayText d ++ ".ndjson".toList := by
  -- rewriting would try the equation on each of the texts as well
  exact String.toList_ofList

/-- It begins with a letter. -/
theorem fileName_ne {d : Day} {s : String} (h : s.toList.head? ≠ some 'l') : fileName d ≠ s := by
  rintro rfl
  rw [toList_fileName] at h
  exact h rfl

/-- It is not called like the link. -/
theorem fileName_ne_linkName (d : Day) : fileName d ≠ linkName := fileName_ne (by decide)

/-- **The file of a day has a name**, whatever the day is. -/
theorem isName_fileName (d : Day) : IsName (fileName d) := by
  refine isName_of_isPlain (fun c hc => ?_) ⟨'l', ?_, by decide⟩
  · have hdigit : ∀ {c : Char}, c.isDigit = true → isPlain c = true := fun h =>
      isPlain_iff.mpr (.inl (Bool.or_eq_true_iff.mpr (.inr h)))
    rw [toList_fileName, List.mem_append, List.mem_append] at hc
    obtain (hc | hc) | hc := hc
    · exact .inl (List.all_eq_true.mp (by decide : "log_".toList.all isPlain = true) c hc)
    · obtain h | rfl | rfl := isDigit_or_of_mem_dayText hc
      · exact .inl (hdigit h)
      · exact .inl (by decide)
      · exact .inr rfl
    · exact .inl (List.all_eq_true.mp (by decide : ".ndjson".toList.all isPlain = true) c hc)
  · rw [toList_fileName]
    exact List.mem_append_left _ (List.mem_append_left _ (by decide))

/-- **A link to it leads to it.** -/
theorem ofText_fileName (d : Day) : Path.ofText (fileName d) = [fileName d] :=
  (isName_fileName d).ofText

/-- The name is ordinary, if it is not too long. -/
theorem isOrdinary_fileName {d : Day} (h : (fileName d).utf8ByteSize ≤ Tree.maxName) :
    IsOrdinary (fileName d) := (isName_fileName d).isOrdinary h

/-- **The link has a name.** -/
theorem isName_linkName : IsName linkName :=
  isName_of_isPlain
    (fun c hc => .inl (List.all_eq_true.mp (by decide : linkName.toList.all isPlain = true) c hc))
    ⟨'c', by decide, by decide⟩

/-- Its name is ordinary. -/
theorem isOrdinary_linkName : IsOrdinary linkName := isName_linkName.isOrdinary (by decide)

/-- **Different days have different files.** -/
theorem eq_of_fileName_eq {d e : Day} (hd : Instant.isTold d = true) (he : Instant.isTold e = true)
    (h : fileName d = fileName e) : d = e := by
  have hlist : "log_".toList ++ Instant.dayText d ++ ".ndjson".toList
      = "log_".toList ++ Instant.dayText e ++ ".ndjson".toList :=
    (toList_fileName d).symm.trans ((congrArg String.toList h).trans (toList_fileName e))
  exact Instant.eq_of_dayText_eq hd he
    (List.append_cancel_left (List.append_cancel_right hlist))

end FileLog

end RecordRelay
