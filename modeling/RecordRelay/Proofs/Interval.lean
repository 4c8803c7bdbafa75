import RecordRelay.Interval

/-!
# Which fragment is the interval

An opening parenthesis counts only if it is **closed on its line**: if a closing one follows it
before the line ends. What stands between the two may hold further opening parentheses, so "the
first fragment" is not the innermost one; it begins at the leftmost parenthesis that counts and ends
at the first closing one behind it.

This says which fragment a text has without scanning it. The scan is shown to find that fragment,
to find no other, and to find one whenever there is one (`leftmost_extracted`). The part that is not
immediate is that the scan may go on where it left off: an opening parenthesis that is not closed on
its line takes nothing with it, since what stands behind it is searched again from its first
character.
-/

namespace RecordRelay.Interval

variable {c : Char} {cs s : List Char}

/-! ## Behind an opening parenthesis -/

/-- Whether these characters **close a parenthesis** in front of them, before their line ends. -/
def Closes (cs : List Char) : Prop := ∃ inside behind, cs = inside ++ ')' :: behind ∧ '\n' ∉ inside

/-- What stands before the first closing parenthesis on this line **is found**. -/
theorem upToClose?_append (hclose : ')' ∉ s) (hline : '\n' ∉ s) (behind : List Char) :
    upToClose? (s ++ ')' :: behind) = some s := by
  induction s with
  | nil => rfl
  | cons c s ih =>
    rw [List.mem_cons, not_or] at hclose hline
    rw [List.cons_append, upToClose?, if_neg (Ne.symm hclose.1), if_neg (Ne.symm hline.1),
      ih hclose.2 hline.2, Option.map_some]

/-- **Nothing else is found.** -/
theorem eq_append_of_upToClose? (h : upToClose? cs = some s) :
    (∃ behind, cs = s ++ ')' :: behind) ∧ ')' ∉ s ∧ '\n' ∉ s := by
  fun_induction upToClose? cs generalizing s with
  | case1 | case3 => cases h
  | case2 rest =>
    cases h
    exact ⟨⟨rest, rfl⟩, List.not_mem_nil, List.not_mem_nil⟩
  | case4 c rest hclose hline ih =>
    obtain ⟨inside, hinside, rfl⟩ := Option.map_eq_some_iff.mp h
    obtain ⟨⟨behind, rfl⟩, hcloseNone, hlineNone⟩ := ih hinside
    exact ⟨⟨behind, rfl⟩, List.not_mem_cons_of_ne_of_not_mem (Ne.symm hclose) hcloseNone,
      List.not_mem_cons_of_ne_of_not_mem (Ne.symm hline) hlineNone⟩

/-- Something is found **whenever a closing parenthesis is there**: of those on the line one comes
first. -/
theorem isSome_upToClose?_iff : (upToClose? cs).isSome ↔ Closes cs := by
  constructor
  · intro h
    obtain ⟨s, hs⟩ := Option.isSome_iff_exists.mp h
    obtain ⟨⟨behind, hcs⟩, -, hline⟩ := eq_append_of_upToClose? hs
    exact ⟨s, behind, hcs, hline⟩
  · rintro ⟨inside, behind, rfl, hline⟩
    induction inside with
    | nil => rfl
    | cons c inside ih =>
      rw [List.mem_cons, not_or] at hline
      rw [List.cons_append, upToClose?, if_neg (Ne.symm hline.1)]
      split
      · rfl
      · rw [Option.isSome_map]
        exact ih hline.2

/-! ## The first parenthesis that counts -/

/-- Whether characters are **a fragment** of others, with the first parenthesis that is closed on
its line in front of them and the first closing one behind. -/
def IsFirst (cs s : List Char) : Prop :=
  ∃ before behind, cs = before ++ '(' :: (s ++ ')' :: behind) ∧ ')' ∉ s ∧ '\n' ∉ s
    ∧ ∀ earlier later, before = earlier ++ '(' :: later →
      ¬ Closes (later ++ '(' :: (s ++ ')' :: behind))

/-- A character in front of the fragment changes nothing, **unless it is a parenthesis that
counts**. -/
theorem isFirst_cons_iff (h : c = '(' → ¬ Closes cs) : IsFirst (c :: cs) s ↔ IsFirst cs s := by
  constructor
  · rintro ⟨before, behind, hcs, hclose, hline, hfirst⟩
    cases before with
    | nil =>
      obtain ⟨rfl, rfl⟩ := List.cons.inj hcs
      exact absurd ⟨s, behind, rfl, hline⟩ (h rfl)
    | cons d before =>
      obtain ⟨rfl, rfl⟩ := List.cons.inj hcs
      exact ⟨before, behind, rfl, hclose, hline, fun earlier later hbefore =>
        hfirst (c :: earlier) later (congrArg (c :: ·) hbefore)⟩
  · rintro ⟨before, behind, rfl, hclose, hline, hfirst⟩
    refine ⟨c :: before, behind, rfl, hclose, hline, fun earlier later hbefore => ?_⟩
    cases earlier with
    | nil =>
      obtain ⟨rfl, rfl⟩ := List.cons.inj hbefore
      exact h rfl
    | cons d earlier =>
      obtain ⟨-, hrest⟩ := List.cons.inj hbefore
      exact hfirst earlier later hrest

/-- A parenthesis that counts **begins the fragment**. -/
theorem isFirst_open_iff (h : Closes cs) : IsFirst ('(' :: cs) s ↔ upToClose? cs = some s := by
  constructor
  · rintro ⟨before, behind, hcs, hclose, hline, hfirst⟩
    cases before with
    | nil =>
      obtain ⟨-, rfl⟩ := List.cons.inj hcs
      exact upToClose?_append hclose hline behind
    | cons d before =>
      obtain ⟨rfl, rfl⟩ := List.cons.inj hcs
      exact absurd h (hfirst [] before rfl)
  · intro hfound
    obtain ⟨⟨behind, rfl⟩, hclose, hline⟩ := eq_append_of_upToClose? hfound
    refine ⟨[], behind, rfl, hclose, hline, fun earlier later hbefore => ?_⟩
    exact absurd hbefore.symm (List.append_ne_nil_of_right_ne_nil _ (List.cons_ne_nil _ _))

/-- **The scan finds the first fragment** and no other. -/
theorem fragment?_eq_some_iff : fragment? cs = some s ↔ IsFirst cs s := by
  induction cs with
  | nil =>
    refine iff_of_false (fun h => nomatch h) ?_
    rintro ⟨before, behind, hcs, -⟩
    exact absurd hcs.symm (List.append_ne_nil_of_right_ne_nil _ (List.cons_ne_nil _ _))
  | cons c cs ih =>
    rw [fragment?]
    by_cases hopen : c = '('
    · rw [if_pos hopen]
      cases hfound : upToClose? cs with
      | none =>
        have hnot : ¬ Closes cs := fun h => by
          rw [← isSome_upToClose?_iff, hfound] at h
          cases h
        rw [isFirst_cons_iff fun _ => hnot]
        exact ih
      | some inside =>
        have hcloses : Closes cs := isSome_upToClose?_iff.mp (by rw [hfound]; rfl)
        rw [hopen, isFirst_open_iff hcloses, hfound]
    · rw [if_neg hopen, isFirst_cons_iff fun h => absurd h hopen]
      exact ih

/-- It finds one **whenever a parenthesis is closed on its line**. -/
theorem isSome_fragment?_iff :
    (fragment? cs).isSome ↔ ∃ before rest, cs = before ++ '(' :: rest ∧ Closes rest := by
  constructor
  · intro h
    obtain ⟨s, hs⟩ := Option.isSome_iff_exists.mp h
    obtain ⟨before, behind, hcs, -, hline, -⟩ := fragment?_eq_some_iff.mp hs
    exact ⟨before, _, hcs, s, behind, rfl, hline⟩
  · rintro ⟨before, rest, rfl, hcloses⟩
    induction before with
    | nil =>
      obtain ⟨s, hs⟩ := Option.isSome_iff_exists.mp (isSome_upToClose?_iff.mpr hcloses)
      rw [List.nil_append, fragment?, if_pos rfl, hs]
      rfl
    | cons c before ih =>
      rw [List.cons_append, fragment?]
      split
      · split
        · rfl
        · exact ih
      · exact ih

/-! ## Texts -/

/-- Whether what follows an opening parenthesis **closes it on its line**. -/
def ClosesOnLine (rest : String) : Prop :=
  ∃ inside behind, rest = inside ++ ")" ++ behind ∧ '\n' ∉ inside.toList

/-- The same is said of texts and of their characters. -/
theorem closes_toList_iff {rest : String} : Closes rest.toList ↔ ClosesOnLine rest := by
  constructor
  · rintro ⟨inside, behind, hrest, hline⟩
    refine ⟨String.ofList inside, String.ofList behind, String.toList_inj.mp ?_, ?_⟩
    · simpa using hrest
    · rwa [String.toList_ofList]
  · rintro ⟨inside, behind, rfl, hline⟩
    exact ⟨inside.toList, behind.toList, by simp, hline⟩

/-- So is it that one of the parentheses is closed on its line, -/
theorem exists_closes_toList_iff {body : String} :
    (∃ before rest, body.toList = before ++ '(' :: rest ∧ Closes rest)
      ↔ ∃ before rest, body = before ++ "(" ++ rest ∧ ClosesOnLine rest := by
  constructor
  · rintro ⟨before, rest, hbody, hcloses⟩
    refine ⟨String.ofList before, String.ofList rest, String.toList_inj.mp ?_, ?_⟩
    · simpa using hbody
    · rwa [← closes_toList_iff, String.toList_ofList]
  · rintro ⟨before, rest, rfl, hcloses⟩
    exact ⟨before.toList, rest.toList, by simp, closes_toList_iff.mpr hcloses⟩

/-- and which of them is the first. -/
theorem isFirst_toList_iff {body s : String} :
    IsFirst body.toList s.toList ↔ ∃ before behind,
      body = before ++ "(" ++ s ++ ")" ++ behind ∧ ')' ∉ s.toList ∧ '\n' ∉ s.toList
      ∧ ∀ earlier later, before = earlier ++ "(" ++ later →
        ¬ ClosesOnLine (later ++ "(" ++ s ++ ")" ++ behind) := by
  constructor
  · rintro ⟨before, behind, hbody, hclose, hline, hfirst⟩
    refine ⟨String.ofList before, String.ofList behind, String.toList_inj.mp ?_, hclose, hline,
      fun earlier later hbefore => ?_⟩
    · simpa using hbody
    · have h := hfirst earlier.toList later.toList (by simpa using congrArg String.toList hbefore)
      rw [← closes_toList_iff]
      simpa using h
  · rintro ⟨before, behind, rfl, hclose, hline, hfirst⟩
    refine ⟨before.toList, behind.toList, by simp, hclose, hline, fun earlier later hbefore => ?_⟩
    have h := hfirst (String.ofList earlier) (String.ofList later)
      (String.toList_inj.mp (by simpa using hbefore))
    rw [← closes_toList_iff] at h
    simpa using h

/-- The interval has **the characters of the fragment** that is found. -/
theorem extract?_eq_some_iff {body s : String} :
    extract? body = some s ↔ fragment? body.toList = some s.toList := by
  rw [extract?, Option.map_eq_some_iff]
  constructor
  · rintro ⟨inside, hinside, rfl⟩
    rwa [String.toList_ofList]
  · exact fun h => ⟨s.toList, h, String.ofList_toList⟩

/-- **The interval is the leftmost fragment and the shortest there.** A text gives an interval
exactly if one of its opening parentheses is closed on its line. What it gives are the characters
between the first such parenthesis and the first closing one behind it: no closing parenthesis and
no line feed is among them, though an opening parenthesis may be, and no parenthesis before them is
closed on its line. A text that falls into such parts gives the middle one. -/
theorem leftmost_extracted :
    (∀ body, (extract? body).isSome ↔ ∃ before rest, body = before ++ "(" ++ rest
      ∧ ClosesOnLine rest)
    ∧ (∀ body s, extract? body = some s ↔ ∃ before behind,
      body = before ++ "(" ++ s ++ ")" ++ behind ∧ ')' ∉ s.toList ∧ '\n' ∉ s.toList
      ∧ ∀ earlier later, before = earlier ++ "(" ++ later →
        ¬ ClosesOnLine (later ++ "(" ++ s ++ ")" ++ behind))
    ∧ ∃ body s, extract? body = some s ∧ '(' ∈ s.toList := by
  refine ⟨fun body => ?_, fun body s => ?_, "((a)", "(a", by decide, by decide⟩
  · rw [extract?, Option.isSome_map, isSome_fragment?_iff, exists_closes_toList_iff]
  · rw [extract?_eq_some_iff, fragment?_eq_some_iff, isFirst_toList_iff]

/-- A parenthesis that its line leaves open is passed, and one inside the fragment belongs to it. -/
example : extract? "a) (b\n((c) d)" = some "(c" := by decide

end RecordRelay.Interval
