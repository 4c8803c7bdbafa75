import RecordRelay.Credential
import RecordRelay.Proofs.Text.Case

/-!
# The one key

A header authorizes a request if it is the scheme, one space and the configured key, and **no other
header does** (`authorizes_exactly`). The scheme may be written in any case and holds no space, so
the space that ends it is the first one of the header, and everything behind that space has to be
the key: nothing is trimmed, and a key may hold spaces of its own.

Since the scheme has one length in all its cases, so have all the headers that authorize. Whatever
is put in front of such a header or behind it therefore spoils it.
-/

namespace RecordRelay.Credential

open RecordRelay.Text (EqualUpToCase equalUpToCase_iff)

variable {configured header key : String}

/-- Whether a text **writes the scheme**, in any case. -/
def IsScheme (s : String) : Prop := EqualUpToCase s.toList scheme.toList

/-- The scheme writes itself. -/
theorem isScheme_scheme : IsScheme scheme := .refl _

/-- It has six letters in all its cases, -/
theorem IsScheme.length_eq {s : String} (h : IsScheme s) : s.length = 6 := by
  have hlength := List.Forall₂.length_eq h
  rwa [String.length_toList] at hlength

/-- and none of them is a space. -/
theorem IsScheme.ne_space {s : String} (h : IsScheme s) {c : Char} (hc : c ∈ s.toList) :
    decide (c ≠ ' ') = true := by
  rw [decide_eq_true_iff]
  rintro rfl
  exact absurd (EqualUpToCase.mem h (by decide) hc) (by decide)

/-- The comparison with the scheme is the one up to case. -/
theorem sameUpToCase_iff {s : String} :
    sameUpToCase s.toList scheme.toList = true ↔ IsScheme s := by
  rw [sameUpToCase, beq_iff_eq, IsScheme, equalUpToCase_iff]

/-- A header is cut **at its first space**. -/
theorem eq_append_of_dropWhile {cs rest : List Char} {c : Char}
    (h : cs.dropWhile (· ≠ ' ') = c :: rest) : cs = cs.takeWhile (· ≠ ' ') ++ ' ' :: rest := by
  induction cs with
  | nil => cases h
  | cons a cs ih =>
    by_cases ha : a = ' '
    · subst ha
      obtain ⟨-, rfl⟩ := List.cons.inj h
      rfl
    · have hkept : decide (a ≠ ' ') = true := decide_eq_true ha
      simp only [List.dropWhile_cons, hkept, if_true] at h
      simp only [List.takeWhile_cons, hkept, if_true, List.cons_append, List.cons.injEq, true_and]
      exact ih h

/-- **A header carries a key** if it is the scheme, one space and the key, and the key is not
empty. -/
theorem key?_eq_some_iff :
    key? (some header) = some key ↔ key ≠ "" ∧ ∃ s, IsScheme s ∧ header = s ++ " " ++ key := by
  have hjoined : ∀ s : String, (s ++ " " ++ key).toList = s.toList ++ ' ' :: key.toList := fun s => by
    rw [String.toList_append, String.toList_append, List.append_assoc]
    rfl
  constructor
  · intro h
    simp only [key?, bind, Option.bind] at h
    split at h
    · cases h
    next c rest hdrop =>
    split at h
    next hcond =>
      obtain rfl := Option.some.inj h
      refine ⟨fun he => hcond.2 ?_, String.ofList (header.toList.takeWhile (· ≠ ' ')), ?_, ?_⟩
      · rwa [← String.toList_eq_nil_iff, String.toList_ofList] at he
      · rw [← sameUpToCase_iff, String.toList_ofList]
        exact hcond.1
      · apply String.ext
        rw [hjoined, String.toList_ofList, String.toList_ofList]
        exact eq_append_of_dropWhile hdrop
    · cases h
  · rintro ⟨hkey, s, hs, rfl⟩
    have htake : (s ++ " " ++ key).toList.takeWhile (· ≠ ' ') = s.toList := by
      rw [hjoined, List.takeWhile_append_of_pos fun c hc => hs.ne_space hc]
      exact List.append_nil _
    have hdrop : (s ++ " " ++ key).toList.dropWhile (· ≠ ' ') = ' ' :: key.toList := by
      rw [hjoined, List.dropWhile_append_of_pos fun c hc => hs.ne_space hc]
      rfl
    have hrest : key.toList ≠ [] := fun he => hkey (String.toList_eq_nil_iff.mp he)
    simp only [key?, bind, Option.bind, htake, hdrop, sameUpToCase_iff.mpr hs, hrest, ne_eq,
      not_false_eq_true, and_self, if_true, String.ofList_toList]

/-- **The header that authorizes** is the scheme, one space and the configured key. -/
theorem authorizes_iff : authorizes configured (some header) = true
    ↔ configured ≠ "" ∧ ∃ s, IsScheme s ∧ header = s ++ " " ++ configured := by
  rw [← key?_eq_some_iff]
  unfold authorizes
  cases hkey : key? (some header) with
  | none => simp
  | some key =>
    simp only [accepts, decide_eq_true_eq, Option.some.injEq]
    refine ⟨fun h => h.2, fun h => ⟨?_, h⟩⟩
    rw [← h]
    exact (key?_eq_some_iff.mp hkey).1

/-- Behind the scheme and one space **only the configured key** authorizes. -/
theorem authorizes_scheme_iff {s : String} (hs : IsScheme s) :
    authorizes configured (some (s ++ " " ++ key)) = true ↔ configured ≠ "" ∧ key = configured := by
  rw [authorizes_iff]
  refine and_congr_right fun _ => ⟨?_, fun h => ⟨s, hs, by rw [h]⟩⟩
  rintro ⟨s', hs', heq⟩
  have hlist := congrArg String.toList heq
  simp only [String.toList_append, List.append_assoc] at hlist
  have hlength : s.toList.length = s'.toList.length := by
    rw [String.length_toList, String.length_toList, hs.length_eq, hs'.length_eq]
  obtain ⟨-, hrest⟩ := List.append_inj hlist hlength
  exact String.ext (List.append_cancel_left hrest)

/-- **All headers that authorize have one length.** -/
theorem length_of_authorizes (h : authorizes configured (some header) = true) :
    header.length = 7 + configured.length := by
  obtain ⟨-, s, hs, rfl⟩ := authorizes_iff.mp h
  rw [String.length_append, String.length_append, hs.length_eq]
  rfl

/-- What is put in front of such a header or behind it **spoils it**. -/
theorem not_authorizes_padded (h : authorizes configured (some header) = true) {padding : String}
    (hpadding : padding ≠ "") :
    authorizes configured (some (padding ++ header)) = false
      ∧ authorizes configured (some (header ++ padding)) = false := by
  have hpos : padding.length ≠ 0 := by
    rwa [← String.length_toList, ne_eq, List.length_eq_zero_iff, String.toList_eq_nil_iff]
  have hother : ∀ other : String, other.length ≠ header.length →
      authorizes configured (some other) = false := by
    intro other hne
    rw [← Bool.not_eq_true]
    exact fun hauthorizes =>
      hne ((length_of_authorizes hauthorizes).trans (length_of_authorizes h).symm)
  constructor
  · exact hother _ (by rw [String.length_append]; omega)
  · exact hother _ (by rw [String.length_append]; omega)

/-- Without a configured key **no header** authorizes. -/
theorem authorizes_empty (header : Option String) : authorizes "" header = false := by
  unfold authorizes
  cases key? header with
  | none => rfl
  | some key => rfl

/-- **Exactly one key is accepted.** A header authorizes if and only if a key is configured and the
header is the scheme in any case, one space and that key. So

* of all that may stand behind the scheme and a space, the key and nothing else is accepted, be it
  that the other is a part of the key, goes on behind it or has blanks at its ends;
* a header that authorizes does so no longer with anything in front of it or behind it;
* without a configured key no header authorizes. -/
theorem authorizes_exactly (configured : String) :
    (∀ header, authorizes configured (some header) = true
      ↔ configured ≠ "" ∧ ∃ s, IsScheme s ∧ header = s ++ " " ++ configured)
    ∧ (∀ s key, IsScheme s → (authorizes configured (some (s ++ " " ++ key)) = true
      ↔ configured ≠ "" ∧ key = configured))
    ∧ (∀ header padding, authorizes configured (some header) = true → padding ≠ "" →
      authorizes configured (some (padding ++ header)) = false
        ∧ authorizes configured (some (header ++ padding)) = false)
    ∧ ∀ header, authorizes "" header = false := by
  refine ⟨fun header => authorizes_iff, fun s key hs => authorizes_scheme_iff hs,
    fun header padding h hpadding => not_authorizes_padded h hpadding, authorizes_empty⟩

/-- A key with spaces, at its ends too, is accepted behind the scheme in another case, but not
without one of its spaces and not with one more. -/
theorem authorizes_exactly_spaced :
    IsScheme "aPIKEY" ∧ authorizes " two words " (some "aPIKEY  two words ") = true
      ∧ authorizes " two words " (some "aPIKEY two words ") = false
      ∧ authorizes " two words " (some "aPIKEY  two words  ") = false := by
  have hscheme : IsScheme "aPIKEY" := equalUpToCase_iff.mpr (by decide)
  obtain ⟨-, honly, hpadded, -⟩ := authorizes_exactly " two words "
  have haccepted : authorizes " two words " (some "aPIKEY  two words ") = true :=
    (honly "aPIKEY" " two words " hscheme).mpr ⟨by decide, rfl⟩
  refine ⟨hscheme, haccepted, ?_, (hpadded _ " " haccepted (by decide)).2⟩
  rw [← Bool.not_eq_true]
  intro h
  exact absurd ((honly "aPIKEY" "two words " hscheme).mp h).2 (by decide)

end RecordRelay.Credential
