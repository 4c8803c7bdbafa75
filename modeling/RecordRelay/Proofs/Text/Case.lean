import Mathlib.Data.List.Forall2

/-!
# Texts up to case

Where a text counts in any case, only the letters of ASCII have one: two characters are the **same
letter** if they are equal or are the two forms of one of these letters, which stand thirty-two
places apart. No other character is the same letter as another, so a space, for instance, stands
only for itself.

Comparing texts after both were written in small letters is the same as comparing them letter by
letter (`equalUpToCase_iff`).
-/

namespace RecordRelay.Text

/-- Whether two characters are **the same letter**, up to the case of ASCII letters. -/
def SameLetter (c d : Char) : Prop :=
  c = d ∨ (c.isUpper ∧ d.toNat = c.toNat + 32) ∨ (d.isUpper ∧ c.toNat = d.toNat + 32)

/-- Whether two texts are **equal up to case**: they have the same letters in the same places. -/
def EqualUpToCase (s t : List Char) : Prop := List.Forall₂ SameLetter s t

variable {c d : Char} {s t : List Char}

/-- The capital letters by their numbers. -/
theorem isUpper_iff : c.isUpper = true ↔ 65 ≤ c.toNat ∧ c.toNat ≤ 90 :=
  decide_eq_true_iff.trans (and_congr UInt32.le_iff_toNat_le UInt32.le_iff_toNat_le)

/-- The small letters by their numbers. -/
theorem isLower_iff : c.isLower = true ↔ 97 ≤ c.toNat ∧ c.toNat ≤ 122 := by
  rw [show c.isLower = (decide (c.val ≥ 'a'.val) && decide (c.val ≤ 'z'.val)) from rfl,
    Bool.and_eq_true, decide_eq_true_iff, decide_eq_true_iff]
  exact and_congr UInt32.le_iff_toNat_le UInt32.le_iff_toNat_le

/-- A capital letter has its small one thirty-two places on; any other character is left alone. -/
theorem toNat_toLower (c : Char) :
    c.toLower.toNat = if c.isUpper then c.toNat + 32 else c.toNat := by
  have hval : (c.val ≥ 'A'.val ∧ c.val ≤ 'Z'.val) ↔ c.isUpper = true := decide_eq_true_iff.symm
  by_cases hupper : c.isUpper = true
  · have hplace := isUpper_iff.mp hupper
    have hsmall : c.val.toNat + 32 < 2 ^ 32 := by
      rw [Char.toNat_val]
      omega
    rw [if_pos hupper, show c.toLower = _ from dif_pos (hval.mpr hupper)]
    exact (UInt32.toNat_add ..).trans (Nat.mod_eq_of_lt hsmall)
  · rw [if_neg hupper, show c.toLower = c from dif_neg fun h => hupper (hval.mp h)]

/-- **Small letters decide** whether two characters are the same letter. -/
theorem sameLetter_iff : SameLetter c d ↔ c.toLower = d.toLower := by
  unfold SameLetter
  rw [← Char.toNat_inj (c := c), ← Char.toNat_inj (c := c.toLower), toNat_toLower, toNat_toLower]
  simp only [isUpper_iff]
  split <;> split <;> omega

/-- **Small letters decide** whether two texts are equal up to case. -/
theorem equalUpToCase_iff : EqualUpToCase s t ↔ s.map Char.toLower = t.map Char.toLower := by
  have hletter : SameLetter = fun c d : Char => c.toLower = d.toLower :=
    funext fun _ => funext fun _ => propext sameLetter_iff
  rw [← List.forall₂_eq_eq_eq, List.forall₂_map_left_iff, List.forall₂_map_right_iff, EqualUpToCase,
    hletter]

/-- Every text is equal to itself. -/
theorem EqualUpToCase.refl (s : List Char) : EqualUpToCase s s := equalUpToCase_iff.mpr rfl

/-- A character without case **stands only for itself**. -/
theorem SameLetter.eq_of_not_isAlpha (h : SameLetter c d) (hc : c.isAlpha = false) : c = d := by
  have hcase : c.isUpper = false ∧ c.isLower = false := Bool.or_eq_false_iff.mp hc
  rw [← Bool.not_eq_true, ← Bool.not_eq_true, isUpper_iff, isLower_iff] at hcase
  obtain heq | ⟨hupper, -⟩ | ⟨hupper, hplace⟩ := h
  · exact heq
  · exact absurd (isUpper_iff.mp hupper) hcase.1
  · have hd := isUpper_iff.mp hupper
    omega

/-- So it stands in both texts. -/
theorem EqualUpToCase.mem (h : EqualUpToCase s t) (hc : c.isAlpha = false) (hmem : c ∈ s) :
    c ∈ t := by
  induction h with
  | nil => exact hmem
  | cons hletter _ ih =>
    obtain rfl | hmem := List.mem_cons.mp hmem
    · exact hletter.eq_of_not_isAlpha hc ▸ List.mem_cons_self
    · exact List.mem_cons_of_mem _ (ih hmem)

end RecordRelay.Text
