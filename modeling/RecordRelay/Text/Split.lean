/-!
# Cutting at a mark

A list is cut at every occurrence of a mark. There is always one piece more than there are marks,
and the pieces with the marks between them are the list.
-/

namespace RecordRelay.Text

variable {α : Type} [DecidableEq α]

/-- The **pieces** of a list between the marks. -/
def splitOn (mark : α) : List α → List (List α)
  | [] => [[]]
  | a :: rest =>
    if a = mark then [] :: splitOn mark rest
    else match splitOn mark rest with
      | [] => [[a]]
      | piece :: pieces => (a :: piece) :: pieces

theorem splitOn_ne_nil (mark : α) (xs : List α) : splitOn mark xs ≠ [] := by
  cases xs with
  | nil => simp [splitOn]
  | cons a rest =>
    unfold splitOn
    split
    · simp
    · split <;> simp

/-- What stands before the first mark is the **first piece**. -/
theorem splitOn_append_cons {mark : α} {xs : List α} (h : mark ∉ xs) (ys : List α) :
    splitOn mark (xs ++ mark :: ys) = xs :: splitOn mark ys := by
  induction xs with
  | nil => simp [splitOn]
  | cons a xs ih =>
    have ha : a ≠ mark := fun e => h (by simp [e])
    have hxs : mark ∉ xs := fun e => h (by simp [e])
    simp [splitOn, ha, ih hxs]

/-- A list without marks is **one piece**. -/
theorem splitOn_of_not_mem {mark : α} {xs : List α} (h : mark ∉ xs) : splitOn mark xs = [xs] := by
  induction xs with
  | nil => rfl
  | cons a xs ih =>
    have ha : a ≠ mark := fun e => h (by simp [e])
    have hxs : mark ∉ xs := fun e => h (by simp [e])
    simp [splitOn, ha, ih hxs]

end RecordRelay.Text
