import RecordRelay.Text.Split

/-!
# The pieces between marks

Cutting a list at a mark and writing the mark between pieces again are inverse to each other, as
long as there is a piece and no piece has a mark in it. So the pieces of a list are described
without cutting (`splitOn_eq_iff`).
-/

namespace RecordRelay.Text

variable {α : Type} [DecidableEq α] {mark : α}

/-- The pieces with the marks between them **are the list**. -/
theorem intercalate_splitOn (mark : α) (xs : List α) :
    [mark].intercalate (splitOn mark xs) = xs := by
  induction xs with
  | nil => rfl
  | cons a xs ih =>
    obtain ⟨piece, pieces, hpieces⟩ := List.exists_cons_of_ne_nil (splitOn_ne_nil mark xs)
    rw [hpieces] at ih
    unfold splitOn
    split
    · next ha =>
      rw [hpieces, List.intercalate_cons_cons, ih, ha, List.nil_append, List.singleton_append]
    · rw [hpieces]
      cases pieces with
      | nil => rw [← ih, List.intercalate_singleton, List.intercalate_singleton]
      | cons next pieces =>
        rw [← ih, List.intercalate_cons_cons, List.intercalate_cons_cons]
        rfl

/-- No piece **has a mark**. -/
theorem not_mem_of_mem_splitOn {xs piece : List α} (h : piece ∈ splitOn mark xs) :
    mark ∉ piece := by
  induction xs generalizing piece with
  | nil =>
    rw [List.mem_singleton.mp h]
    exact List.not_mem_nil
  | cons a xs ih =>
    obtain ⟨first, pieces, hpieces⟩ := List.exists_cons_of_ne_nil (splitOn_ne_nil mark xs)
    rw [hpieces] at ih
    unfold splitOn at h
    split at h
    · obtain rfl | h := List.mem_cons.mp h
      · exact List.not_mem_nil
      · exact ih (hpieces ▸ h)
    · next ha =>
      rw [hpieces] at h
      obtain rfl | h := List.mem_cons.mp h
      · exact fun hmem => (List.mem_cons.mp hmem).elim (Ne.symm ha) (ih List.mem_cons_self)
      · exact ih (List.mem_cons_of_mem _ h)

/-- **What the pieces are**: there is one at least, they have no marks, and with the marks between
them they are the list. -/
theorem splitOn_eq_iff {xs : List α} {pieces : List (List α)} :
    splitOn mark xs = pieces
      ↔ pieces ≠ [] ∧ (∀ piece ∈ pieces, mark ∉ piece) ∧ [mark].intercalate pieces = xs := by
  constructor
  · rintro rfl
    exact ⟨splitOn_ne_nil mark xs, fun _ => not_mem_of_mem_splitOn, intercalate_splitOn mark xs⟩
  · rintro ⟨hne, hmarks, rfl⟩
    induction pieces with
    | nil => exact absurd rfl hne
    | cons piece pieces ih =>
      obtain ⟨hpiece, hmarks⟩ := List.forall_mem_cons.mp hmarks
      cases pieces with
      | nil => rw [List.intercalate_singleton, splitOn_of_not_mem hpiece]
      | cons next pieces =>
        rw [List.intercalate_cons_cons, List.append_assoc, List.singleton_append,
          splitOn_append_cons hpiece, ih (List.cons_ne_nil _ _) hmarks]

end RecordRelay.Text
