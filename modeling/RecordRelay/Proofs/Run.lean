import Mathlib.Data.List.Induction

/-!
# Runs

A system is given by a step function: an action takes a state to the state after it and to what
occurred on the way, or to nothing where it cannot happen. `exec` **runs** a list of actions one
after the other, and a state is reachable if some list of actions leads to it.

Three principles carry what one step does over to a whole run. `exec_induction` is induction along
the run, last step first: what holds at the start and is kept by every step holds at the end, and
the induction may speak of the actions and of the trace as well as of the state.
`exec_countP_add_le` bounds a run by a measure: no more steps can follow that leave less of it than
there is of it. `exec_flow` is the law of a pipe: if at every step the things that come out, followed
by those inside afterwards, are the things inside before, followed by those that go in, then so it
is for the run – nothing is lost, nothing is doubled and nothing overtakes.
-/

namespace RecordRelay

variable {α σ ω : Type} {step : α → σ → Option (σ × List ω)}

/-- **Runs** a list of actions: the last state and all that occurred, or nothing if one of the
actions cannot happen in its turn. -/
def exec (step : α → σ → Option (σ × List ω)) : List α → σ → Option (σ × List ω)
  | [], s => some (s, [])
  | a :: as, s =>
    (step a s).bind fun (t, os) => (exec step as t).map fun (u, tr) => (u, os ++ tr)

/-- A run of nothing stays where it is. -/
@[simp]
theorem exec_nil (s : σ) : exec step [] s = some (s, []) := rfl

/-- A run begins with its first action. -/
theorem exec_cons_eq_some_iff {a : α} {as : List α} {s u : σ} {tr : List ω} :
    exec step (a :: as) s = some (u, tr)
      ↔ ∃ t os rest, step a s = some (t, os) ∧ exec step as t = some (u, rest)
        ∧ tr = os ++ rest := by
  simp only [exec, Option.bind_eq_some_iff, Option.map_eq_some_iff, Prod.exists, Prod.mk.injEq]
  constructor
  · rintro ⟨t, os, hstep, _, rest, hrest, rfl, rfl⟩
    exact ⟨t, os, rest, hstep, hrest, rfl⟩
  · rintro ⟨t, os, rest, hstep, hrest, rfl⟩
    exact ⟨t, os, hstep, u, rest, hrest, rfl, rfl⟩

/-- **A run of two parts** is a run of the first and then a run of the second. -/
theorem exec_append_eq_some_iff {as bs : List α} {s u : σ} {tr : List ω} :
    exec step (as ++ bs) s = some (u, tr)
      ↔ ∃ t tr₁ tr₂, exec step as s = some (t, tr₁) ∧ exec step bs t = some (u, tr₂)
        ∧ tr = tr₁ ++ tr₂ := by
  induction as generalizing s tr with
  | nil =>
    simp only [List.nil_append, exec_nil, Option.some.injEq, Prod.mk.injEq]
    constructor
    · intro h
      exact ⟨s, [], tr, ⟨rfl, rfl⟩, h, rfl⟩
    · rintro ⟨t, tr₁, tr₂, ⟨rfl, rfl⟩, h, rfl⟩
      exact h
  | cons a as ih =>
    simp only [List.cons_append, exec_cons_eq_some_iff, ih]
    constructor
    · rintro ⟨v, os, _, hstep, ⟨t, tr₁, tr₂, h₁, h₂, rfl⟩, rfl⟩
      exact ⟨t, os ++ tr₁, tr₂, ⟨v, os, tr₁, hstep, h₁, rfl⟩, h₂, (List.append_assoc ..).symm⟩
    · rintro ⟨t, _, tr₂, ⟨v, os, tr₁, hstep, h₁, rfl⟩, h₂, rfl⟩
      exact ⟨v, os, tr₁ ++ tr₂, hstep, ⟨t, tr₁, tr₂, h₁, h₂, rfl⟩, List.append_assoc ..⟩

/-- A run of one action is a step. -/
@[simp]
theorem exec_singleton_eq_some_iff {a : α} {s t : σ} {os : List ω} :
    exec step [a] s = some (t, os) ↔ step a s = some (t, os) := by
  rw [exec_cons_eq_some_iff]
  constructor
  · rintro ⟨t, os, rest, hstep, hrest, rfl⟩
    cases hrest
    rw [List.append_nil]
    exact hstep
  · intro h
    exact ⟨t, os, [], h, rfl, (List.append_nil os).symm⟩

/-- A run may take one more step. -/
theorem exec_concat {as : List α} {a : α} {s t u : σ} {tr os : List ω}
    (h : exec step as s = some (t, tr)) (ha : step a t = some (u, os)) :
    exec step (as ++ [a]) s = some (u, tr ++ os) :=
  exec_append_eq_some_iff.mpr ⟨t, tr, os, h, exec_singleton_eq_some_iff.mpr ha, rfl⟩

/-- **Induction along a run**, last step first. -/
theorem exec_induction {s₀ : σ} {motive : List α → σ → List ω → Prop}
    (start : motive [] s₀ [])
    (next : ∀ as s tr a t os, exec step as s₀ = some (s, tr) → motive as s tr →
      step a s = some (t, os) → motive (as ++ [a]) t (tr ++ os))
    {as : List α} {s : σ} {tr : List ω} (h : exec step as s₀ = some (s, tr)) :
    motive as s tr := by
  induction as using List.reverseRecOn generalizing s tr with
  | nil =>
    cases h
    exact start
  | append_singleton as a ih =>
    obtain ⟨t, tr₁, os, h₁, ha, rfl⟩ := exec_append_eq_some_iff.mp h
    exact next as t tr₁ a s os h₁ (ih h₁) (exec_singleton_eq_some_iff.mp ha)

/-- **What holds at the start and is kept by every step** holds wherever a run leads. -/
theorem exec_invariant {s₀ : σ} {P : σ → Prop} (start : P s₀)
    (next : ∀ s a t os, P s → step a s = some (t, os) → P t)
    {as : List α} {s : σ} {tr : List ω} (h : exec step as s₀ = some (s, tr)) : P s :=
  exec_induction (motive := fun _ s _ => P s) start
    (fun _ s _ a t os _ hs ha => next s a t os hs ha) h

/-- **Only so many steps can follow** of those that leave less of a measure, if no other step makes
it larger: together with what is left of the measure they do not exceed what there was. -/
theorem exec_countP_add_le {P : σ → Prop} {p : α → Bool} {μ : σ → Nat}
    (keep : ∀ s a t os, P s → step a s = some (t, os) → P t)
    (less : ∀ s a t os, P s → step a s = some (t, os) → p a → μ t < μ s)
    (noMore : ∀ s a t os, P s → step a s = some (t, os) → μ t ≤ μ s)
    {as : List α} {s t : σ} {tr : List ω} (hs : P s) (h : exec step as s = some (t, tr)) :
    as.countP p + μ t ≤ μ s := by
  refine (exec_induction (motive := fun as t _ => P t ∧ as.countP p + μ t ≤ μ s)
    ⟨hs, by simp⟩ (fun as t tr a u os _ ih ha => ?_) h).2
  obtain ⟨ht, hle⟩ := ih
  refine ⟨keep t a u os ht ha, ?_⟩
  rw [List.countP_append, List.countP_singleton]
  split
  · next hw =>
    have hlt := less t a u os ht ha hw
    omega
  · have hmore := noMore t a u os ht ha
    omega

/-- **The law of a pipe.** What came out (`g`), followed by what is inside (`q`), is what was inside
at first, followed by what went in (`f`), if every step along the run obeys that law. What comes out
and what goes in is read off the trace, piece by piece. -/
theorem exec_flow {β : Type} {s₀ : σ} {f g : List ω → List β} {q : σ → List β}
    (hout : ∀ l l', g (l ++ l') = g l ++ g l') (hinto : ∀ l l', f (l ++ l') = f l ++ f l')
    (hstep : ∀ as s tr a t os, exec step as s₀ = some (s, tr) → step a s = some (t, os) →
      g os ++ q t = q s ++ f os)
    {as : List α} {s : σ} {tr : List ω} (h : exec step as s₀ = some (s, tr)) :
    g tr ++ q s = q s₀ ++ f tr := by
  have hout₀ : g [] = [] := List.self_eq_append_right.mp (hout [] [])
  have hinto₀ : f [] = [] := List.self_eq_append_right.mp (hinto [] [])
  refine exec_induction (motive := fun _ s tr => g tr ++ q s = q s₀ ++ f tr)
    (by rw [hout₀, hinto₀, List.nil_append, List.append_nil])
    (fun as s tr a t os hrun ih ha => ?_) h
  rw [hout, hinto, List.append_assoc, hstep as s tr a t os hrun ha, ← List.append_assoc, ih,
    List.append_assoc]

end RecordRelay
