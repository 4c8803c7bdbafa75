import RecordRelay.Proofs.Delivery.Shutdown

/-!
# Sessions are runs

A session decides what comes next: it lets the background go on until all of it waits, and only then
lets time pass. What holds along every run does not depend on who decides, so there is one thing to
show of a session, that it has got where it is by a run (`Reached`). Every operation on a session
keeps that, the deeds that are done while a call waits included.

Settling takes as many steps as there is work. That is enough, since every step of the background
leaves less of it, and so nothing in the background can go on afterwards (`background?_settle`).
-/

namespace RecordRelay.Session

variable {σ : Type} {w v : Session σ} {st₀ : Publisher.State}

/-- **A session has got where it is by a run**: its state is the last one, and its trace all that
occurred. -/
def Reached (st₀ : Publisher.State) (w : Session σ) : Prop :=
  ∃ as, exec Publisher.step as st₀ = some (w.state, w.trace)

/-- A session that starts has run nothing yet. -/
theorem reached_start (sink : Sink σ) (store : σ) (capacity : Capacity) :
    (start sink store capacity).Reached (Publisher.start capacity sink.kind) :=
  ⟨[], rfl⟩

/-- So has one without a drain. -/
theorem reached_bare (sink : Sink σ) (store : σ) (capacity : Capacity) :
    (bare sink store capacity).Reached (Publisher.bare capacity sink.kind) :=
  ⟨[], rfl⟩

/-- A run may take one more step. -/
theorem Reached.of_attempt? {a : Publisher.Action} (h : w.Reached st₀)
    (ha : w.attempt? a = some v) : v.Reached st₀ := by
  obtain ⟨as, has⟩ := h
  obtain ⟨⟨st, os⟩, hstep, rfl⟩ := Option.map_eq_some_iff.mp ha
  exact ⟨as ++ [a], exec_concat has hstep⟩

/-- A step that may not be possible is a run. -/
theorem Reached.perform (h : w.Reached st₀) (a : Publisher.Action) :
    (w.perform a).Reached st₀ := by
  unfold Session.perform
  cases ha : w.attempt? a with
  | none => exact h
  | some v => exact h.of_attempt? ha

/-- **A step of the background is a step that works**, with whatever became of the sink. -/
theorem exists_of_background? (h : w.background? = some v) :
    ∃ a store, a.works ∧ { w with store := store }.attempt? a = some v := by
  simp only [background?, Option.orElse_eq_orElse, Option.orElse_eq_or, Option.or_eq_some_iff] at h
  obtain hwake | ⟨-, hturn | ⟨-, hanswer | ⟨-, hdrain⟩⟩⟩ := h
  · obtain ⟨a, ha, hstep⟩ := List.exists_of_findSome?_eq_some hwake
    refine ⟨.producer a, w.store, ?_, hstep⟩
    simp only [wakings, List.mem_append, List.mem_map] at ha
    obtain (⟨s, -, rfl⟩ | ⟨s, -, rfl⟩) | ⟨s, -, rfl⟩ := ha <;> rfl
  · obtain ⟨a, ha, hstep⟩ := List.exists_of_findSome?_eq_some hturn
    refine ⟨.producer a, w.store, ?_, hstep⟩
    simp only [List.mem_cons, List.not_mem_nil, or_false] at ha
    obtain rfl | rfl | rfl | rfl := ha <;> rfl
  · unfold answer? at hanswer
    split at hanswer
    · split at hanswer
      · next result store _ => exact ⟨_, store, rfl, hanswer⟩
      · cases hanswer
    · exact ⟨_, w.store, rfl, hanswer⟩
    · cases hanswer
  · obtain ⟨a, ha, hstep⟩ := List.exists_of_findSome?_eq_some hdrain
    refine ⟨a, w.store, ?_, hstep⟩
    simp only [List.mem_cons, List.not_mem_nil, or_false] at ha
    obtain rfl | rfl | rfl := ha <;> rfl

/-- The background runs. -/
theorem Reached.of_background? (h : w.Reached st₀) (hv : w.background? = some v) :
    v.Reached st₀ := by
  obtain ⟨a, store, -, ha⟩ := exists_of_background? hv
  exact Reached.of_attempt? (w := { w with store := store }) h ha

/-- **Every step of the background leaves less to do.** -/
theorem work_lt_of_background? (h : w.background? = some v) : v.state.work < w.state.work := by
  obtain ⟨a, store, hworks, ha⟩ := exists_of_background? h
  obtain ⟨⟨st, os⟩, hstep, rfl⟩ := Option.map_eq_some_iff.mp ha
  exact (Publisher.Move.of_step hstep).work_lt hworks

/-- With enough steps the background comes to rest. -/
theorem background?_runFor {fuel : Nat} (hfuel : w.state.work ≤ fuel) :
    (runFor fuel w).background? = none := by
  induction fuel generalizing w with
  | zero =>
    cases hv : w.background? with
    | none => exact hv
    | some v => exact absurd (work_lt_of_background? hv) (by omega)
  | succ fuel ih =>
    rw [runFor]
    cases hv : w.background? with
    | none => exact hv
    | some v =>
      have hlt := work_lt_of_background? hv
      exact ih (by omega)

/-- **After settling nothing in the background can go on.** -/
theorem background?_settle (w : Session σ) : w.settle.background? = none :=
  background?_runFor (Nat.le_refl _)

/-- Steps of the background are a run. -/
theorem Reached.runFor (h : w.Reached st₀) (fuel : Nat) : (runFor fuel w).Reached st₀ := by
  induction fuel generalizing w with
  | zero => exact h
  | succ fuel ih =>
    rw [Session.runFor]
    cases hv : w.background? with
    | none => exact h
    | some v => exact ih (h.of_background? hv)

/-- Settling is a run. -/
theorem Reached.settle (h : w.Reached st₀) : w.settle.Reached st₀ := h.runFor _

/-- Giving up is a run. -/
theorem Reached.giveUp (h : w.Reached st₀) (s : Submission) : (w.giveUp s).Reached st₀ :=
  h.perform _

/-- Steps one after the other are a run. -/
theorem Reached.foldl_perform {α : Type} (f : α → Publisher.Action) (as : List α)
    (h : w.Reached st₀) : (as.foldl (fun w a => w.perform (f a)) w).Reached st₀ := by
  induction as generalizing w with
  | nil => exact h
  | cons a as ih => exact ih (h.perform (f a))

/-- A deed **runs** if it takes a session along a run. -/
def Deed.Runs (st₀ : Publisher.State) (deed : Deed σ) : Prop :=
  ∀ v : Session σ, v.Reached st₀ → (deed v).Reached st₀

/-- Dropping a submission runs. -/
theorem runs_abandon (s : Submission) : Deed.Runs (σ := σ) st₀ (abandon s) :=
  fun _ hv => hv.perform _

/-- Requesting a close runs. -/
theorem runs_requestClose : Deed.Runs (σ := σ) st₀ requestClose :=
  fun _ hv => hv.perform _

/-- Changing the sink from outside is no step at all. -/
theorem runs_modify (f : σ → σ) : Deed.Runs st₀ (modify f) :=
  fun _ hv => hv

/-- Time passes along a run, if what is then done is one. -/
theorem Reached.passTo (h : w.Reached st₀) (s : Submission) {deed : Nat × Deed σ}
    (hdeed : deed.2.Runs st₀) : (passTo s w deed).Reached st₀ := by
  unfold Session.passTo
  refine hdeed _ ?_
  split
  · exact (h.settle.giveUp s).settle
  · exact h.settle

/-- Time passes along a run from deed to deed. -/
theorem Reached.foldl_passTo (h : w.Reached st₀) (s : Submission) {deeds : List (Nat × Deed σ)}
    (hdeeds : ∀ deed ∈ deeds, deed.2.Runs st₀) :
    (deeds.foldl (Session.passTo s) w).Reached st₀ := by
  induction deeds generalizing w with
  | nil => exact h
  | cons deed deeds ih =>
    exact ih (h.passTo s (hdeeds deed List.mem_cons_self))
      fun d hd => hdeeds d (List.mem_cons_of_mem _ hd)

/-- **A call is a run**, if what is done while it waits is one. -/
theorem Reached.publish (h : w.Reached st₀) (s : Submission) {meanwhile : List (Nat × Deed σ)}
    (hdeeds : ∀ deed ∈ meanwhile, deed.2.Runs st₀) :
    (w.publish s meanwhile).2.Reached st₀ := by
  have henter : (w.enter s).Reached st₀ := h.foldl_perform _ _
  unfold Session.publish
  dsimp only
  split <;> split
  · exact henter.giveUp s
  · exact (((henter.giveUp s).foldl_passTo s hdeeds).settle).giveUp s
  · exact henter
  · exact ((henter.foldl_passTo s hdeeds).settle).giveUp s

/-- **Calls to close are a run.** -/
theorem Reached.close (h : w.Reached st₀) (k : Nat) : (w.close k).2.Reached st₀ := by
  have hcalled := h.foldl_perform (fun _ => .close) (List.range k)
  unfold Session.close awaitCloses
  dsimp only
  split
  · exact hcalled.settle.perform _
  · exact hcalled.settle

end RecordRelay.Session
