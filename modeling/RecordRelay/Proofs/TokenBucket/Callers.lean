import Mathlib.Tactic.Ring
import RecordRelay.Proofs.Run
import RecordRelay.Proofs.TokenBucket.Windows
import RecordRelay.TokenBucket.Callers

/-!
# Calls that overtake one another

A call reads the clock before it has the lock, so a call with an earlier instant may reach the
bucket behind one with a later instant. Nothing is gained then, but the bucket takes the earlier
instant for that of its last refill, and the next call gains the time between the two **once more**.
A bucket whose callers overtake one another grants more than `burst` and what is gained until the
latest instant (`granted_exceeds_rate`).

How much more is the `setback` of the instants, all the time by which they go back on their way to
the bucket. With that time added the bound holds for all callers in all orders, and it holds as it
is where no call overtakes another (`granted_le`).
-/

namespace RecordRelay.TokenBucket

/-! ## Instants in any order -/

/-- How far instants **go back**, from each to the next, in nanoseconds. -/
def setback (last : Int) : List Int → Int
  | [] => 0
  | t :: times => (max last t - t) + setback t times

/-- Instants do not go back by less than nothing. -/
theorem setback_nonneg (last : Int) (times : List Int) : 0 ≤ setback last times := by
  induction times generalizing last with
  | nil => exact le_refl 0
  | cons t times ih => exact add_nonneg (sub_nonneg.mpr (le_max_right last t)) (ih t)

/-- **Instants do not go back exactly if they come in order.** -/
theorem setback_eq_zero_iff {last : Int} {times : List Int} :
    setback last times = 0 ↔ (last :: times).Pairwise (· ≤ ·) := by
  rw [← List.isChain_iff_pairwise]
  induction times generalizing last with
  | nil => simp [setback]
  | cons t times ih =>
    have hrest := setback_nonneg t times
    have hstep : max last t - t = 0 ↔ last ≤ t := by rw [sub_eq_zero, max_eq_right_iff]
    rw [List.isChain_cons_cons, ← ih, ← hstep, setback]
    exact add_eq_zero_iff_of_nonneg (sub_nonneg.mpr (le_max_right last t)) hrest

variable {limits : Limits} {b : TokenBucket Rat}

/-- What is gained up to an instant, and then from another one on, is gained as if the time between
the two came on top. -/
theorem gain_add_gain_of_setback (last later t till : Int) :
    gain limits last later + gain limits t till = gain limits last (till + (later - t)) := by
  simp only [gain, span, Int.cast_sub, Int.cast_add]
  ring

/-- The later the instant, the more is gained. -/
theorem gain_mono {since now now' : Int} (h : now ≤ now') :
    gain limits since now ≤ gain limits since now' := by
  rw [← gain_add_gain since now now']
  exact le_add_of_nonneg_right (gain_nonneg h)

/-- **No more is granted than was there and what was gained**, at whatever instants the calls come:
the time by which they go back is gained again. -/
theorem count_decisions_le (hw : Within limits b) (times : List Int) :
    ((b.decisions limits times).count true : Rat)
      ≤ b.tokens + gain limits b.last (times.getLastD b.last + setback b.last times) := by
  induction times generalizing b with
  | nil =>
    have hnone : gain limits b.last (b.last + 0) = 0 := by rw [add_zero, gain_self]
    show (((0 : Nat) : Rat)) ≤ b.tokens + gain limits b.last (b.last + 0)
    rw [hnone, Nat.cast_zero, add_zero]
    exact hw.nonneg
  | cons t times ih =>
    have hrest := ih (hw.take t)
    rw [take_last, take_tokens] at hrest
    have hlevel : b.level limits t ≤ b.tokens + gain limits b.last (max b.last t) := by
      rw [level_eq]
      exact min_le_left _ _
    have hcount : ((b.decisions limits (t :: times)).count true : Rat)
        = (((b.take limits t).2.decisions limits times).count true : Rat)
          + ((b.take limits t).1.toNat : Rat) := by
      rw [decisions_cons, ← Nat.cast_add]
      cases (b.take limits t).1 <;> simp
    calc ((b.decisions limits (t :: times)).count true : Rat)
        ≤ b.level limits t + gain limits t (times.getLastD t + setback t times) := by
          rw [hcount, ← le_sub_iff_add_le, ← sub_add_eq_add_sub]
          exact hrest
      _ ≤ b.tokens + (gain limits b.last (max b.last t)
            + gain limits t (times.getLastD t + setback t times)) := by
          rw [← add_assoc]
          exact add_le_add_left hlevel _
      _ = b.tokens + gain limits b.last
            ((t :: times).getLastD b.last + setback b.last (t :: times)) := by
          rw [gain_add_gain_of_setback, setback, List.getLastD_cons, add_assoc,
            add_comm (setback t times)]

namespace Callers

/-! ## What the callers see -/

/-- The instant that was read. -/
def Occurrence.read? : Occurrence → Option Int
  | read _ instant => some instant
  | decided .. => none

/-- A call that ended: the instant that it came with, and whether it was granted. -/
def Occurrence.decided? : Occurrence → Option (Int × Bool)
  | read .. => none
  | decided _ instant granted => some (instant, granted)

/-- The **instants that reached the bucket**, in the order in which the calls got the lock. -/
def reached (tr : List Occurrence) : List Int := (tr.filterMap Occurrence.decided?).map Prod.fst

/-- Instants reach the bucket one after the other. -/
theorem reached_append (tr tr' : List Occurrence) :
    reached (tr ++ tr') = reached tr ++ reached tr' := by
  rw [reached, List.filterMap_append, List.map_append, reached, reached]

/-- How many calls were **granted**. -/
def granted (tr : List Occurrence) : Nat :=
  ((tr.filterMap Occurrence.decided?).map Prod.snd).count true

/-- The **latest instant** that was read, or that at which the bucket was made. -/
def latest (created : Int) (tr : List Occurrence) : Int :=
  (created :: tr.filterMap Occurrence.read?).max (List.cons_ne_nil _ _)

variable {st st' : Callers Rat} {a : Action} {as : List Action} {os tr : List Occurrence}
  {created : Int}

/-- What a **move** needs, changes and shows. -/
inductive Move (limits : Limits) (st : Callers Rat) :
    Action → Callers Rat → List Occurrence → Prop where
  | pass (nanos : Nat) : Move limits st (.pass nanos) { st with clock := st.clock + nanos } []
  | call (thread : Nat) :
    Move limits st (.call thread) { st with waiting := st.waiting ++ [(thread, st.clock)] }
      [.read thread st.clock]
  | lock (thread : Nat) (instant : Int) (mem : (thread, instant) ∈ st.waiting) :
    Move limits st (.lock thread)
      { st with
        bucket := (st.bucket.take limits instant).2
        waiting := st.waiting.erase (thread, instant) }
      [.decided thread instant (st.bucket.take limits instant).1]

/-- Every step is a move. -/
theorem Move.of_step (h : step limits a st = some (st', os)) : Move limits st a st' os := by
  cases a with
  | pass nanos =>
    cases h
    exact .pass nanos
  | call thread =>
    simp only [step] at h
    split at h
    · cases h
    · cases h
      exact .call thread
  | lock thread =>
    simp only [step] at h
    split at h
    · cases h
    · next instant hlookup =>
      cases h
      obtain ⟨before, behind, hsplit, -⟩ := List.lookup_eq_some_iff.mp hlookup
      exact .lock thread instant (by simp [hsplit])

/-- **Every call is decided by the bucket**, as if the instants had come to it one after the other
in the order of the lock. -/
theorem decided_eq_calls (h : exec (step limits) as st = some (st', tr)) :
    tr.filterMap Occurrence.decided? = st.bucket.calls limits (reached tr) := by
  induction as generalizing st tr with
  | nil =>
    cases h
    rfl
  | cons a as ih =>
    obtain ⟨next, os, rest, hstep, hrest, rfl⟩ := exec_cons_eq_some_iff.mp h
    have hlater := ih hrest
    cases Move.of_step hstep with
    | pass | call => exact hlater
    | lock thread instant =>
      show (instant, (st.bucket.take limits instant).1) :: rest.filterMap Occurrence.decided? = _
      rw [hlater]
      rfl

/-- No instant reaches the bucket **that nobody read**. -/
theorem mem_read_of_mem_reached
    (h : exec (step limits) as (start limits created) = some (st, tr)) {t : Int}
    (ht : t ∈ reached tr) : t ∈ tr.filterMap Occurrence.read? := by
  refine (exec_induction (motive := fun _ st tr =>
    (∀ w ∈ st.waiting, w.2 ∈ tr.filterMap Occurrence.read?)
      ∧ ∀ t ∈ reached tr, t ∈ tr.filterMap Occurrence.read?)
    ⟨fun _ hw => absurd hw List.not_mem_nil, fun _ ht => absurd ht List.not_mem_nil⟩
    (fun as st tr a st' os _ ih ha => ?_) h).2 t ht
  obtain ⟨hwaiting, hreached⟩ := ih
  simp only [reached_append, List.filterMap_append, List.mem_append]
  cases Move.of_step ha with
  | pass =>
    refine ⟨fun w hw => .inl (hwaiting w hw), fun t ht => ?_⟩
    exact .inl (hreached t (ht.resolve_right List.not_mem_nil))
  | call thread =>
    refine ⟨fun w hw => ?_, fun t ht => ?_⟩
    · obtain hw | hw := List.mem_append.mp hw
      · exact .inl (hwaiting w hw)
      · rw [List.mem_singleton.mp hw]
        exact .inr List.mem_cons_self
    · exact .inl (hreached t (ht.resolve_right List.not_mem_nil))
  | lock thread instant mem =>
    refine ⟨fun w hw => .inl (hwaiting w (List.mem_of_mem_erase hw)), fun t ht => .inl ?_⟩
    obtain ht | ht := ht
    · exact hreached t ht
    · rw [List.mem_singleton.mp ht]
      exact hwaiting _ mem

/-- What reached the bucket last is **no later than the latest instant**. -/
theorem getLastD_reached_le (h : exec (step limits) as (start limits created) = some (st, tr)) :
    (reached tr).getLastD created ≤ latest created tr := by
  refine List.le_max_of_mem ?_
  obtain hmade | hreached := List.mem_cons.mp List.getLastD_mem_cons
  · exact List.mem_cons.mpr (.inl hmade)
  · exact List.mem_cons_of_mem _ (mem_read_of_mem_reached h hreached)

/-- **What the callers of a bucket are granted.** Whoever calls, whatever the limit is and in
whatever order the calls get the lock:

* every call is decided by the bucket, on the instant that it read, in the order of the lock;
* no more calls are granted than `burst` and what is gained until the latest instant that was read,
  with the time on top by which the instants went back on their way to the bucket;
* so the time on top is none, and nothing is gained twice, where no call overtakes another. -/
theorem granted_le (h : exec (step limits) as (start limits created) = some (st, tr)) :
    tr.filterMap Occurrence.decided? = (full limits created).calls limits (reached tr)
    ∧ (granted tr : Rat) ≤ limits.burst
        + limits.perSecond * span created (latest created tr + setback created (reached tr))
    ∧ ((created :: reached tr).Pairwise (· ≤ ·) →
      (granted tr : Rat) ≤ limits.burst + limits.perSecond * span created (latest created tr)) := by
  have hdecided : tr.filterMap Occurrence.decided?
      = (full limits created).calls limits (reached tr) := decided_eq_calls h
  have hle : (granted tr : Rat) ≤ limits.burst
      + limits.perSecond * span created (latest created tr + setback created (reached tr)) := by
    calc (granted tr : Rat)
        = (((full limits created).decisions limits (reached tr)).count true : Rat) := by
          rw [granted, hdecided, map_snd_calls]
      _ ≤ limits.burst + gain limits created
            ((reached tr).getLastD created + setback created (reached tr)) :=
          count_decisions_le (within_full limits created) (reached tr)
      _ ≤ limits.burst
            + gain limits created (latest created tr + setback created (reached tr)) :=
          add_le_add_right (gain_mono (add_le_add_left (getLastD_reached_le h) _)) _
  refine ⟨hdecided, hle, fun hsorted => ?_⟩
  rwa [setback_eq_zero_iff.mpr hsorted, add_zero] at hle

/-- A bucket of **one token that gains one a second**. -/
def oneASecond : Limits := ⟨1, 1⟩

/-- Four calls of which the second is **overtaken**: it reads the clock with the first one and gets
the lock behind the third, which comes a second later. The fourth comes at once. -/
def overtaken : List Action :=
  [.call 0, .call 1, .lock 0, .pass 1000000000, .call 2, .lock 2, .lock 1, .call 3, .lock 3]

/-- Three of the four are granted, though only one token was there and one was gained. -/
theorem exec_overtaken :
    ∃ st tr, exec (step oneASecond) overtaken (start oneASecond 0 : Callers Rat) = some (st, tr)
      ∧ granted tr = 3 ∧ latest 0 tr = 1000000000 ∧ reached tr = [0, 1000000000, 0, 1000000000] := by
  have hrun : (exec (step oneASecond) overtaken (start oneASecond 0 : Callers Rat)).map
      (fun r => (granted r.2, latest 0 r.2, reached r.2))
        = some (3, 1000000000, [0, 1000000000, 0, 1000000000]) := by
    decide +kernel
  obtain ⟨⟨st, tr⟩, hexec, hshown⟩ := Option.map_eq_some_iff.mp hrun
  simp only [Prod.mk.injEq] at hshown
  exact ⟨st, tr, hexec, hshown⟩

/-- There the bound with the time on top is just met. -/
theorem granted_le_overtaken :
    ∃ st tr, exec (step oneASecond) overtaken (start oneASecond 0 : Callers Rat) = some (st, tr)
      ∧ (granted tr : Rat) ≤ oneASecond.burst
        + oneASecond.perSecond * span 0 (1000000000 + 1000000000)
      ∧ granted tr = 3 := by
  obtain ⟨st, tr, hexec, hgranted, hlatest, hreached⟩ := exec_overtaken
  have hle := (granted_le hexec).2.1
  rw [hlatest, hreached] at hle
  exact ⟨st, tr, hexec, by simpa [setback] using hle, hgranted⟩

/-- **The bound does not hold without that time**: a bucket of one token that gains one a second
grants three calls within a second. -/
theorem granted_exceeds_rate :
    ∃ st tr, exec (step oneASecond) overtaken (start oneASecond 0 : Callers Rat) = some (st, tr)
      ∧ (oneASecond.burst : Rat) + oneASecond.perSecond * span 0 (latest 0 tr) < granted tr := by
  obtain ⟨st, tr, hexec, hgranted, hlatest, -⟩ := exec_overtaken
  refine ⟨st, tr, hexec, ?_⟩
  rw [hgranted, hlatest]
  norm_num [span, oneASecond]

end Callers

end RecordRelay.TokenBucket
