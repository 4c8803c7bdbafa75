import Mathlib.Data.List.Pairwise
import Mathlib.Data.Rat.Cast.Order
import RecordRelay.Proofs.TokenBucket.Level

/-!
# A bucket and the windows of its calls

A rate limit speaks of all windows of a history: in none of them may more calls be granted than
`burst` and what is gained while the window lasts, which is its `room`. A bucket knows nothing of
windows. It keeps one number, clips it at `burst` at every call and forgets the rest. Both come to
the same: **a call is granted exactly when every window that ends with it has room for it**
(`granted_iff`).

The equivalence is an induction along the calls, and it has to be said of any bucket and not of a
full one, since the first call already leaves another. A bucket at whatever content behaves as if
there were one more window, which began with the bucket and has room for what that held. Clipping at
`burst` is then what adds the window of the next call to those that count; and a bucket that starts
full has nothing to say beyond the window of its first call.

That the grants of *every* window stay within its room follows along the same calls
(`grantsWithin_le_room`), and that nothing is refused without a window that is full is the other
half of the equivalence, read for windows of time.
-/

namespace RecordRelay.TokenBucket

/-- The **decisions** on the calls of a run. -/
def decisions (limits : Limits) (times : List Int) (b : TokenBucket Rat) : List Bool :=
  (b.run limits times).map Prod.fst

/-- The **calls** of a run: when they came, and whether they were granted. -/
def calls (limits : Limits) (times : List Int) (b : TokenBucket Rat) : List (Int × Bool) :=
  times.zip (b.decisions limits times)

/-- How many of the calls from the `k`-th up to the `n`-th, without that, were **granted**. -/
def grants (ds : List Bool) (k n : Nat) : Nat := ((ds.take n).drop k).count true

/-- How many calls were granted **within a window of time**. -/
def grantsWithin (cs : List (Int × Bool)) (since till : Int) : Nat :=
  cs.countP fun c => c.2 ∧ since ≤ c.1 ∧ c.1 ≤ till

/-- The **room** of a window: `burst`, and what is gained while it lasts. -/
def room (limits : Limits) (since till : Int) : Rat := limits.burst + gain limits since till

variable {limits : Limits} {b : TokenBucket Rat} {times : List Int}

/-- A run decides on its first call, and goes on with what that leaves. -/
@[simp]
theorem decisions_cons (first : Int) (later : List Int) :
    b.decisions limits (first :: later)
      = (b.take limits first).1 :: (b.take limits first).2.decisions limits later := rfl

/-- So it is with the calls. -/
theorem calls_cons (first : Int) (later : List Int) :
    b.calls limits (first :: later)
      = (first, (b.take limits first).1) :: (b.take limits first).2.calls limits later := rfl

/-- **Every call is decided.** -/
@[simp]
theorem length_decisions : (b.decisions limits times).length = times.length := by
  induction times generalizing b with
  | nil => rfl
  | cons first later ih => rw [decisions_cons, List.length_cons, ih, List.length_cons]

/-- No call comes before itself. -/
@[simp]
theorem grants_zero_zero (ds : List Bool) : grants ds 0 0 = 0 := rfl

/-- Leaving the first call out moves every number by one. -/
@[simp]
theorem grants_cons_succ (d : Bool) (ds : List Bool) (k n : Nat) :
    grants (d :: ds) (k + 1) (n + 1) = grants ds k n := rfl

/-- The first call counts if it was granted. -/
theorem grants_cons_zero (d : Bool) (ds : List Bool) (n : Nat) :
    grants (d :: ds) 0 (n + 1) = grants ds 0 n + d.toNat := by
  show (d :: ds.take n).count true = (ds.take n).count true + d.toNat
  cases d <;> simp

/-- Instants in order are in order **after the first call** as well. -/
theorem sorted_take {first : Int} {later : List Int}
    (h : (b.last :: first :: later).Pairwise (· ≤ ·)) :
    ((b.take limits first).2.last :: later).Pairwise (· ≤ ·) := by
  rw [take_last]
  exact h.of_cons

/-! ## One call, all windows -/

/-- A window that ends with a later call begins with the first call, or later. -/
theorem forall_window_cons {P : Nat → Int → Prop} {first : Int} {later : List Int} {n : Nat} :
    (∀ k s, k ≤ n + 1 → (first :: later)[k]? = some s → P k s)
      ↔ P 0 first ∧ ∀ k s, k ≤ n → later[k]? = some s → P (k + 1) s := by
  constructor
  · intro h
    refine ⟨h 0 first (Nat.zero_le _) rfl, fun k s hk hs => ?_⟩
    exact h (k + 1) s (Nat.succ_le_succ hk) hs
  · rintro ⟨hfirst, hlater⟩ (_ | k) s hk hs
    · cases hs
      exact hfirst
    · exact hlater k s (Nat.le_of_succ_le_succ hk) hs

/-- **What a call leaves of the room**: as much fits behind it as fits, together with it, into what
the bucket held and into a window that begins with the call. -/
theorem le_take_iff {first till : Int} (hfirst : b.last ≤ first) (x : Rat) :
    x ≤ (b.take limits first).2.tokens + gain limits first till
      ↔ x + ((b.take limits first).1.toNat : Rat) ≤ b.tokens + gain limits b.last till
        ∧ x + ((b.take limits first).1.toNat : Rat) ≤ room limits first till := by
  rw [take_tokens, level_eq, max_eq_right hfirst, sub_add_eq_add_sub, le_sub_iff_add_le,
    min_add, le_min_iff, add_assoc, gain_add_gain, room]

/-- **A call is granted exactly when every window that ends with it has room for it**, the window
that began with the bucket among them. -/
theorem getElem?_decisions_iff {n : Nat} {t : Int} (hsorted : (b.last :: times).Pairwise (· ≤ ·))
    (ht : times[n]? = some t) :
    (b.decisions limits times)[n]? = some true
      ↔ (grants (b.decisions limits times) 0 n : Rat) + 1 ≤ b.tokens + gain limits b.last t
        ∧ ∀ k s, k ≤ n → times[k]? = some s →
          (grants (b.decisions limits times) k n : Rat) + 1 ≤ room limits s t := by
  induction times generalizing b n with
  | nil => cases ht
  | cons first later ih =>
    have hfirst : b.last ≤ first := List.rel_of_pairwise_cons hsorted List.mem_cons_self
    cases n with
    | zero =>
      obtain rfl : first = t := Option.some.inj ht
      -- the only window is that of the call itself, and its room is `burst`
      have hwindow : (∀ k s, k ≤ 0 → (first :: later)[k]? = some s →
          (grants (b.decisions limits (first :: later)) k 0 : Rat) + 1 ≤ room limits s first)
          ↔ 1 ≤ (limits.burst : Rat) := by
        constructor
        · intro h
          simpa [room] using h 0 first (Nat.le_refl 0) rfl
        · rintro h k s hk hs
          obtain rfl : k = 0 := Nat.le_zero.mp hk
          cases hs
          simpa [room] using h
      rw [hwindow, grants_zero_zero, Nat.cast_zero, zero_add, decisions_cons,
        List.getElem?_cons_zero, Option.some_inj, take_granted_iff, level_eq, max_eq_right hfirst,
        le_min_iff]
    | succ n =>
      rw [forall_window_cons, decisions_cons, List.getElem?_cons_succ, ih (sorted_take hsorted) ht,
        take_last,
        le_take_iff hfirst, grants_cons_zero, and_assoc, Nat.cast_add, add_right_comm]
      rfl

/-- For a bucket that was full only **the windows of its calls** count. -/
theorem granted_iff {created : Int} {n : Nat} {t : Int}
    (hsorted : (created :: times).Pairwise (· ≤ ·)) (ht : times[n]? = some t) :
    ((full limits created).decisions limits times)[n]? = some true
      ↔ ∀ k s, k ≤ n → times[k]? = some s →
        (grants ((full limits created).decisions limits times) k n : Rat) + 1
          ≤ room limits s t := by
  rw [getElem?_decisions_iff (b := full limits created) hsorted ht, and_iff_right_iff_imp]
  intro h
  -- the window of the first call is no longer than that of the bucket
  obtain ⟨first, hfirst⟩ : ∃ first, times[0]? = some first := by
    cases times with
    | nil => cases ht
    | cons first later => exact ⟨first, rfl⟩
  have hcreated : created ≤ first :=
    List.rel_of_pairwise_cons hsorted (List.mem_of_getElem? hfirst)
  calc (grants ((full limits created).decisions limits times) 0 n : Rat) + 1
      ≤ limits.burst + gain limits first t := h 0 first (Nat.zero_le n) hfirst
    _ ≤ limits.burst + (gain limits created first + gain limits first t) :=
        add_le_add_right (le_add_of_nonneg_left (gain_nonneg hcreated)) _
    _ = limits.burst + gain limits created t := by rw [gain_add_gain]

/-! ## All calls of a window -/

/-- A call counts in a window of time if it was granted and falls into it. -/
theorem grantsWithin_cons (c : Int × Bool) (cs : List (Int × Bool)) (since till : Int) :
    grantsWithin (c :: cs) since till
      = grantsWithin cs since till + if c.2 ∧ since ≤ c.1 ∧ c.1 ≤ till then 1 else 0 := by
  simp [grantsWithin, List.countP_cons]

/-- Calls behind a window do not count in it. -/
theorem grantsWithin_eq_zero {till : Int} (h : ∀ t ∈ times, till < t) (since : Int) :
    grantsWithin (b.calls limits times) since till = 0 := by
  rw [grantsWithin, List.countP_eq_zero]
  rintro ⟨t, d⟩ hc
  have ht : till < t := h t (List.of_mem_zip hc).1
  simp only [decide_eq_true_eq, not_and, not_le]
  exact fun _ _ => ht

/-- **No more is granted than was there**: up to an instant, what the bucket held and gained. -/
theorem grantsWithin_le_tokens {since till : Int} (hw : Within limits b)
    (hsorted : (b.last :: times).Pairwise (· ≤ ·)) (hlast : b.last ≤ till) :
    (grantsWithin (b.calls limits times) since till : Rat)
      ≤ b.tokens + gain limits b.last till := by
  induction times generalizing b with
  | nil => exact add_nonneg hw.nonneg (gain_nonneg hlast)
  | cons first later ih =>
    have hfirst : b.last ≤ first := List.rel_of_pairwise_cons hsorted List.mem_cons_self
    by_cases hin : first ≤ till
    · have hrest := ih (hw.take first) (sorted_take hsorted) (by rwa [take_last])
      rw [take_last, le_take_iff hfirst] at hrest
      refine le_trans ?_ hrest.1
      rw [calls_cons, grantsWithin_cons, Nat.cast_add, add_le_add_iff_left, Nat.cast_le]
      cases (b.take limits first).1 with
      | true => split <;> simp
      | false => simp
    · -- the first call comes after the window, and so do all others
      rw [grantsWithin_eq_zero, Nat.cast_zero]
      · exact add_nonneg hw.nonneg (gain_nonneg hlast)
      · intro t ht
        obtain rfl | ht := List.mem_cons.mp ht
        · exact not_le.mp hin
        · exact lt_of_lt_of_le (not_le.mp hin) (List.rel_of_pairwise_cons hsorted.of_cons ht)

/-- **In no window are more calls granted than it has room for.** -/
theorem grantsWithin_le_room {since till : Int} (hw : Within limits b)
    (hsorted : (b.last :: times).Pairwise (· ≤ ·)) (hwindow : since ≤ till) :
    (grantsWithin (b.calls limits times) since till : Rat) ≤ room limits since till := by
  have hroom : 0 ≤ room limits since till :=
    add_nonneg (Nat.cast_nonneg _) (gain_nonneg hwindow)
  induction times generalizing b with
  | nil => exact hroom
  | cons first later ih =>
    have hfirst : b.last ≤ first := List.rel_of_pairwise_cons hsorted List.mem_cons_self
    by_cases hin : since ≤ first ∧ first ≤ till
    · -- from its first call on the window is one of a bucket that holds `burst` at most
      have hend : (b.take limits first).2.last ≤ till := by
        rw [take_last]
        exact hin.2
      have hrest : (grantsWithin ((b.take limits first).2.calls limits later) since till : Rat)
          ≤ _ := grantsWithin_le_tokens (hw.take first) (sorted_take hsorted) hend
      rw [take_last, le_take_iff hfirst] at hrest
      calc (grantsWithin (b.calls limits (first :: later)) since till : Rat)
          ≤ (grantsWithin ((b.take limits first).2.calls limits later) since till : Rat)
              + ((b.take limits first).1.toNat : Rat) := by
            rw [calls_cons, grantsWithin_cons, Nat.cast_add]
            cases (b.take limits first).1 <;> simp [hin]
        _ ≤ limits.burst + gain limits first till := hrest.2
        _ ≤ limits.burst + (gain limits since first + gain limits first till) :=
            add_le_add_right (le_add_of_nonneg_left (gain_nonneg hin.1)) _
        _ = room limits since till := by rw [gain_add_gain, room]
    · rw [calls_cons, grantsWithin_cons, if_neg (fun h => hin h.2), Nat.add_zero]
      exact ih (hw.take first) (sorted_take hsorted)

/-- The decisions are those of the calls. -/
theorem map_snd_calls : (b.calls limits times).map Prod.snd = b.decisions limits times :=
  List.map_snd_zip (Nat.le_of_eq length_decisions)

/-- Calls come in the order of their instants. -/
theorem le_of_getElem? (hsorted : times.Pairwise (· ≤ ·)) {k n : Nat} {s t : Int} (hkn : k ≤ n)
    (hs : times[k]? = some s) (ht : times[n]? = some t) : s ≤ t := by
  obtain ⟨hk, rfl⟩ := List.getElem?_eq_some_iff.mp hs
  obtain ⟨hn, rfl⟩ := List.getElem?_eq_some_iff.mp ht
  exact hsorted.rel_get_of_le (a := ⟨k, hk⟩) (b := ⟨n, hn⟩) hkn

/-- A call from the `k`-th up to the `n`-th is one of them. -/
theorem exists_of_mem_drop_take {k n : Nat} {c : Int × Bool}
    (hc : c ∈ ((b.calls limits times).take n).drop k) :
    ∃ i, k ≤ i ∧ i < n ∧ times[i]? = some c.1 := by
  obtain ⟨i, hi⟩ := List.mem_iff_getElem?.mp hc
  rw [List.getElem?_drop, List.getElem?_take] at hi
  split at hi
  · next hlt =>
    exact ⟨k + i, Nat.le_add_right k i, hlt, (List.getElem?_zip_eq_some.mp hi).1⟩
  · cases hi

/-- **Calls from the one at `s` up to the one at `t` fall into that window of time.** -/
theorem grants_le_grantsWithin {k n : Nat} {s t : Int} (hsorted : times.Pairwise (· ≤ ·))
    (hs : times[k]? = some s) (ht : times[n]? = some t) :
    grants (b.decisions limits times) k n
      ≤ grantsWithin ((b.calls limits times).take n) s t := by
  have hgrants : grants (b.decisions limits times) k n
      = (((b.calls limits times).take n).drop k).countP Prod.snd := by
    rw [grants, ← map_snd_calls, ← List.map_take, ← List.map_drop, List.count, List.countP_map]
    exact List.countP_congr fun c _ => by cases h : c.2 <;> simp [h]
  -- both ends of the window are calls, and the calls come in order
  have hinside : ∀ c ∈ ((b.calls limits times).take n).drop k, s ≤ c.1 ∧ c.1 ≤ t := by
    intro c hc
    obtain ⟨i, hki, hin, hi⟩ := exists_of_mem_drop_take hc
    exact ⟨le_of_getElem? hsorted hki hs hi, le_of_getElem? hsorted (Nat.le_of_lt hin) hi ht⟩
  calc grants (b.decisions limits times) k n
      = (((b.calls limits times).take n).drop k).countP Prod.snd := hgrants
    _ ≤ grantsWithin (((b.calls limits times).take n).drop k) s t :=
        List.countP_mono_left fun c hc hd => by simpa [hd] using hinside c hc
    _ ≤ grantsWithin ((b.calls limits times).take n) s t :=
        (List.drop_sublist k _).countP_le

/-- A bucket **conforms to the rate limit** on calls at these instants. -/
structure Conforms (limits : Limits) (b : TokenBucket Rat) (times : List Int) : Prop where
  /-- Every call is decided. -/
  decided : (b.decisions limits times).length = times.length
  /-- A call is granted exactly when the grants since each call before it, and it itself, have room
  in the window between the two. -/
  granted_iff : ∀ n t, times[n]? = some t →
    ((b.decisions limits times)[n]? = some true
      ↔ ∀ k s, k ≤ n → times[k]? = some s →
        (grants (b.decisions limits times) k n : Rat) + 1
          ≤ limits.burst + limits.perSecond * span s t)
  /-- In no window of time is more granted than there is room for. -/
  window_le : ∀ since till, since ≤ till →
    (grantsWithin (b.calls limits times) since till : Rat)
      ≤ limits.burst + limits.perSecond * span since till
  /-- A call is not refused while all windows of time that end with it have room. -/
  not_refused : ∀ n t, times[n]? = some t →
    (∀ s ≤ t, (grantsWithin ((b.calls limits times).take n) s t : Rat) + 1
      ≤ limits.burst + limits.perSecond * span s t) →
    (b.decisions limits times)[n]? = some true
  /-- The content stays between nothing and `burst`, at the start and after every call. -/
  content : ∀ c ∈ b :: (b.run limits times).map Prod.snd, 0 ≤ c.tokens ∧ c.tokens ≤ limits.burst

/-- **A bucket that starts full conforms to its rate limit**, whatever the limit is and whenever the
calls come, as long as they come in order. -/
theorem conforms (limits : Limits) {created : Int} {times : List Int}
    (h : (created :: times).Pairwise (· ≤ ·)) :
    Conforms limits (full limits created) times := by
  have hfull : Within limits (full limits created) := within_full limits created
  constructor
  case decided => exact length_decisions
  case granted_iff => exact fun n t ht => TokenBucket.granted_iff h ht
  case window_le => exact fun since till hwindow => grantsWithin_le_room hfull h hwindow
  case not_refused =>
    intro n t ht hroom
    refine (TokenBucket.granted_iff h ht).mpr fun k s hk hs => ?_
    have hst : s ≤ t := le_of_getElem? h.of_cons hk hs ht
    -- every call from the `k`-th on falls into the window of time that begins with it
    have hcount : (grants ((full limits created).decisions limits times) k n : Rat)
        ≤ (grantsWithin (((full limits created).calls limits times).take n) s t : Rat) :=
      Nat.cast_le.mpr (grants_le_grantsWithin h.of_cons hs ht)
    exact le_trans (add_le_add_left hcount 1) (hroom s hst)
  case content =>
    intro c hc
    obtain rfl | hc := List.mem_cons.mp hc
    · exact ⟨hfull.nonneg, hfull.le_burst⟩
    · obtain ⟨r, hr, rfl⟩ := List.mem_map.mp hc
      exact ⟨(hfull.run times r hr).nonneg, (hfull.run times r hr).le_burst⟩

/-- Two calls at once empty a bucket of two tokens, a third is refused, and a second and a half
later there is room for one more. -/
theorem conforms_at_once :
    ((0 : Int) :: [0, 0, 0, 1500000000, 1500000000]).Pairwise (· ≤ ·)
      ∧ Conforms ⟨1, 2⟩ (full ⟨1, 2⟩ 0) [0, 0, 0, 1500000000, 1500000000]
      ∧ (full ⟨1, 2⟩ 0 : TokenBucket Rat).decisions ⟨1, 2⟩ [0, 0, 0, 1500000000, 1500000000]
        = [true, true, false, true, false] :=
  ⟨by decide, conforms ⟨1, 2⟩ (by decide), by decide +kernel⟩

end RecordRelay.TokenBucket
