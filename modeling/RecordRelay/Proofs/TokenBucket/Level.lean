import Mathlib.Data.Rat.Cast.Order
import Mathlib.Tactic.NormNum
import RecordRelay.TokenBucket

/-!
# What a bucket holds

In exact arithmetic a bucket is easy to describe. Between two instants it gains `perSecond` tokens a
second, its `level` is what it held and what it gained, clipped at `burst`, and a call takes one
token if the level is one at least. So its content always stays between nothing and `burst`
(`Within`), for calls at any instants, also ones that go back: no time passes then and nothing is
gained.
-/

namespace RecordRelay.TokenBucket

/-! ## Time -/

/-- The **seconds** from one instant to another, below zero if that is earlier. -/
def span (since now : Int) : Rat := ((now - since : Int) : Rat) / 1000000000

/-- The tokens **gained** from one instant to another, if none are lost. -/
def gain (limits : Limits) (since now : Int) : Rat := limits.perSecond * span since now

/-- No time passes within an instant. -/
@[simp]
theorem span_self (now : Int) : span now now = 0 := by
  rw [span, sub_self, Int.cast_zero, zero_div]

/-- Spans of time that follow one another add up. -/
theorem span_add_span (a b c : Int) : span a b + span b c = span a c := by
  rw [span, span, span, ← add_div, ← Int.cast_add, sub_add_sub_cancel']

/-- Time does not run backwards between instants in order. -/
theorem span_nonneg {since now : Int} (h : since ≤ now) : 0 ≤ span since now :=
  div_nonneg (Int.cast_nonneg (sub_nonneg.mpr h)) (by norm_num)

/-- Whole seconds and the rest, converted apart, are the span, and none if the instant goes
back. -/
theorem seconds_eq (since now : Int) : (seconds since now : Rat) = span since (max since now) := by
  have hnanos : ((now - since).toNat : Int) = max since now - since := by omega
  have hsplit := Nat.div_add_mod (now - since).toNat 1000000000
  show (((now - since).toNat / 1000000000 : Nat) : Rat)
      + (((now - since).toNat % 1000000000 : Nat) : Rat) / ((1000000000 : Nat) : Rat) = _
  rw [span, ← hnanos, Int.cast_natCast, Nat.cast_ofNat, eq_div_iff (by norm_num), add_mul,
    div_mul_cancel₀ _ (by norm_num), mul_comm]
  exact_mod_cast hsplit

variable {limits : Limits}

/-- Nothing is gained within an instant. -/
@[simp]
theorem gain_self (now : Int) : gain limits now now = 0 := by rw [gain, span_self, mul_zero]

/-- What is gained adds up. -/
theorem gain_add_gain (a b c : Int) : gain limits a b + gain limits b c = gain limits a c := by
  rw [gain, gain, gain, ← mul_add, span_add_span]

/-- Nothing is lost between instants in order. -/
theorem gain_nonneg {since now : Int} (h : since ≤ now) : 0 ≤ gain limits since now :=
  mul_nonneg (Nat.cast_nonneg _) (span_nonneg h)

/-! ## Content -/

variable {b : TokenBucket Rat}

/-- The **level** is what the bucket held and what it gained since, clipped at `burst`. -/
theorem level_eq (now : Int) :
    b.level limits now = min (b.tokens + gain limits b.last (max b.last now)) limits.burst := by
  have hraised : b.tokens + seconds b.last now * (limits.perSecond : Rat)
      = b.tokens + gain limits b.last (max b.last now) := by
    rw [seconds_eq, gain, mul_comm]
  show (if decide ((limits.burst : Rat) ≤ b.tokens + seconds b.last now * (limits.perSecond : Rat))
    then (limits.burst : Rat) else _) = _
  rw [hraised]
  by_cases h : (limits.burst : Rat) ≤ b.tokens + gain limits b.last (max b.last now)
  · rw [if_pos (decide_eq_true h), min_eq_right h]
  · rw [if_neg (by simpa using h), min_eq_left (le_of_not_ge h)]
    exact hraised

/-- A call is **granted** if the level is one at least. -/
theorem take_granted_iff (now : Int) :
    (b.take limits now).1 = true ↔ 1 ≤ b.level limits now := by
  show (if decide (((1 : Nat) : Rat) ≤ b.level limits now) then _ else _ : Bool × _).1 = true ↔ _
  rw [Nat.cast_one]
  by_cases h : 1 ≤ b.level limits now <;> simp [h]

/-- A call that is granted takes one token, and one that is refused takes none. -/
theorem take_tokens (now : Int) :
    (b.take limits now).2.tokens = b.level limits now - ((b.take limits now).1.toNat : Rat) := by
  unfold take
  dsimp only
  split
  · rfl
  · exact (sub_zero _).symm

/-- Every call moves the time of the last refill to its own instant. -/
@[simp]
theorem take_last (now : Int) : (b.take limits now).2.last = now := by
  unfold take
  dsimp only
  split <;> rfl

/-- A bucket holds **neither less than nothing nor more than `burst`**. -/
structure Within (limits : Limits) (b : TokenBucket Rat) : Prop where
  /-- It is not overdrawn. -/
  nonneg : 0 ≤ b.tokens
  /-- It does not overflow. -/
  le_burst : b.tokens ≤ limits.burst

/-- A full bucket is full and not more. -/
theorem within_full (limits : Limits) (now : Int) : Within limits (full limits now) :=
  ⟨Nat.cast_nonneg limits.burst, le_refl (limits.burst : Rat)⟩

/-- **No call overdraws the bucket or makes it overflow**, at whatever instant it comes. -/
theorem Within.take (h : Within limits b) (now : Int) : Within limits (b.take limits now).2 := by
  have hlevel : 0 ≤ b.level limits now := by
    rw [level_eq]
    have hgain : 0 ≤ gain limits b.last (max b.last now) := gain_nonneg (le_max_left _ _)
    exact le_min (add_nonneg h.nonneg hgain) (Nat.cast_nonneg _)
  have hburst : b.level limits now ≤ limits.burst := by
    rw [level_eq]
    exact min_le_right _ _
  -- a token is taken only where there is a whole one
  have htaken : ((b.take limits now).1.toNat : Rat) ≤ b.level limits now := by
    cases hg : (b.take limits now).1 with
    | true => exact_mod_cast (take_granted_iff now).mp hg
    | false => exact_mod_cast hlevel
  refine ⟨?_, ?_⟩ <;> rw [take_tokens]
  · exact sub_nonneg.mpr htaken
  · exact le_trans (sub_le_self _ (Nat.cast_nonneg _)) hburst

/-- So it is after every call of a run. -/
theorem Within.run (h : Within limits b) (times : List Int) :
    ∀ r ∈ b.run limits times, Within limits r.2 := by
  induction times generalizing b with
  | nil => exact fun _ hr => absurd hr List.not_mem_nil
  | cons now later ih =>
    intro r hr
    obtain rfl | hr := List.mem_cons.mp hr
    · exact h.take now
    · exact ih (h.take now) r hr

end RecordRelay.TokenBucket
