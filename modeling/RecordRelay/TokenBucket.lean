/-!
# A bucket of tokens

A route that must not be called too often is guarded by a **token bucket**. The bucket holds at most
`burst` tokens and gains `perSecond` of them every second; a call takes one token or is refused, it
never waits. Every call, also a refused one, moves the time of the last refill to its own instant,
even when that instant is earlier than the last one.

The bucket counts in any `Quantity`. The service counts in binary64; the laws about rates speak of
the same bucket counting in exact rationals.
-/

namespace RecordRelay

/-- The arithmetic of a bucket. -/
class Quantity (α : Type) extends Add α, Sub α, Mul α, Div α where
  /-- A whole number. -/
  ofNat : Nat → α
  /-- Whether the first is at least the second. -/
  atLeast : α → α → Bool

instance : Quantity Float where
  ofNat := Float.ofNat
  atLeast a b := b ≤ a

instance : Quantity Rat where
  ofNat n := n
  atLeast a b := b ≤ a

/-- The limits of a bucket. -/
structure Limits where
  /-- The tokens gained in a second. -/
  perSecond : Nat
  /-- The most tokens that the bucket holds. -/
  burst : Nat
  deriving DecidableEq, Repr

/-- A bucket. Instants are counted in nanoseconds. -/
structure TokenBucket (α : Type) where
  /-- The tokens in the bucket. -/
  tokens : α
  /-- The instant of the last refill. -/
  last : Int

namespace TokenBucket

variable {α : Type} [Quantity α]

/-- The seconds from one instant to another, none if it is not later. Whole seconds and the rest
are converted apart. -/
def seconds (since now : Int) : α :=
  let nanos := (now - since).toNat
  Quantity.ofNat (nanos / 1000000000) +
    Quantity.ofNat (nanos % 1000000000) / Quantity.ofNat 1000000000

/-- A full bucket. -/
def full (limits : Limits) (now : Int) : TokenBucket α := ⟨Quantity.ofNat limits.burst, now⟩

/-- The tokens at an instant, before any is taken. -/
def level (limits : Limits) (now : Int) (b : TokenBucket α) : α :=
  let raised := b.tokens + seconds b.last now * Quantity.ofNat limits.perSecond
  if Quantity.atLeast raised (Quantity.ofNat limits.burst) then Quantity.ofNat limits.burst
  else raised

/-- **Takes one token** if there is one: whether it was granted, and the bucket after it. -/
def take (limits : Limits) (now : Int) (b : TokenBucket α) : Bool × TokenBucket α :=
  let level := b.level limits now
  if Quantity.atLeast level (Quantity.ofNat 1) then (true, ⟨level - Quantity.ofNat 1, now⟩)
  else (false, ⟨level, now⟩)

/-- Takes a token at each instant in turn. -/
def run (limits : Limits) : List Int → TokenBucket α → List (Bool × TokenBucket α)
  | [], _ => []
  | now :: later, b =>
    let r := b.take limits now
    r :: run limits later r.2

end TokenBucket

end RecordRelay
