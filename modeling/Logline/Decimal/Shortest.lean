import Logline.Decimal.Binary

/-! # Shortest decimals

The **shortest decimal** of a binary number is the decimal with the fewest digits that rounds to the
number in its format, of those the nearest, and of two equally near ones the greater.

The reals that round to `m · 2 ^ e` form an interval, its two ends included where `m` is even. For a
grid of multiples of a power of ten, if any point of the grid lies in the interval, one of the two
neighbours of the number on the grid does; so the first grid with a neighbour inside has the fewest
digits.

* `Interval` — the reals that round to a number, on a common denominator
* `shortest` — the digits and the power of ten of their last one
-/

namespace Logline.Decimal

/-- The number `value / scale` and the ends of the interval of reals that round to it. -/
structure Interval where
  low : Nat
  value : Nat
  high : Nat
  scale : Nat
  closed : Bool
  deriving Repr

/-- The reals that round to `m · 2 ^ e`. The interval reaches half way to the neighbours, and the
lower one is half as far off where `m` is the least significand of its exponent. -/
def Format.interval (f : Format) (m : Nat) (e : Int) : Interval :=
  -- everything is counted in quarters of a unit of the last digit
  let below := if m = Nat.pow 2 (f.precision - 1) ∧ f.least < e then 1 else 2
  let (one, scale) := scaled 1 1 (2 - e)
  ⟨(4 * m - below) * one, 4 * m * one, (4 * m + 2) * one, scale, m % 2 == 0⟩

/-- Whether the interval holds `n · 10 ^ k`. -/
def Interval.holds (i : Interval) (n : Nat) (k : Int) : Bool :=
  let point := n * i.scale * Nat.pow 10 k.toNat
  let unit := Nat.pow 10 (-k).toNat
  if i.closed then i.low * unit ≤ point && point ≤ i.high * unit
  else i.low * unit < point && point < i.high * unit

/-- The greatest `k` with `10 ^ k ≤ n / d`, for positive `n` and `d`. -/
def decimalOrder (n d : Nat) : Int :=
  let k : Int := (toString n).length - (toString d).length
  if n * Nat.pow 10 (-k).toNat < d * Nat.pow 10 k.toNat then k - 1 else k

/-- The neighbour of the value among the multiples of `10 ^ k` that lies in the interval; where both
do, the nearer one, and the greater of two equally near ones. -/
def Interval.onGrid? (i : Interval) (k : Int) : Option Nat :=
  let n := i.value * Nat.pow 10 (-k).toNat
  let d := i.scale * Nat.pow 10 k.toNat
  let q := n / d
  let r := n % d
  match i.holds q k, i.holds (q + 1) k with
  | true, true => some (if r = 0 then q else if 2 * r < d then q else q + 1)
  | true, false => some q
  | false, true => some (q + 1)
  | false, false => none

/-- A whole number without its trailing zeros, with how many there were. -/
def withoutTrailingZeros (n : Nat) : List Char × Nat :=
  let ds := (toString n).toList.reverse
  ((ds.dropWhile (· == '0')).reverse, (ds.takeWhile (· == '0')).length)

/-- The digits of the shortest decimal of `m · 2 ^ e`, and the power of ten of the last one. -/
def Format.shortest (f : Format) (m : Nat) (e : Int) : List Char × Int :=
  let i := f.interval m e
  let order := decimalOrder i.value i.scale
  let hit := (List.range (f.precision + 1)).findSome? fun (count : Nat) =>
    (i.onGrid? (order - count)).map fun n => (n, order - (count : Int))
  let (n, k) := hit.getD (i.value / i.scale, 0)
  let (ds, zeros) := withoutTrailingZeros n
  (ds, k + zeros)

end Logline.Decimal
