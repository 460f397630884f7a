/-! # Digits

Numbers written with a fixed number of digits, and in base sixteen.

* `fixed` — exactly so many decimal digits, the leading ones cut or filled with zeros
* `padded` — at least so many decimal digits
* `paddedInt` — the same for integers, a sign taking one of the places
* `hex` — lower-case base sixteen without leading zeros
-/

namespace Logline.Text

/-- The decimal digit of a number below ten. -/
def digit (n : Nat) : Char := Char.ofNat (0x30 + n % 10)

/-- The last `width` decimal digits of a number, with zeros in front where it has fewer. -/
def fixed : (width : Nat) → Nat → List Char
  | 0, _ => []
  | width + 1, n => fixed width (n / 10) ++ [digit n]

/-- A number has as many digits as it is given places. -/
@[simp] theorem length_fixed (width n : Nat) : (fixed width n).length = width := by
  induction width generalizing n with
  | zero => rfl
  | succ width ih => simp [fixed, ih]

/-- A number in decimal, filled with zeros to at least `width` digits. -/
def padded (width n : Nat) : String :=
  if n < Nat.pow 10 width then String.ofList (fixed width n) else toString n

/-- An integer in decimal, filled with zeros to at least `width` places, a minus sign among them. -/
def paddedInt (width : Nat) : Int → String
  | .ofNat n => padded width n
  | .negSucc n => "-" ++ padded (width - 1) (n + 1)

/-- A number in base sixteen with lower-case digits. -/
def hex (n : Nat) : String := String.ofList (Nat.toDigits 16 n)

end Logline.Text
