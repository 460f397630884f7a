/-! # Binary floating point numbers

A **binary number** is a sign, a whole significand and a power of two, or an infinity, or no number.
A **format** bounds the significand and the exponent; rounding takes a quotient of naturals to the
nearest number of a format, a tie to the even significand.

* `Format` — `double` and `single` are the two interchange formats of 64 and 32 bits
* `Format.round` — the nearest number of a format
* `Format.read?` — a decimal literal as the nearest number of a format
* `Binary.widen` — the same number in a format that has room for it
-/

namespace Logline.Decimal

/-- A binary format: the number of digits of a significand, and the range of exponents of its last
digit. -/
structure Format where
  precision : Nat
  least : Int
  greatest : Int
  deriving DecidableEq, Repr

/-- The interchange format of 64 bits. -/
def Format.double : Format := ⟨53, -1074, 971⟩

/-- The interchange format of 32 bits. -/
def Format.single : Format := ⟨24, -149, 104⟩

/-- A binary number; `finite negative m e` stands for `±m · 2 ^ e`. -/
inductive Binary where
  | nan
  | infinity (negative : Bool)
  | finite (negative : Bool) (significand : Nat) (exponent : Int)
  deriving DecidableEq, Repr

/-- The parts of `n / d · 2 ^ (-e)` as a quotient of naturals. -/
def scaled (n d : Nat) (e : Int) : Nat × Nat :=
  if e < 0 then (n * Nat.pow 2 (-e).toNat, d) else (n, d * Nat.pow 2 e.toNat)

/-- The whole number nearest to `n / d`, of two equally near ones the even one. -/
def nearest (n d : Nat) : Nat :=
  let q := n / d
  let r := n % d
  if 2 * r < d then q else if d < 2 * r then q + 1 else if q % 2 = 0 then q else q + 1

/-- The greatest `k` with `2 ^ k ≤ n / d`, for positive `n` and `d`. -/
def binaryOrder (n d : Nat) : Int :=
  let k : Int := (n.log2 : Int) - d.log2
  let (a, b) := scaled n d k
  if a < b then k - 1 else k

/-- The number of a format nearest to `n / d`, of two equally near ones that with the even
significand; an infinity where the quotient is too great for the format. -/
def Format.round (f : Format) (negative : Bool) (n d : Nat) : Binary :=
  if n = 0 then .finite negative 0 f.least
  else
    -- small numbers keep the least exponent and lose digits instead
    let e := max f.least (binaryOrder n d - (f.precision - 1 : Nat))
    let (a, b) := scaled n d e
    let m := nearest a b
    -- rounding up may carry into one digit more
    let (m, e) := if m = Nat.pow 2 f.precision then (Nat.pow 2 (f.precision - 1), e + 1) else (m, e)
    if f.greatest < e then .infinity negative else .finite negative m e

/-- A number as the nearest one of another format. -/
def Binary.widen (f : Format) : Binary → Binary
  | .nan => .nan
  | .infinity negative => .infinity negative
  | .finite negative m e =>
    let (a, b) := scaled m 1 (-e)
    f.round negative a b

/-- Whether two numbers are equal as numbers: no number equals itself, and zero has no sign. -/
def Binary.same : Binary → Binary → Bool
  | .infinity s, .infinity t => s == t
  | .finite s m e, .finite t m' e' =>
    if m = 0 then m' = 0 else s == t && m == m' && e == e'
  | _, _ => false

/-! ## Reading decimal literals -/

/-- The value of a digit sequence, `none` where a character is no digit. -/
def digits? (cs : List Char) : Option Nat :=
  if cs.all Char.isDigit then some (cs.foldl (fun n c => 10 * n + (c.toNat - 0x30)) 0) else none

/-- A sign in front of a text, `true` for minus, and the text after it. -/
def splitSign : List Char → Bool × List Char
  | '-' :: cs => (true, cs)
  | '+' :: cs => (false, cs)
  | cs => (false, cs)

/-- A whole number with an optional sign. -/
def integer? (cs : List Char) : Option Int :=
  let (negative, ds) := splitSign cs
  if ds.isEmpty then none
  else (digits? ds).map fun n => if negative then -(n : Int) else n

/-- The number of a format nearest to `n · 10 ^ k`. Powers far outside the range of the format give
an infinity or zero without being computed. -/
def Format.ofDecimal (f : Format) (negative : Bool) (n : Nat) (k : Int) : Binary :=
  let order := k + (toString n).length
  if n = 0 ∨ order < -400 then .finite negative 0 f.least
  else if 400 < order then .infinity negative
  else if k < 0 then f.round negative n (Nat.pow 10 (-k).toNat)
  else f.round negative (n * Nat.pow 10 k.toNat) 1

/-- A decimal literal as the nearest number of a format: an optional sign, then `inf`, `infinity` or
`nan` in any case, or digits with an optional point among them and an optional exponent. -/
def Format.read? (f : Format) (s : String) : Option Binary :=
  let (negative, cs) := splitSign s.toList
  let word := String.ofList (cs.map Char.toLower)
  if word = "nan" then some .nan
  else if word = "inf" ∨ word = "infinity" then some (.infinity negative)
  else
    let isMark : Char → Bool := fun c => c == 'e' || c == 'E'
    let body := cs.takeWhile (!isMark ·)
    let whole := body.takeWhile (· != '.')
    let part := (body.dropWhile (· != '.')).drop 1
    let exponent := match cs.dropWhile (!isMark ·) with
      | [] => some 0
      | _ :: rest => integer? rest
    if whole.isEmpty && part.isEmpty then none
    else do
      let n ← digits? (whole ++ part)
      let k ← exponent
      some (f.ofDecimal negative n (k - part.length))

end Logline.Decimal
