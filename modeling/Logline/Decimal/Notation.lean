import Logline.Decimal.Shortest

/-! # Decimal notation

How the digits of a number are laid out: positionally with a point, or as one digit, a fraction and
a power of ten.

* `Layout` — where positional notation begins and ends
* `Layout.text` — a number of a format in its shortest form
-/

namespace Logline.Decimal

/-- The decimal orders, from `least` up to and without `limit`, of the numbers that are written
positionally. -/
structure Layout where
  least : Int
  limit : Int
  deriving DecidableEq, Repr

/-- Numbers from a ten-thousandth up to ten to the sixteenth are written positionally. -/
def Layout.general : Layout := ⟨-4, 16⟩

/-- Digits with a point after the first `whole` of them, zeros filled in on either side. -/
def positional (ds : List Char) (whole : Int) : List Char :=
  if whole ≤ 0 then ['0', '.'] ++ List.replicate (-whole).toNat '0' ++ ds
  else
    let w := whole.toNat
    let part := ds.drop w
    ds.take w ++ List.replicate (w - ds.length) '0' ++ '.' :: if part.isEmpty then ['0'] else part

/-- Digits with a point after the first, where there are more, and a power of ten. -/
def scientific (ds : List Char) (order : Int) : List Char :=
  let part := ds.drop 1
  ds.take 1 ++ (if part.isEmpty then [] else '.' :: part) ++ 'e' :: (toString order).toList

/-- The text of a number of a format: the shortest decimal that reads back as the number. -/
def Layout.text (l : Layout) (f : Format) : Binary → String
  | .nan => "NaN"
  | .infinity negative => if negative then "-inf" else "inf"
  | .finite negative m e =>
    let sign := if negative then "-" else ""
    if m = 0 then sign ++ "0.0"
    else
      let (ds, k) := f.shortest m e
      let order := k + ds.length - 1
      sign ++ String.ofList
        (if l.least ≤ order ∧ order < l.limit then positional ds (order + 1)
         else scientific ds order)

end Logline.Decimal
