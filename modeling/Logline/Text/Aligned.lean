/-! # Aligned fields

A text is put into a field: it is first cut to at most so many characters and then filled to at
least so many, on the side that its alignment says.

* `Field.apply` — a text in a field
* `Field.length_apply` — how many characters it has
* `Field.apply_apply` — a text that is put into one field twice
-/

namespace Logline.Text

/-- Where the text of a field stands. -/
inductive Alignment where
  | left
  | right
  | center
  deriving DecidableEq, Repr

/-- The shape of a field: `width` is the least and `precision` the greatest number of characters of
text. -/
structure Field where
  alignment : Alignment
  fill : Char
  width : Nat
  precision : Nat
  deriving DecidableEq, Repr

/-- How many fill characters go in front of a text that lacks `missing` characters: half of them,
rounded down, where it is centred. -/
def Alignment.leading (missing : Nat) : Alignment → Nat
  | .left => 0
  | .right => missing
  | .center => missing / 2

/-- No more characters go in front than are lacking. -/
theorem Alignment.leading_le (missing : Nat) (a : Alignment) : a.leading missing ≤ missing := by
  cases a <;> simp only [Alignment.leading] <;> omega

/-- A text in a field. -/
def Field.apply (f : Field) (s : String) : String :=
  let kept := s.toList.take f.precision
  let missing := f.width - kept.length
  let lead := f.alignment.leading missing
  String.ofList (List.replicate lead f.fill ++ kept ++ List.replicate (missing - lead) f.fill)

namespace Field

variable (f : Field) (s : String)

/-- **The width of a field.** A text that was put into a field has at least `width` characters, and
no more than that unless its own first `precision` characters are more. -/
theorem length_apply :
    (f.apply s).toList.length = max f.width (min f.precision s.toList.length) := by
  have lead := f.alignment.leading_le (f.width - min f.precision s.toList.length)
  simp only [apply, String.toList_ofList, List.length_append, List.length_replicate,
    List.length_take]
  omega

/-- A text that fits is left as it is. -/
theorem apply_of_fits (fills : f.width ≤ s.toList.length) (fits : s.toList.length ≤ f.precision) :
    f.apply s = s := by
  have missing : f.width - s.toList.length = 0 := by omega
  have lead : f.alignment.leading 0 = 0 := Nat.le_zero.1 (f.alignment.leading_le 0)
  simp only [apply, List.take_of_length_le fits, missing, lead, List.replicate_zero,
    List.nil_append, List.append_nil, String.ofList_toList, Nat.sub_self]

/-- A field that can hold its own width is put into itself without a change. -/
theorem apply_apply (wide : f.width ≤ f.precision) : f.apply (f.apply s) = f.apply s := by
  refine f.apply_of_fits _ ?_ ?_
  · rw [length_apply]
    omega
  · rw [length_apply]
    omega

end Field

end Logline.Text
