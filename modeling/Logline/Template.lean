import Logline.Rendering

/-! # Message templates

A template is a text in which `{}` is a **slot** for an argument. A backslash directly before a slot
makes it plain text, and a second backslash before that makes the backslash plain text. Arguments
fill the slots from left to right; once they have run out, or where there are none at all, the rest
of the template stands as it is.

* `Piece` — plain text or a slot
* `Template.pieces` — the pieces of a template for a number of arguments
* `Template.fill` — a template with its arguments rendered
-/

namespace Logline

/-- A part of a template. -/
inductive Piece where
  /-- Text that stands for itself. -/
  | literal (s : List Char)
  /-- A place for an argument. -/
  | slot
  deriving DecidableEq, Repr

namespace Template

/-- Cuts a template at its slots. `before` is the text in front of the cursor and `lead` the part of
it that is not yet in a piece, both reversed; `count` slots are still to be filled. -/
def scan : (count : Nat) → (before lead text : List Char) → List Piece
  | 0, _, lead, text => [.literal (lead.reverse ++ text)]
  | _ + 1, _, lead, [] => [.literal lead.reverse]
  | count + 1, before, lead, '{' :: '}' :: rest =>
    match before with
    -- two backslashes: the nearer one goes, and the slot counts
    | '\\' :: '\\' :: _ =>
      .literal lead.tail.reverse :: .slot :: scan count ('}' :: '{' :: before) [] rest
    -- one backslash: it goes, and the search goes on behind the opening brace
    | '\\' :: _ =>
      .literal ('{' :: lead.tail).reverse
        :: scan (count + 1) ('}' :: '{' :: before) ['}'] rest
    | _ => .literal lead.reverse :: .slot :: scan count ('}' :: '{' :: before) [] rest
  | count + 1, before, lead, c :: rest => scan (count + 1) (c :: before) (c :: lead) rest
termination_by structural _ _ _ text => text

section Scan
variable {before lead rest : List Char} {count : Nat}

/-- Where no slot begins, a character joins the text in front of it. -/
theorem scan_plain {c : Char} (plain : ∀ tail, c = '{' → rest = '}' :: tail → False) :
    scan (count + 1) before lead (c :: rest)
      = scan (count + 1) (c :: before) (c :: lead) rest := by
  rw [scan]
  exact plain

/-- A slot with no backslash in front of it is a piece of its own. -/
theorem scan_open (no_slash : before.head? ≠ some '\\') :
    scan (count + 1) before lead ('{' :: '}' :: rest)
      = .literal lead.reverse :: .slot :: scan count ('}' :: '{' :: before) [] rest := by
  cases before with
  | nil => rfl
  | cons c before =>
    have ne : c ≠ '\\' := fun slash => no_slash (by rw [slash]; rfl)
    rw [scan]
    · rintro tail ⟨⟩
      exact ne rfl
    · rintro tail ⟨⟩
      exact ne rfl

/-- With two backslashes in front of a slot the nearer one goes and the slot counts. -/
theorem scan_two_slashes :
    scan (count + 1) ('\\' :: '\\' :: before) lead ('{' :: '}' :: rest)
      = .literal lead.tail.reverse :: .slot
          :: scan count ('}' :: '{' :: '\\' :: '\\' :: before) [] rest :=
  rfl

/-- With one backslash in front of a slot that goes, and the braces are plain text. -/
theorem scan_one_slash (no_slash : before.head? ≠ some '\\') :
    scan (count + 1) ('\\' :: before) lead ('{' :: '}' :: rest)
      = .literal ('{' :: lead.tail).reverse
          :: scan (count + 1) ('}' :: '{' :: '\\' :: before) ['}'] rest := by
  cases before with
  | nil => rfl
  | cons c before =>
    have ne : c ≠ '\\' := fun slash => no_slash (by rw [slash]; rfl)
    rw [scan]
    rintro tail ⟨⟩
    exact ne rfl

end Scan

/-- The pieces of a template that `count` arguments are there for. -/
def pieces (count : Nat) (t : String) : List Piece := scan count [] [] t.toList

/-- Appends pieces, a slot as the next argument; slots without an argument are left out. -/
def appendPieces (h : Heap) : Rendering → List Piece → List Value → Rendering
  | r, [], _ => r
  | r, .literal s :: ps, vs => appendPieces h (r.put (String.ofList s)) ps vs
  | r, .slot :: ps, v :: vs => appendPieces h (r.append h v) ps vs
  | r, .slot :: ps, [] => appendPieces h r ps []

/-- A template with its arguments in the slots, after earlier attempts, and the attempts after
it. -/
def fill (h : Heap) (attempts : List Attempt) (t : String) (args : List Value) :
    String × List Attempt :=
  let r := appendPieces h ⟨"", [], attempts⟩ (pieces args.length t) args
  (r.out, r.attempts)

end Template

end Logline
