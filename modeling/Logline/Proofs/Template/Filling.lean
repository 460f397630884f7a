import Logline.Message
import Logline.Proofs.Rendering.Attempts

/-! # Filling templates

The pieces of a template are appended with the arguments rendered one after the other, a slot each.
That comes to the same as rendering the arguments first and putting their texts in afterwards: what
is written before a value does not enter its text.

* `Template.assemble` — pieces with texts in their slots
* `Template.fill_eq_assemble` — a template is filled with the texts of its arguments -/

namespace Logline.Template

/-- Pieces with texts in their slots; slots without a text are left out. -/
def assemble : List Piece → List String → List Char
  | [], _ => []
  | .literal s :: ps, ts => s ++ assemble ps ts
  | .slot :: ps, t :: ts => t.toList ++ assemble ps ts
  | .slot :: ps, [] => assemble ps []

/-- Pieces append the texts of as many arguments as they have slots. -/
theorem appendPieces_eq_extend (h : Heap) {r : Rendering} (closed : r.opened = [])
    (ps : List Piece) (vs : List Value) :
    appendPieces h r ps vs =
      r.extend (String.ofList (assemble ps
          (Value.renderAll h r.attempts (vs.take (ps.count .slot))).1),
        (Value.renderAll h r.attempts (vs.take (ps.count .slot))).2) := by
  induction ps generalizing r vs with
  | nil => simp [appendPieces, assemble, Value.renderAll, inTurn, Rendering.extend]
  | cons p ps ih =>
    cases p with
    | literal s =>
      have same : (Piece.literal s :: ps).count .slot = ps.count .slot := by simp
      rw [appendPieces, ih (r := r.put (String.ofList s)) closed, same, assemble,
        Rendering.put_eq_extend, Rendering.extend_extend, ← String.ofList_append]
      rfl
    | slot =>
      cases vs with
      -- a slot that no argument is left for
      | nil =>
        rw [appendPieces, ih closed, List.take_nil, List.take_nil]
        rfl
      | cons v vs =>
        have more : (Piece.slot :: ps).count .slot = ps.count .slot + 1 := by simp
        have closed' : (r.extend (v.render h r.attempts)).opened = [] := closed
        rw [appendPieces, Rendering.append_of_closed h closed, ih closed', more,
          List.take_succ_cons, Value.renderAll_cons, assemble, Rendering.extend_extend,
          Rendering.extend_attempts, String.ofList_append, String.ofList_toList]

/-- A template is filled with the texts of the arguments that its pieces have slots for. -/
theorem fill_eq_assemble (h : Heap) (attempts : List Attempt) (t : String) (args : List Value) :
    fill h attempts t args =
      (String.ofList (assemble (pieces args.length t)
          (Value.renderAll h attempts (args.take ((pieces args.length t).count .slot))).1),
        (Value.renderAll h attempts (args.take ((pieces args.length t).count .slot))).2) := by
  rw [fill, appendPieces_eq_extend h rfl]
  simp [Rendering.extend]

end Logline.Template
