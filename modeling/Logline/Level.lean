import Logline.Text.Blank
import Logline.Text.Quoted
import Logline.Error

/-! # Severity levels

The five levels of a record, the most severe first.

* `Level.index`, `Level.all` — their order
* `Level.parse` — a level from its name, in any ASCII case and with blanks around it
* `Level.sort` — levels in order
* `Level.Map` — a value for every level
-/

namespace Logline

/-- How severe a record is. -/
inductive Level where
  | error
  | warn
  | info
  | debug
  | trace
  deriving DecidableEq, Repr

namespace Level

/-- The levels, the most severe first. -/
def all : List Level := [.error, .warn, .info, .debug, .trace]

/-- The place of a level in `all`. -/
def index : Level → Nat
  | .error => 0
  | .warn => 1
  | .info => 2
  | .debug => 3
  | .trace => 4

/-- The name of a level in upper case. -/
def name : Level → String
  | .error => "ERROR"
  | .warn => "WARN"
  | .info => "INFO"
  | .debug => "DEBUG"
  | .trace => "TRACE"

/-- A level from its name: blanks around it and ASCII case do not matter. -/
def parse (s : String) : Except Error Level :=
  let word := String.ofList ((Text.trim s.toList).map Char.toUpper)
  match all.find? (·.name == word) with
  | some l => .ok l
  | none => .error (Error.malformed "level" s)

/-- Exactly the names of a level in any case, with blanks around them, are read as the level. -/
theorem parse_eq_ok_iff {s : String} {l : Level} :
    parse s = .ok l ↔ String.ofList ((Text.trim s.toList).map Char.toUpper) = l.name := by
  simp only [parse]
  generalize String.ofList ((Text.trim s.toList).map Char.toUpper) = word
  constructor
  · intro read
    split at read
    · rename_i m found
      cases read
      have named : (l.name == word) = true :=
        List.find?_some (p := fun k : Level => k.name == word) found
      exact (beq_iff_eq.1 named).symm
    · cases read
  · rintro rfl
    cases l <;> rfl

/-- The levels of a list, the most severe first. -/
def sort (ls : List Level) : List Level := ls.mergeSort fun l m => l.index ≤ m.index

/-- Sorting loses no level and adds none. -/
theorem sort_perm (ls : List Level) : (sort ls).Perm ls := List.mergeSort_perm ls _

/-- Sorted levels do not become more severe. -/
theorem pairwise_sort (ls : List Level) :
    (sort ls).Pairwise fun l m => l.index ≤ m.index := by
  have sorted : (sort ls).Pairwise fun l m => decide (l.index ≤ m.index) = true := by
    refine List.pairwise_mergeSort (fun a b c => ?_) (fun a b => ?_) ls
    · simpa only [decide_eq_true_eq] using Nat.le_trans
    · simpa only [Bool.or_eq_true, decide_eq_true_eq] using Nat.le_total a.index b.index
  simpa only [decide_eq_true_eq] using sorted

/-- A value for every level. -/
abbrev Map (α : Type) := Level → α

/-- Gives one level another value. -/
def Map.set {α : Type} (f : Map α) (l : Level) (a : α) : Map α := fun m => if m = l then a else f m

/-- The level that was given another value has it. -/
@[simp] theorem Map.set_same {α : Type} (f : Map α) (l : Level) (a : α) : f.set l a l = a := by
  simp [Map.set]

/-- The other levels have the values that they had. -/
@[simp] theorem Map.set_of_ne {α : Type} (f : Map α) {l m : Level} (a : α) (h : m ≠ l) :
    f.set l a m = f m := by simp [Map.set, h]

end Level

end Logline
