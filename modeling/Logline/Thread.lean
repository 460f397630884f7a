/-! # Threads and their diagnostic contexts

A **diagnostic context** holds texts by key, in increasing order of the keys. Every thread has one
of its own, empty at first.

* `Thread.label` — what a thread is called
* `Context` — `insert`, `erase`
* `Diagnostics` — the contexts of all threads
-/

namespace Logline

/-- A thread. -/
structure Thread where
  /-- What tells threads apart. -/
  number : Nat
  /-- The name, where the thread was given one. -/
  name : Option String
  deriving DecidableEq, Repr

/-- What a thread is called: its name, or its number where it was given none. -/
def Thread.label (t : Thread) : String :=
  t.name.getD ("ThreadId(" ++ toString t.number ++ ")")

/-- Texts by key, in increasing order of the keys. -/
abbrev Context := List (String × String)

namespace Context

/-- Puts a text under a key, in place of one that is there. -/
def insert (key value : String) : Context → Context
  | [] => [(key, value)]
  | (k, v) :: rest =>
    if key < k then (key, value) :: (k, v) :: rest
    else if key = k then (key, value) :: rest
    else (k, v) :: insert key value rest

/-- Takes a key away. -/
def erase (key : String) (c : Context) : Context := c.filter fun e => e.1 != key

end Context

/-- The diagnostic contexts of all threads, by number. -/
abbrev Diagnostics := Nat → Context

namespace Diagnostics

/-- No thread has anything in its context. -/
def empty : Diagnostics := fun _ => []

/-- Changes the context of one thread. -/
def update (d : Diagnostics) (t : Thread) (f : Context → Context) : Diagnostics :=
  fun n => if n = t.number then f (d n) else d n

/-- The thread that is spoken of has the changed context. -/
@[simp] theorem update_same (d : Diagnostics) (t : Thread) (f : Context → Context) :
    d.update t f t.number = f (d t.number) := by simp [update]

/-- The other threads keep their contexts. -/
@[simp] theorem update_of_ne (d : Diagnostics) {t : Thread} (f : Context → Context) {n : Nat}
    (h : n ≠ t.number) : d.update t f n = d n := by simp [update, h]

end Diagnostics

end Logline
