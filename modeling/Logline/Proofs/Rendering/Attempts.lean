import Logline.Proofs.Rendering.Unfolding

/-! # Attempts of a rendering

What a value asks of its conversions and suppliers is the same whenever it is rendered, and it is
noted behind what was asked before. The text of a value depends on earlier attempts only through the
counters: where these have been asked equally often, the text is the same.

* `Steady` — what is made asks the same every time, and depends on counters only
* `Value.render_steady` — values are rendered steadily
* `Value.renderAll` — values rendered one after the other
* `Value.renderAll_congr` — values behind attempts that are alike -/

namespace Logline

/-- Attempts are **alike** if they have asked every counter equally often. -/
def Attempt.Alike (as bs : List Attempt) : Prop :=
  ∀ name, as.countP (Attempt.asks name) = bs.countP (Attempt.asks name)

/-- The same attempts behind attempts that are alike leave them alike. -/
theorem Attempt.Alike.append {as bs : List Attempt} (alike : Alike as bs) (more : List Attempt) :
    Alike (as ++ more) (bs ++ more) := by
  intro name
  rw [List.countP_append, List.countP_append, alike name]

/-! ## Steady texts -/

/-- Something is made **steadily** if it asks the same after all earlier attempts, and is the same
after attempts that are alike. -/
def Steady {α : Type} (make : List Attempt → α × List Attempt) : Prop :=
  ∃ asked, ∀ as, (make as).2 = as ++ asked ∧
    ∀ bs, Attempt.Alike as bs → (make as).1 = (make bs).1

/-- Something that asks nothing is made steadily. -/
theorem steady_const {α : Type} (x : α) : Steady fun as => (x, as) :=
  ⟨[], fun as => ⟨(List.append_nil as).symm, fun _ _ => rfl⟩⟩

/-- What is asked first does not disturb what is made steadily after it. -/
theorem Steady.after {α : Type} {make : List Attempt → α × List Attempt} (steady : Steady make)
    (a : Attempt) : Steady fun as => make (as ++ [a]) := by
  obtain ⟨asked, steady⟩ := steady
  refine ⟨a :: asked, fun as => ⟨?_, fun bs alike => ?_⟩⟩
  · rw [(steady _).1, List.append_assoc, List.singleton_append]
  · exact (steady _).2 _ (alike.append [a])

/-- What is made of something steady is steady. -/
theorem Steady.map {α β : Type} {make : List Attempt → α × List Attempt} (steady : Steady make)
    (f : α → β) : Steady fun as => (f (make as).1, (make as).2) := by
  obtain ⟨asked, steady⟩ := steady
  exact ⟨asked, fun as => ⟨(steady as).1, fun bs alike => congrArg f ((steady as).2 bs alike)⟩⟩

/-- Texts that are steady one by one are steady in turn. -/
theorem inTurn_steady {α : Type} {text : List Attempt → α → String × List Attempt} {xs : List α}
    (each : ∀ x ∈ xs, Steady fun as => text as x) : Steady fun as => inTurn text as xs := by
  induction xs with
  | nil => exact steady_const []
  | cons x xs ih =>
    obtain ⟨asked, first⟩ := each x List.mem_cons_self
    obtain ⟨asked', others⟩ := ih fun y mem => each y (List.mem_cons_of_mem x mem)
    dsimp only at first others
    refine ⟨asked ++ asked', fun as => ⟨?_, fun bs alike => ?_⟩⟩
    · simp only [inTurn, (others _).1, (first as).1, List.append_assoc]
    · have alike' : Attempt.Alike (text as x).2 (text bs x).2 := by
        rw [(first as).1, (first bs).1]
        exact alike.append asked
      simp only [inTurn, (first as).2 bs alike, (others _).2 _ alike']

namespace Value

/-- A value that is no array and supplies no value is rendered steadily. -/
theorem render_leaf_steady (h : Heap) {v : Value} (not_deferred : ∀ w, v = .deferred w → False)
    (not_array : ∀ id, v = .array id → False) : Steady fun as => v.render h as := by
  cases v with
  | deferred w => exact (not_deferred w rfl).elim
  | array id => exact (not_array id rfl).elim
  | display c =>
    exact ⟨[.conversion c], fun as => by
      simp [render, Rendering.append, appendTo, Rendering.note, Rendering.put]⟩
  | refused r =>
    exact ⟨[.refused r], fun as => by
      simp [render, Rendering.append, appendTo, Rendering.note, Rendering.put]⟩
  | counter name =>
    refine ⟨[.counted name], fun as => ⟨?_, fun bs alike => ?_⟩⟩
    · simp [render, Rendering.append, appendTo, Rendering.note, Rendering.put]
    · simp [render, Rendering.append, appendTo, Rendering.note, Rendering.put, Rendering.asked,
        alike name]
  | _ => exact ⟨[], fun as => by simp [render, Rendering.append, appendTo, Rendering.put]⟩

/-- Unfoldings are written steadily. -/
theorem write_unfold_steady (h : Heap) (path : List ArrayId) (v : Value) :
    Steady fun as => (v.unfold h path).write h as := by
  induction path, v using Value.unfold.induct h with
  | case1 path v ih =>
    simp only [unfold, Unfolding.write]
    exact ih.after .supplied
  | case2 path id on_path =>
    simp only [unfold_array_of_mem on_path, Unfolding.write]
    exact steady_const "[...]"
  | case3 path id fresh ih =>
    simp only [unfold_array_of_not_mem fresh, Unfolding.write, Unfolding.writeAll_eq_inTurn,
      inTurn_map]
    exact (inTurn_steady ih).map bracketed
  | case4 path v not_deferred not_array =>
    simp only [unfold_leaf h path not_deferred not_array, Unfolding.write]
    exact render_leaf_steady h not_deferred not_array

/-- **Values are rendered steadily.** -/
theorem render_steady (h : Heap) (v : Value) : Steady fun as => v.render h as := by
  simp only [render_eq_write]
  exact write_unfold_steady h [] v

/-! ## Values in turn -/

/-- The texts of values that are rendered one after the other, and the attempts after them. -/
def renderAll (h : Heap) (attempts : List Attempt) (vs : List Value) :
    List String × List Attempt :=
  inTurn (Value.render h) attempts vs

variable {h : Heap} {attempts : List Attempt}

/-- Values are rendered from left to right, each after the attempts of those before it. -/
theorem renderAll_cons (v : Value) (vs : List Value) :
    renderAll h attempts (v :: vs)
      = ((v.render h attempts).1 :: (renderAll h (v.render h attempts).2 vs).1,
        (renderAll h (v.render h attempts).2 vs).2) := rfl

/-- Two lists of values are rendered one after the other. -/
theorem renderAll_append (vs ws : List Value) :
    renderAll h attempts (vs ++ ws)
      = ((renderAll h attempts vs).1 ++ (renderAll h (renderAll h attempts vs).2 ws).1,
        (renderAll h (renderAll h attempts vs).2 ws).2) := by
  induction vs generalizing attempts with
  | nil => rfl
  | cons v vs ih => simp only [List.cons_append, renderAll_cons, ih]

/-- Each value has its text. -/
@[simp] theorem length_renderAll (vs : List Value) :
    (renderAll h attempts vs).1.length = vs.length := by
  induction vs generalizing attempts with
  | nil => rfl
  | cons v vs ih => simp [renderAll_cons, ih]

/-- What is rendered after attempts that are alike comes out the same. -/
theorem renderAll_congr {as bs : List Attempt} (alike : Attempt.Alike as bs) (vs : List Value) :
    (renderAll h as vs).1 = (renderAll h bs vs).1 := by
  obtain ⟨asked, steady⟩ := inTurn_steady fun v (_ : v ∈ vs) => v.render_steady h
  exact (steady as).2 bs alike

end Value

end Logline
