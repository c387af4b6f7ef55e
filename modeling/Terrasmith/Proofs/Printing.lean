import Terrasmith.Proofs.Merge

/-!
Texts of trees with one structure changed. The text around it stays, so that the whole reads as before exactly if
the structure does.
-/
namespace Terrasmith.Source

theorem set_of_split {α : Type} {xs : List α} {i : Nat} {x : α} (h : xs[i]? = some x) :
    ∃ before after, xs = before ++ x :: after ∧ (∀ y, xs.set i y = before ++ y :: after) ∧
      xs.eraseIdx i = before ++ after := by
  obtain ⟨hlt, rfl⟩ := List.getElem?_eq_some_iff.mp h
  refine ⟨xs.take i, xs.drop (i + 1), ?_, fun y => ?_, ?_⟩
  · rw [List.getElem_cons_drop, List.take_append_drop]
  · rw [List.set_eq_take_append_cons_drop, if_pos hlt]
  · rw [List.eraseIdx_eq_take_drop_succ]

/-- What is collected from a list around one of its elements. -/
theorem flatMap_around {α β : Type} (f : α → List β) {xs : List α} {i : Nat} {x : α} (h : xs[i]? = some x) :
    xs.flatMap f = (xs.take i).flatMap f ++ f x ++ (xs.drop (i + 1)).flatMap f ∧
      (∀ y, (xs.set i y).flatMap f = (xs.take i).flatMap f ++ f y ++ (xs.drop (i + 1)).flatMap f) ∧
      (xs.eraseIdx i).flatMap f = (xs.take i).flatMap f ++ (xs.drop (i + 1)).flatMap f := by
  obtain ⟨hlt, rfl⟩ := List.getElem?_eq_some_iff.mp h
  have hsplit : xs = xs.take i ++ xs[i] :: xs.drop (i + 1) := by
    rw [List.getElem_cons_drop, List.take_append_drop]
  refine ⟨?_, fun y => ?_, ?_⟩
  · conv_lhs => rw [hsplit]
    simp only [List.flatMap_append, List.flatMap_cons, List.append_assoc]
  · rw [List.set_eq_take_append_cons_drop, if_pos hlt]
    simp
  · rw [List.eraseIdx_eq_take_drop_succ, List.flatMap_append]

theorem renderLines_append (first second : List Structure) :
    renderLines (first ++ second) = renderLines first ++ renderLines second := by
  induction first with
  | nil => simp [renderLines]
  | cons s rest ih => simp [renderLines, ih, String.append_assoc]

theorem renderInline_append (first second : List Structure) :
    renderInline (first ++ second) = renderInline first ++ renderInline second := by
  induction first with
  | nil => simp [renderInline]
  | cons s rest ih => simp [renderInline, ih, String.append_assoc]

theorem renderOpenEnd_append (first : List Structure) (x : Structure) (second : List Structure) :
    renderOpenEnd (first ++ x :: second) =
      renderLines first ++ x.render ++ if second = [] then "" else "\n" ++ renderOpenEnd second := by
  induction first with
  | nil =>
    cases second with
    | nil => simp [renderOpenEnd, renderLines]
    | cons y rest => simp [renderOpenEnd, renderLines, String.append_assoc]
  | cons s rest ih =>
    have hne : rest ++ x :: second ≠ [] := by simp
    obtain ⟨t, more, hmore⟩ := List.exists_cons_of_ne_nil hne
    rw [List.cons_append, hmore, renderOpenEnd, ← hmore, ih, renderLines]
    · simp only [String.append_assoc]
    · simp

/-- The text of a file around one of its structures. -/
theorem Body.render_set {b : Body} {i : Nat} {x : Structure} (h : b.structures[i]? = some x) :
    ∃ before after, b.render = before ++ x.render ++ after ∧
      ∀ y, Body.render { b with structures := b.structures.set i y } = before ++ y.render ++ after := by
  obtain ⟨first, second, hsplit, hset, -⟩ := set_of_split h
  unfold render
  cases b.openEnd with
  | true =>
    refine ⟨renderLines first, (if second = [] then "" else "\n" ++ renderOpenEnd second) ++ b.tail, ?_, ?_⟩
    · rw [if_pos rfl, hsplit, renderOpenEnd_append]
      simp only [String.append_assoc]
    · intro y
      simp only [if_true, hset, renderOpenEnd_append, String.append_assoc]
  | false =>
    refine ⟨renderLines first, "\n" ++ renderLines second ++ b.tail, ?_, ?_⟩
    · rw [if_neg (by simp), hsplit, renderLines_append, renderLines]
      simp only [String.append_assoc]
    · intro y
      simp only [Bool.false_eq_true, if_false, hset, renderLines_append, renderLines, String.append_assoc]

theorem fitsOneLine_set {structures : List Structure} {j : Nat} {old : Attribute}
    (h : structures[j]? = some (.attribute old)) (new : Attribute) :
    fitsOneLine (structures.set j (.attribute new)) = fitsOneLine structures := by
  cases structures with
  | nil => simp at h
  | cons x rest =>
    cases j with
    | zero =>
      obtain rfl : x = .attribute old := by simpa using h
      cases rest <;> rfl
    | succ j =>
      cases rest with
      | nil => simp at h
      | cons y more =>
        cases j with
        | zero => cases x <;> rfl
        | succ j => cases x <;> rfl

/-- The text of a block around one of its attributes. -/
theorem Block.render_set {e : Block} {j : Nat} {old : Attribute} (h : e.body.structures[j]? = some (.attribute old)) :
    ∃ before after, e.render = before ++ old.render ++ after ∧
      ∀ new, Block.render { e with body := { e.body with
        structures := e.body.structures.set j (.attribute new) } } = before ++ new.render ++ after := by
  obtain ⟨first, second, hsplit, hset, -⟩ := set_of_split h
  have hfits := fitsOneLine_set h
  rcases e with ⟨lead, ident, identTrail, labels, ⟨structures, head, tail, oneLine, openEnd⟩, trail, span?⟩
  dsimp only at hsplit hset hfits
  let opening := lead ++ ident ++ identTrail ++ String.join (labels.map Label.render) ++ "\x7b"
  by_cases hline : (oneLine && fitsOneLine structures) = true
  · refine ⟨opening ++ renderInline first, renderInline second ++ tail ++ "\x7d" ++ trail, ?_, ?_⟩
    · rw [Block.render, Structure.render, Body.renderInside, if_pos hline, hsplit, renderInline_append,
        renderInline, Structure.render]
      simp only [opening, String.append_assoc]
    · intro new
      rw [Block.render, Structure.render, Body.renderInside, hfits, if_pos hline, hset, renderInline_append,
        renderInline, Structure.render]
      simp only [opening, String.append_assoc]
  · refine ⟨opening ++ head ++ "\n" ++ renderLines first, "\n" ++ renderLines second ++ tail ++ "\x7d" ++ trail, ?_, ?_⟩
    · rw [Block.render, Structure.render, Body.renderInside, if_neg hline, hsplit, renderLines_append,
        renderLines, Structure.render]
      simp only [opening, String.append_assoc]
    · intro new
      rw [Block.render, Structure.render, Body.renderInside, hfits, if_neg hline, hset, renderLines_append,
        renderLines, Structure.render]
      simp only [opening, String.append_assoc]

/-- A file reads as before exactly if the block that was changed does. -/
theorem Body.render_set_block_iff {b : Body} {i : Nat} {old : Block} (h : b.structures[i]? = some (.block old))
    (new : Block) :
    Body.render { b with structures := b.structures.set i (.block new) } = b.render ↔ new.text = old.text := by
  obtain ⟨before, after, hold, hset⟩ := render_set h
  rw [hold, hset, String.append_left_inj, String.append_right_inj, Block.text, Block.text, String.append_left_inj]
  rfl

/-- A block reads as before exactly if the attribute that was changed in it does. -/
theorem Block.text_set_attribute_iff {e : Block} {j : Nat} {old : Attribute}
    (h : e.body.structures[j]? = some (.attribute old)) (new : Attribute) :
    Block.text { e with body := { e.body with structures := e.body.structures.set j (.attribute new) } } = e.text ↔
      new.render = old.render := by
  obtain ⟨before, after, hold, hset⟩ := render_set h
  rw [Block.text, Block.text, String.append_left_inj, hold, hset, String.append_left_inj, String.append_right_inj]

/-- The text of a value with what stands between it and the sign. -/
def Attribute.valueText (a : Attribute) : String := a.valueLead ++ a.value.text

/-- An attribute that only gets another value reads as before exactly if its value does. -/
theorem Attribute.render_withValue_iff (a : Attribute) (v : Expression) :
    (a.withValue v).render = a.render ↔ (a.withValue v).valueText = a.valueText := by
  simp only [render, core, valueText, withValue, String.append_left_inj]
  simp only [String.append_assoc, String.append_right_inj]

end Terrasmith.Source
