import Mathlib.Data.List.Lookmap
import Terrasmith.Proofs.Renaming
import Terrasmith.Transform.Basic

/-!
Removing nested blocks by paths. A path goes through the first block of each type, and what is removed at its end does
not change which blocks other paths go through, but for those that are removed as a whole. So neither the order nor the
repetition of paths matters.
-/
namespace Terrasmith

open Source

/-! Changes of the first element that matches -/

section Lookmap

variable {α : Type} {f g : α → Option α} {p : α → Bool}

/-- Two changes of first elements commute if they commute at each element and neither changes what matches the other
one. -/
theorem lookmap_comm (hfg : ∀ a b, f a = some b → (g a).isSome = (g b).isSome)
    (hgf : ∀ a b, g a = some b → (f a).isSome = (f b).isSome)
    (hboth : ∀ a b c, f a = some b → g a = some c → g b = f c) (items : List α) :
    (items.lookmap f).lookmap g = (items.lookmap g).lookmap f := by
  induction items with
  | nil => rfl
  | cons a rest ih =>
    cases hf : f a with
    | none =>
      cases hg : g a with
      | none => rw [List.lookmap_cons_none _ _ hf, List.lookmap_cons_none _ _ hg, List.lookmap_cons_none _ _ hg,
          List.lookmap_cons_none _ _ hf, ih]
      | some c =>
        have hc : f c = none := by simpa [hf] using (hgf a c hg).symm
        rw [List.lookmap_cons_none _ _ hf, List.lookmap_cons_some _ _ hg, List.lookmap_cons_some _ _ hg,
          List.lookmap_cons_none _ _ hc]
    | some b =>
      cases hg : g a with
      | none =>
        have hb : g b = none := by simpa [hg] using (hfg a b hf).symm
        rw [List.lookmap_cons_some _ _ hf, List.lookmap_cons_none _ _ hg, List.lookmap_cons_none _ _ hb,
          List.lookmap_cons_some _ _ hf]
      | some c =>
        obtain ⟨d, hd⟩ : ∃ d, g b = some d := by
          have hsome := hfg a b hf
          rw [hg] at hsome
          exact Option.isSome_iff_exists.mp hsome.symm
        rw [List.lookmap_cons_some _ _ hf, List.lookmap_cons_some _ _ hg, List.lookmap_cons_some _ _ hd,
          List.lookmap_cons_some _ _ ((hboth a b c hf hg).symm.trans hd)]

theorem lookmap_idem (h : ∀ a b, f a = some b → f b = some b) (items : List α) :
    (items.lookmap f).lookmap f = items.lookmap f := by
  induction items with
  | nil => rfl
  | cons a rest ih =>
    cases hf : f a with
    | none => rw [List.lookmap_cons_none _ _ hf, List.lookmap_cons_none _ _ hf, ih]
    | some b => rw [List.lookmap_cons_some _ _ hf, List.lookmap_cons_some _ _ (h a b hf)]

/-- A filter that keeps what is changed. -/
theorem filter_lookmap_of_keeps (h : ∀ a b, f a = some b → p a = true ∧ p b = true) (items : List α) :
    (items.lookmap f).filter p = (items.filter p).lookmap f := by
  induction items with
  | nil => rfl
  | cons a rest ih =>
    cases hf : f a with
    | none =>
      rw [List.lookmap_cons_none _ _ hf, List.filter_cons, List.filter_cons, ih]
      split
      · rw [List.lookmap_cons_none _ _ hf]
      · rfl
    | some b =>
      obtain ⟨ha, hb⟩ := h a b hf
      rw [List.lookmap_cons_some _ _ hf, List.filter_cons_of_pos hb, List.filter_cons_of_pos ha,
        List.lookmap_cons_some _ _ hf]

/-- A filter that drops what is changed. -/
theorem filter_lookmap_of_drops (h : ∀ a b, f a = some b → p a = false ∧ p b = false) (items : List α) :
    (items.lookmap f).filter p = items.filter p := by
  induction items with
  | nil => rfl
  | cons a rest ih =>
    cases hf : f a with
    | none => rw [List.lookmap_cons_none _ _ hf, List.filter_cons, List.filter_cons, ih]
    | some b =>
      obtain ⟨ha, hb⟩ := h a b hf
      rw [List.lookmap_cons_some _ _ hf, List.filter_cons_of_neg (Bool.eq_false_iff.mp hb),
        List.filter_cons_of_neg (Bool.eq_false_iff.mp ha)]

theorem lookmap_filter_of_drops (h : ∀ a b, f a = some b → p a = false) (items : List α) :
    (items.filter p).lookmap f = items.filter p := by
  refine List.lookmap_of_forall_not _ fun a ha => Option.eq_none_iff_forall_ne_some.mpr fun b hf => ?_
  exact Bool.false_ne_true ((h a b hf).symm.trans (List.mem_filter.mp ha).2)

theorem lookmap_of_first {before after : List α} {a b : α} (hbefore : ∀ x ∈ before, f x = none) (ha : f a = some b) :
    (before ++ a :: after).lookmap f = before ++ b :: after := by
  induction before with
  | nil => exact List.lookmap_cons_some _ _ ha
  | cons x rest ih =>
    obtain ⟨hx, hrest⟩ := List.forall_mem_cons.mp hbefore
    rw [List.cons_append, List.lookmap_cons_none _ _ hx, ih hrest, List.cons_append]

end Lookmap

/-! Into the first block of a type -/

variable {type : String} {f g : Body → Body}

/-- A block of a type with another content. -/
def enter (type : String) (f : Body → Body) (x : Structure) : Option Structure :=
  if x.isBlockOf type then some (through type f x) else none

theorem enter_eq_some {x y : Structure} (h : enter type f x = some y) :
    x.isBlockOf type = true ∧ y = through type f x := by
  unfold enter at h
  split at h
  · exact ⟨‹_›, (Option.some.inj h).symm⟩
  · cases h

theorem isSome_enter (type : String) (f : Body → Body) (x : Structure) :
    (enter type f x).isSome = x.isBlockOf type := by
  unfold enter
  split
  · exact ‹x.isBlockOf type = true›.symm
  · exact (Bool.eq_false_iff.mpr ‹_›).symm

/-- A block has a single type. -/
theorem isBlockOf_unique {other : String} {x : Structure} (h : x.isBlockOf type = true)
    (h' : x.isBlockOf other = true) : other = type := by
  rcases x with a | e
  · cases h
  · exact (of_decide_eq_true h').symm.trans (of_decide_eq_true h)

theorem isBlockOf_through (other type : String) (f : Body → Body) (x : Structure) :
    (through type f x).isBlockOf other = x.isBlockOf other := by
  obtain ⟨e, c, rfl, -, -, heq⟩ | ⟨-, heq⟩ := through_cases type f x
  · rw [heq]
    simp [Structure.isBlockOf]
  · rw [heq]

/-- Two changes of the content of a block are one change. -/
theorem through_through (type : String) (f g : Body → Body) (x : Structure) :
    through type f (through type g x) = through type (f ∘ g) x := by
  obtain ⟨e, c, rfl, htype, hcontent, heq⟩ | ⟨hpassed, heq⟩ := through_cases type g x
  · rw [heq, through, through, Block.putContent_logicalType, if_pos htype, if_pos htype, Block.modifyContent?_eq,
      Block.modifyContent?_eq, Block.content?_putContent hcontent, hcontent]
    simp [Block.putContent_putContent hcontent]
  · have hself (f : Body → Body) : through type f x = x := by
      obtain ⟨e, c, rfl, htype, hcontent, -⟩ | ⟨-, heq⟩ := through_cases type f x
      · cases (hpassed e rfl htype).symm.trans hcontent
      · exact heq
    rw [heq, hself, hself]

/-- A block of another type is not touched. -/
theorem enter_comm {other : String} (hother : other = type → f ∘ g = g ∘ f) (items : List Structure) :
    (items.lookmap (enter type f)).lookmap (enter other g) =
      (items.lookmap (enter other g)).lookmap (enter type f) := by
  refine lookmap_comm (fun x y h => ?_) (fun x y h => ?_) (fun x y z hy hz => ?_) items
  · rw [isSome_enter, isSome_enter, (enter_eq_some h).2, isBlockOf_through]
  · rw [isSome_enter, isSome_enter, (enter_eq_some h).2, isBlockOf_through]
  · obtain ⟨htype, rfl⟩ := enter_eq_some hy
    obtain ⟨htype', rfl⟩ := enter_eq_some hz
    obtain rfl := isBlockOf_unique htype htype'
    rw [enter, enter, isBlockOf_through, isBlockOf_through, if_pos htype, if_pos htype, through_through,
      through_through, hother rfl]

theorem enter_idem (hf : f ∘ f = f) (items : List Structure) :
    (items.lookmap (enter type f)).lookmap (enter type f) = items.lookmap (enter type f) := by
  refine lookmap_idem (fun x y h => ?_) items
  obtain ⟨htype, rfl⟩ := enter_eq_some h
  rw [enter, isBlockOf_through, if_pos htype, through_through, hf]

/-- Removing the blocks of a type commutes with a change of the first block of some type. -/
theorem enter_filter (other : String) (items : List Structure) :
    (items.lookmap (enter type f)).filter (fun x => !x.isBlockOf other) =
      (items.filter fun x => !x.isBlockOf other).lookmap (enter type f) := by
  by_cases hother : other = type
  · subst hother
    have hdrops (x y : Structure) (h : enter other f x = some y) :
        (!x.isBlockOf other) = false ∧ (!y.isBlockOf other) = false := by
      obtain ⟨htype, rfl⟩ := enter_eq_some h
      rw [isBlockOf_through, htype]
      exact ⟨rfl, rfl⟩
    rw [filter_lookmap_of_drops hdrops, lookmap_filter_of_drops fun x y h => (hdrops x y h).1]
  · refine filter_lookmap_of_keeps (fun x y h => ?_) items
    obtain ⟨htype, rfl⟩ := enter_eq_some h
    have hkept : x.isBlockOf other = false := Bool.eq_false_iff.mpr fun h => hother (isBlockOf_unique htype h)
    rw [isBlockOf_through, hkept]
    exact ⟨rfl, rfl⟩

theorem head?_blockIndices (b : Body) (type : String) :
    (b.blockIndices type).head? = b.structures.findIdx? (Structure.isBlockOf type) := by
  have hzip : ∀ (structures : List Structure) (n : Nat),
      (((structures.zipIdx n).filter fun p => p.1.isBlockOf type).map (·.2)).head? =
        (structures.findIdx? (Structure.isBlockOf type)).map (· + n) := by
    intro structures
    induction structures with
    | nil => exact fun n => rfl
    | cons s rest ih =>
      intro n
      cases hs : s.isBlockOf type with
      | true => simp [hs, List.findIdx?_cons]
      | false =>
        simp only [List.zipIdx_cons, List.filter_cons, hs, Bool.false_eq_true, if_false, ih, List.findIdx?_cons,
          Option.map_map]
        congr 1
        funext i
        simp only [Function.comp_apply]
        omega
  exact (hzip b.structures 0).trans (by simp)

/-- The first block of a type, if there is one. -/
theorem first_block_cases (type : String) (items : List Structure) :
    (∀ x ∈ items, x.isBlockOf type = false) ∨
      ∃ before e after, items = before ++ .block e :: after ∧ (∀ x ∈ before, x.isBlockOf type = false) ∧
        e.logicalType = type := by
  cases hfirst : items.find? (Structure.isBlockOf type) with
  | none => exact .inl fun x hx => by simpa using List.find?_eq_none.mp hfirst x hx
  | some x =>
    obtain ⟨htype, before, after, rfl, hbefore⟩ := List.find?_eq_some_iff_append.mp hfirst
    rcases x with a | e
    · cases htype
    · exact .inr ⟨before, e, after, rfl, fun x hx => by simpa using hbefore x hx, of_decide_eq_true htype⟩

/-- A path goes on in the first block of its first type. -/
theorem atPath_cons (f : String → Body → Body) (type : String) {rest : List String} (h : rest ≠ []) (b : Body) :
    atPath f (type :: rest) b = { b with structures := b.structures.lookmap (enter type (atPath f rest)) } := by
  have hpath : atPath f (type :: rest) b =
      ((b.blockIndices type).head?.bind fun i => b.modifyBlockAt? i (·.modifyContent? (atPath f rest))).getD b := by
    obtain ⟨next, more, rfl⟩ := List.exists_cons_of_ne_nil h
    rw [atPath]
    · cases b.blockIndices type <;> rfl
    · exact List.cons_ne_nil next more
  rw [hpath, head?_blockIndices]
  rcases first_block_cases type b.structures with hnone | ⟨before, e, after, hsplit, hbefore, htype⟩
  · have hnot : b.structures.lookmap (enter type (atPath f rest)) = b.structures :=
      List.lookmap_of_forall_not _ fun x hx => by simp [enter, hnone x hx]
    rw [List.findIdx?_eq_none_iff.mpr hnone, hnot, Option.bind_none, Option.getD_none, Body.mk_self]
  · have hindex : b.structures.findIdx? (Structure.isBlockOf type) = some before.length := by
      exact findIdx?_eq_some_iff_append.mpr ⟨before, _, after, hsplit, rfl, hbefore, decide_eq_true htype⟩
    have henter : enter type (atPath f rest) (.block e) =
        some (.block ((e.modifyContent? (atPath f rest)).getD e)) := by
      simp [enter, through, Structure.isBlockOf, htype]
    rw [hindex, hsplit, lookmap_of_first (fun x hx => by simp [enter, hbefore x hx]) henter, Option.bind_some]
    cases hcontent : e.modifyContent? (atPath f rest) with
    | none =>
      rw [Option.getD_none, ← hsplit, Body.mk_self]
      simp [Body.modifyBlockAt?, hsplit, hcontent]
    | some e' => simp [Body.modifyBlockAt?, hsplit, hcontent]

/-! Removing by paths -/

/-- A body without the blocks that a path leads to. -/
def prune (path : List String) (b : Body) : Body := atPath removeNestedBlocks path b

theorem prune_nil (b : Body) : prune [] b = b := rfl

theorem prune_single (type : String) (b : Body) :
    prune [type] b = { b with structures := b.structures.filter fun x => !x.isBlockOf type } := rfl

theorem prune_cons (type : String) {rest : List String} (h : rest ≠ []) (b : Body) :
    prune (type :: rest) b = { b with structures := b.structures.lookmap (enter type (prune rest)) } :=
  atPath_cons removeNestedBlocks type h b

theorem prune_single_prune (other : String) (path : List String) (b : Body) :
    prune [other] (prune path b) = prune path (prune [other] b) := by
  cases path with
  | nil => rfl
  | cons type rest =>
    cases rest with
    | nil =>
      simp only [prune_single, List.filter_filter]
      congr 2
      funext x
      exact Bool.and_comm _ _
    | cons next more =>
      rw [prune_cons type (List.cons_ne_nil next more), prune_cons type (List.cons_ne_nil next more), prune_single,
        prune_single]
      exact congrArg (fun structures => { b with structures }) (enter_filter other b.structures)

/-- The order of two paths does not matter. -/
theorem prune_comm (path path' : List String) (b : Body) :
    prune path (prune path' b) = prune path' (prune path b) := by
  induction path generalizing path' b with
  | nil => rfl
  | cons type rest ih =>
    by_cases hrest : rest = []
    · subst hrest
      exact prune_single_prune type path' b
    · match path' with
      | [] => rfl
      | [other] => exact (prune_single_prune other (type :: rest) b).symm
      | other :: next :: more =>
        have hmore : next :: more ≠ [] := List.cons_ne_nil next more
        rw [prune_cons type hrest, prune_cons other hmore, prune_cons type hrest, prune_cons other hmore]
        have hcomm : prune rest ∘ prune (next :: more) = prune (next :: more) ∘ prune rest :=
          funext fun c => ih (next :: more) c
        exact congrArg (fun structures => { b with structures }) (enter_comm (fun _ => hcomm.symm) b.structures)

/-- A path that was gone leads to nothing more. -/
theorem prune_prune (path : List String) (b : Body) : prune path (prune path b) = prune path b := by
  induction path generalizing b with
  | nil => rfl
  | cons type rest ih =>
    cases rest with
    | nil => simp [prune_single, List.filter_filter]
    | cons next more =>
      have hrest : next :: more ≠ [] := List.cons_ne_nil next more
      rw [prune_cons type hrest, prune_cons type hrest]
      have hidem : prune (next :: more) ∘ prune (next :: more) = prune (next :: more) := funext ih
      exact congrArg (fun structures => { b with structures }) (enter_idem hidem b.structures)

/-- A body without the blocks that some paths lead to, taken one after the other. -/
def pruneAll (paths : List (List String)) (b : Body) : Body := paths.foldl (fun b path => prune path b) b

theorem prune_pruneAll (path : List String) (paths : List (List String)) (b : Body) :
    prune path (pruneAll paths b) = pruneAll paths (prune path b) := by
  induction paths generalizing b with
  | nil => rfl
  | cons first rest ih =>
    have hrest := ih (prune first b)
    rw [prune_comm] at hrest
    exact hrest

theorem pruneAll_comm (paths paths' : List (List String)) (b : Body) :
    pruneAll paths (pruneAll paths' b) = pruneAll paths' (pruneAll paths b) := by
  induction paths generalizing b with
  | nil => rfl
  | cons first rest ih =>
    have hrest := ih (prune first b)
    rw [← prune_pruneAll] at hrest
    exact hrest

/-- A path that was taken leads to nothing more. -/
theorem prune_pruneAll_of_mem {path : List String} {paths : List (List String)} (h : path ∈ paths) (b : Body) :
    prune path (pruneAll paths b) = pruneAll paths b := by
  induction paths generalizing b with
  | nil => cases h
  | cons first rest ih =>
    rcases List.mem_cons.mp h with rfl | h
    · rw [prune_pruneAll]
      exact congrArg (pruneAll rest) (prune_prune path b)
    · exact ih h (prune first b)

theorem pruneAll_pruneAll_of_subset {paths paths' : List (List String)} (h : ∀ path ∈ paths', path ≠ [] → path ∈ paths)
    (b : Body) : pruneAll paths' (pruneAll paths b) = pruneAll paths b := by
  induction paths' with
  | nil => rfl
  | cons first rest ih =>
    obtain ⟨hfirst, hrest⟩ := List.forall_mem_cons.mp h
    have htaken : prune first (pruneAll paths b) = pruneAll paths b := by
      by_cases hempty : first = []
      · rw [hempty, prune_nil]
      · exact prune_pruneAll_of_mem (hfirst hempty) b
    exact (congrArg (pruneAll rest) htaken).trans (ih hrest)

/-- Only which paths are taken matters. -/
theorem pruneAll_eq {paths paths' : List (List String)} (h : ∀ path, path ≠ [] → (path ∈ paths ↔ path ∈ paths'))
    (b : Body) : pruneAll paths b = pruneAll paths' b := by
  have hpaths : pruneAll paths' (pruneAll paths b) = pruneAll paths b :=
    pruneAll_pruneAll_of_subset (fun path hmem hempty => (h path hempty).mpr hmem) b
  have hpaths' : pruneAll paths (pruneAll paths' b) = pruneAll paths' b :=
    pruneAll_pruneAll_of_subset (fun path hmem hempty => (h path hempty).mp hmem) b
  rw [← hpaths, pruneAll_comm, hpaths']

namespace Source

/-- A block with other content: in its own body or, if it is dynamic, in that of the first block `content` in it. -/
inductive Block.Refilled (c d : Body) : Block → Block → Prop
  | own {e : Block} (hstatic : e.isDynamic = false) (hbody : e.body = c) : Refilled c d e { e with body := d }
  | inner {e child : Block} {before after : List Structure} (hdynamic : e.isDynamic = true)
      (hsplit : e.body.structures = before ++ .block child :: after)
      (hfirst : ∀ other, .block other ∈ before → other.ident ≠ "content") (hident : child.ident = "content")
      (hbody : child.body = c) : Refilled c d e
        { e with body := { e.body with structures := before ++ .block { child with body := d } :: after } }

/-- A body after the removal of what a path leads to. At the end of the path all nested blocks of the last type are
gone. Before, the path goes on in the first block of each type; if there is none, or a dynamic one without `content`,
nothing changes. -/
inductive Body.Pruned : List String → Body → Body → Prop
  | gone {type : String} {b : Body} :
      Pruned [type] b { b with structures := b.structures.filter fun x => !x.isBlockOf type }
  | within {type : String} {rest : List String} {b c d : Body} {before after : List Structure} {e e' : Block}
      (hrest : rest ≠ []) (hsplit : b.structures = before ++ .block e :: after)
      (hfirst : ∀ x ∈ before, x.isBlockOf type = false) (htype : e.logicalType = type) (hrefilled : e.Refilled c d e')
      (h : Pruned rest c d) : Pruned (type :: rest) b { b with structures := before ++ .block e' :: after }
  | absent {type : String} {rest : List String} {b : Body} (hrest : rest ≠ [])
      (hnone : ∀ x ∈ b.structures, x.isBlockOf type = false) : Pruned (type :: rest) b b
  | empty {type : String} {rest : List String} {b : Body} {before after : List Structure} {e : Block}
      (hrest : rest ≠ []) (hsplit : b.structures = before ++ .block e :: after)
      (hfirst : ∀ x ∈ before, x.isBlockOf type = false) (htype : e.logicalType = type) (hdynamic : e.isDynamic = true)
      (hnone : ∀ child, .block child ∈ e.body.structures → child.ident ≠ "content") : Pruned (type :: rest) b b

namespace Block

variable {e e' : Block} {c d : Body}

/-- The block `content` that is found is the first one. -/
theorem contentIndex?_eq_some_iff {i : Nat} : e.contentIndex? = some i ↔ ∃ before child after,
    e.body.structures = before ++ .block child :: after ∧ before.length = i ∧
      (∀ other, .block other ∈ before → other.ident ≠ "content") ∧ child.ident = "content" := by
  rw [contentIndex?, findIdx?_eq_some_iff_append]
  constructor
  · rintro ⟨before, x, after, hsplit, hlength, hfirst, hident⟩
    rcases x with a | child
    · cases hident
    · exact ⟨before, child, after, hsplit, hlength, fun other hother => of_decide_eq_false (hfirst _ hother),
        of_decide_eq_true hident⟩
  · rintro ⟨before, child, after, hsplit, hlength, hfirst, hident⟩
    refine ⟨before, _, after, hsplit, hlength, fun x hx => ?_, decide_eq_true hident⟩
    rcases x with a | other
    · rfl
    · exact decide_eq_false (hfirst other hx)

theorem refilled_iff : e.Refilled c d e' ↔ e.content? = some c ∧ e' = e.putContent d := by
  constructor
  · rintro (⟨hstatic, rfl⟩ | @⟨child, before, after, hdynamic, hsplit, hfirst, hident, rfl⟩)
    · exact ⟨by rw [content?, if_neg (by simp [hstatic])], (putContent_static hstatic d).symm⟩
    · have hindex := contentIndex?_eq_some_iff.mpr ⟨before, child, after, hsplit, rfl, hfirst, hident⟩
      have hchild : e.body.structures[before.length]? = some (.block child) := by simp [hsplit]
      refine ⟨by simp [content?, hdynamic, hindex, hchild], ?_⟩
      rw [putContent_dynamic hdynamic hindex hchild]
      simp [hsplit]
  · rintro ⟨hcontent, rfl⟩
    rcases content?_cases hcontent with ⟨hstatic, hbody⟩ | ⟨hdynamic, i, child, hi, hchild, hbody⟩
    · rw [putContent_static hstatic]
      exact .own hstatic hbody
    · obtain ⟨before, first, after, hsplit, rfl, hfirst, hident⟩ := contentIndex?_eq_some_iff.mp hi
      obtain rfl : first = child := by simpa [hsplit] using hchild
      rw [putContent_dynamic hdynamic hi hchild]
      have hset : e.body.structures.set before.length (.block { first with body := d }) =
          before ++ .block { first with body := d } :: after := by simp [hsplit]
      rw [hset]
      exact .inner hdynamic hsplit hfirst hident hbody

/-- Only a dynamic block can be without content. -/
theorem content?_eq_none_iff : e.content? = none ↔
    e.isDynamic = true ∧ ∀ child, .block child ∈ e.body.structures → child.ident ≠ "content" := by
  cases hdynamic : e.isDynamic with
  | false => simp [content?, hdynamic]
  | true =>
    have hindex : e.content? = none ↔ e.contentIndex? = none := by
      cases hi : e.contentIndex? with
      | none => simp [content?, hdynamic, hi]
      | some i =>
        obtain ⟨before, child, after, hsplit, rfl, -, -⟩ := contentIndex?_eq_some_iff.mp hi
        simp [content?, hdynamic, hi, hsplit]
    rw [hindex, contentIndex?, List.findIdx?_eq_none_iff]
    constructor
    · exact fun hnone => ⟨rfl, fun child hchild => of_decide_eq_false (hnone _ hchild)⟩
    · rintro ⟨-, hnone⟩ (a | child) hx
      · rfl
      · exact decide_eq_false (hnone child hx)

end Block

end Source

theorem enter_block {e : Block} (htype : e.logicalType = type) (f : Body → Body) :
    enter type f (.block e) = some (.block ((e.content?.map fun c => e.putContent (f c)).getD e)) := by
  simp [enter, through, Structure.isBlockOf, htype, Block.modifyContent?_eq]

/-- Going into a type of which there is no block changes nothing. -/
theorem lookmap_enter_of_absent {items : List Structure} (h : ∀ x ∈ items, x.isBlockOf type = false) :
    items.lookmap (enter type f) = items :=
  List.lookmap_of_forall_not _ fun x hx => by simp [enter, h x hx]

/-- Going into a type changes the first block of it. -/
theorem lookmap_enter_of_first {before after : List Structure} {e : Block}
    (hfirst : ∀ x ∈ before, x.isBlockOf type = false) (htype : e.logicalType = type) :
    (before ++ .block e :: after).lookmap (enter type f) =
      before ++ .block ((e.content?.map fun c => e.putContent (f c)).getD e) :: after :=
  lookmap_of_first (fun x hx => by simp [enter, hfirst x hx]) (enter_block htype f)

/-- What a path leads to is gone exactly if the body is the pruned one. -/
theorem pruned_iff {path : List String} (hpath : path ≠ []) (b d : Body) : Body.Pruned path b d ↔ d = prune path b := by
  constructor
  · intro h
    induction h with
    | gone => rfl
    | @within type rest b c d before after e e' hrest hsplit hfirst htype hrefilled _ ih =>
      obtain ⟨hcontent, rfl⟩ := Block.refilled_iff.mp hrefilled
      rw [prune_cons type hrest, hsplit, lookmap_enter_of_first hfirst htype, hcontent, ih hrest]
      rfl
    | absent hrest hnone => rw [prune_cons _ hrest, lookmap_enter_of_absent hnone, Body.mk_self]
    | empty hrest hsplit hfirst htype hdynamic hnone =>
      have hcontent := Block.content?_eq_none_iff.mpr ⟨hdynamic, hnone⟩
      rw [prune_cons _ hrest, hsplit, lookmap_enter_of_first hfirst htype, hcontent, Option.map_none, Option.getD_none,
        ← hsplit, Body.mk_self]
  · rintro rfl
    induction path generalizing b with
    | nil => exact absurd rfl hpath
    | cons type rest ih =>
      by_cases hrest : rest = []
      · subst hrest
        exact .gone
      rw [prune_cons type hrest]
      rcases first_block_cases type b.structures with hnone | ⟨before, e, after, hsplit, hfirst, htype⟩
      · rw [lookmap_enter_of_absent hnone, Body.mk_self]
        exact .absent hrest hnone
      · rw [hsplit, lookmap_enter_of_first hfirst htype]
        cases hcontent : e.content? with
        | none =>
          obtain ⟨hdynamic, hnone⟩ := Block.content?_eq_none_iff.mp hcontent
          rw [Option.map_none, Option.getD_none, ← hsplit, Body.mk_self]
          exact .empty hrest hsplit hfirst htype hdynamic hnone
        | some c => exact .within hrest hsplit hfirst htype (Block.refilled_iff.mpr ⟨hcontent, rfl⟩) (ih hrest c)

/-- Removing nested blocks depends only on which paths are given that name something, not on their order or their
repetition, and in a body each of them makes exactly what it leads to go. -/
theorem removal_by_paths {paths paths' : List (List String)}
    (h : ∀ path, path ≠ [] → (path ∈ paths ↔ path ∈ paths')) :
    (∀ b : Body, paths.foldl (fun b path => atPath removeNestedBlocks path b) b =
      paths'.foldl (fun b path => atPath removeNestedBlocks path b) b) ∧
    (∀ target m, (Transform.removeNestedBlocks target paths).apply m =
      (Transform.removeNestedBlocks target paths').apply m) ∧
    ∀ path, path ≠ [] → ∀ b d : Body, d = atPath removeNestedBlocks path b ↔ b.Pruned path d := by
  have hsame : ∀ b : Body, paths.foldl (fun b path => atPath removeNestedBlocks path b) b =
      paths'.foldl (fun b path => atPath removeNestedBlocks path b) b := pruneAll_eq h
  refine ⟨hsame, fun target m => ?_, fun path hpath b d => (pruned_iff hpath b d).symm⟩
  simp only [Transform.apply, hsame]

/-- Blocks of one type, one of them dynamic, at two levels. -/
def nestedText : String :=
  "b \x7b\n  a \x7b\n  \x7d\n\x7d\ndynamic \"a\" \x7b\n  content \x7b\n  \x7d\n\x7d\nb \x7b\n  a \x7b\n  \x7d\n\x7d\n"

/-- In another order, with one path twice and without the empty one, the same blocks go. -/
theorem removal_by_paths_swapped :
    (∀ path, path ≠ [] → (path ∈ [["a"], ["b", "a"], []] ↔ path ∈ [["b", "a"], ["a"], ["b", "a"]])) ∧
    ∃ b d, parse? nestedText = some b ∧
      [["a"], ["b", "a"], []].foldl (fun b path => atPath removeNestedBlocks path b) b = d ∧
      [["b", "a"], ["a"], ["b", "a"]].foldl (fun b path => atPath removeNestedBlocks path b) b = d ∧
      d.render = "b \x7b\n\x7d\nb \x7b\n  a \x7b\n  \x7d\n\x7d\n" := by
  have hpaths : ∀ path, path ≠ [] → (path ∈ [["a"], ["b", "a"], []] ↔ path ∈ [["b", "a"], ["a"], ["b", "a"]]) := by
    intro path hpath
    simp only [List.mem_cons, List.not_mem_nil, or_false, hpath]
    constructor
    · rintro (rfl | rfl) <;> simp
    · rintro (rfl | rfl | rfl) <;> simp
  have hread : (parse? nestedText).map (fun b =>
      ([["a"], ["b", "a"], []].foldl (fun b path => atPath removeNestedBlocks path b) b).render) =
        some "b \x7b\n\x7d\nb \x7b\n  a \x7b\n  \x7d\n\x7d\n" := by
    decide +kernel
  obtain ⟨b, hb, hrender⟩ := Option.map_eq_some_iff.mp hread
  exact ⟨hpaths, b, _, hb, rfl, ((removal_by_paths hpaths).1 b).symm, hrender⟩

end Terrasmith
