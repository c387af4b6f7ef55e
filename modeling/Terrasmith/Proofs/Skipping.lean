import Terrasmith.Proofs.RenameRules

/-!
What `skip_if_exists` spares. Attributes are left alone where an attribute has the new name, and nested blocks where a
nested block has it. One sort of element does not protect the other, so a name may come to stand for both.
-/
namespace Terrasmith

open Source Text

namespace Source

/-- A name stands for an attribute and for a nested block of a body. -/
def Body.Clashes (name : String) (b : Body) : Prop := b.hasAttribute name = true ∧ b.hasBlock name = true

/-- A body after a renaming that skips elements of a sort that has the new name. -/
structure Body.Spared (old new : String) (b d : Body) : Prop where
  unchanged_iff : d = b ↔ (b.hasAttribute old = true → b.hasAttribute new = true) ∧
    (b.hasBlock old = true → b.hasBlock new = true)
  keys : (b.attributes.map Attribute.key).Nodup → (d.attributes.map Attribute.key).Nodup
  clashes_iff : new ≠ "dynamic" → (d.Clashes new ↔
    (b.hasAttribute new = true ∨ b.hasAttribute old = true) ∧ (b.hasBlock new = true ∨ b.hasBlock old = true))
  clashes_of : new ≠ "dynamic" → ∀ name ≠ new, d.Clashes name → b.Clashes name

end Source

variable {old new : String}

theorem renameBlock_ne (h : old ≠ new) {e : Block} (htype : e.logicalType = old) : renameBlock old new e ≠ e := by
  cases hdynamic : e.isDynamic with
  | true =>
    obtain ⟨label, -, hlabels, hlabel⟩ := Block.exists_label_of_isDynamic hdynamic
    obtain ⟨body, heq, -⟩ := renameBlock_dynamic old new hdynamic hlabels
    rw [heq]
    intro hself
    have hsame := congrArg Block.labels hself
    rw [hlabels] at hsame
    have htext := congrArg Label.text (List.singleton_inj.mp hsame)
    exact h (htype.symm.trans (hlabel.trans htext.symm))
  | false =>
    rw [renameBlock_static hdynamic]
    intro hself
    have hident : new = e.ident := congrArg Block.ident hself
    exact h (htype.symm.trans ((Block.logicalType_of_static hdynamic).trans hident.symm))

theorem isAttribute_renamed (attributes blocks : Bool) (x : Structure) :
    (renamed old new attributes blocks x).isAttribute new = (x.isAttribute new || attributes && x.isAttribute old) := by
  rcases x with a | e
  · by_cases hkey : a.key = old <;> cases attributes <;> simp [renamed, Structure.isAttribute, hkey]
  · simp [renamed, Structure.isAttribute]

theorem isBlockOf_renamed (hdynamic : new ≠ "dynamic") (attributes blocks : Bool) (x : Structure) :
    (renamed old new attributes blocks x).isBlockOf new = (x.isBlockOf new || blocks && x.isBlockOf old) := by
  rcases x with a | e
  · simp [renamed, Structure.isBlockOf]
  · by_cases htype : e.logicalType = old <;> cases blocks <;>
      simp [renamed, Structure.isBlockOf, htype, logicalType_renameBlock hdynamic]

/-- No element comes to have a name other than the new one. -/
theorem named_of_renamed (hdynamic : new ≠ "dynamic") {name : String} (hname : name ≠ new) (attributes blocks : Bool)
    (x : Structure) :
    ((renamed old new attributes blocks x).isAttribute name = true → x.isAttribute name = true) ∧
      ((renamed old new attributes blocks x).isBlockOf name = true → x.isBlockOf name = true) := by
  rcases x with a | e
  · refine ⟨?_, fun hblock => absurd hblock Bool.false_ne_true⟩
    by_cases hkey : a.key = old <;> cases attributes <;>
      simp [renamed, Structure.isAttribute, hkey, Ne.symm hname]
  · refine ⟨fun hattribute => absurd hattribute Bool.false_ne_true, ?_⟩
    by_cases htype : e.logicalType = old <;> cases blocks <;>
      simp [renamed, Structure.isBlockOf, htype, logicalType_renameBlock hdynamic, Ne.symm hname]

theorem attributes_map_renamed (attributes blocks : Bool) (structures : List Structure) :
    (structures.map (renamed old new attributes blocks)).filterMap Structure.attribute? =
      (structures.filterMap Structure.attribute?).map fun a =>
        if attributes && a.key = old then { a with key := new } else a := by
  rw [List.filterMap_map, List.map_filterMap]
  congr 1
  funext x
  rcases x with a | e <;> rfl

theorem any_or_and {α : Type} (p q : α → Bool) (c : Bool) (xs : List α) :
    (xs.any fun x => p x || c && q x) = (xs.any p || c && xs.any q) := by
  cases c with
  | false => simp
  | true =>
    rw [Bool.eq_iff_iff]
    simp only [Bool.true_and, List.any_eq_true, Bool.or_eq_true, ← exists_or, ← and_or_left]

section Map

variable {b : Body} (attributes blocks : Bool)

theorem hasAttribute_map_renamed (old new : String) :
    Body.hasAttribute { b with structures := b.structures.map (renamed old new attributes blocks) } new =
      (b.hasAttribute new || attributes && b.hasAttribute old) := by
  rw [Body.hasAttribute_eq_any, Body.hasAttribute_eq_any, Body.hasAttribute_eq_any, ← any_or_and, List.any_map]
  congr 1
  exact funext fun x => isAttribute_renamed attributes blocks x

theorem hasBlock_map_renamed (old : String) (hdynamic : new ≠ "dynamic") :
    Body.hasBlock { b with structures := b.structures.map (renamed old new attributes blocks) } new =
      (b.hasBlock new || blocks && b.hasBlock old) := by
  rw [Body.hasBlock, Body.hasBlock, Body.hasBlock, ← any_or_and, List.any_map]
  congr 1
  exact funext fun x => isBlockOf_renamed hdynamic attributes blocks x

theorem clashes_of_map_renamed (hdynamic : new ≠ "dynamic") {name : String} (hname : name ≠ new)
    (h : Body.Clashes name { b with structures := b.structures.map (renamed old new attributes blocks) }) :
    b.Clashes name := by
  obtain ⟨hattribute, hblock⟩ := h
  rw [Body.hasAttribute_eq_any, List.any_map, List.any_eq_true] at hattribute
  rw [Body.hasBlock, List.any_map, List.any_eq_true] at hblock
  obtain ⟨x, hx, hattribute⟩ := hattribute
  obtain ⟨y, hy, hblock⟩ := hblock
  refine ⟨?_, List.any_eq_true.mpr ⟨y, hy, (named_of_renamed hdynamic hname _ _ y).2 hblock⟩⟩
  rw [Body.hasAttribute_eq_any]
  exact List.any_eq_true.mpr ⟨x, hx, (named_of_renamed hdynamic hname _ _ x).1 hattribute⟩

/-- Elements that are to be renamed change, and nothing else does. -/
theorem map_renamed_eq_self_iff (h : old ≠ new) : b.structures.map (renamed old new attributes blocks) = b.structures ↔
    (attributes = false ∨ b.hasAttribute old = false) ∧ (blocks = false ∨ b.hasBlock old = false) := by
  rw [Body.hasAttribute_eq_any, Body.hasBlock]
  constructor
  · intro hmap
    have hself : ∀ x ∈ b.structures, renamed old new attributes blocks x = x :=
      List.map_inj_left.mp (hmap.trans (List.map_id _).symm)
    rw [List.any_eq_false, List.any_eq_false]
    refine ⟨or_iff_not_imp_left.mpr fun hattributes x hx hold => ?_,
      or_iff_not_imp_left.mpr fun hblocks x hx hold => ?_⟩
    · rcases x with a | e
      · simp only [Structure.isAttribute, decide_eq_true_eq] at hold
        have hkey := congrArg (Structure.isAttribute old) (hself _ hx)
        simp [renamed, Structure.isAttribute, hold, Bool.eq_true_of_not_eq_false hattributes, Ne.symm h] at hkey
      · cases hold
    · rcases x with a | e
      · cases hold
      · simp only [Structure.isBlockOf, decide_eq_true_eq] at hold
        have hblock := hself _ hx
        simp only [renamed, hold, Bool.eq_true_of_not_eq_false hblocks, Bool.true_and, decide_true, if_true,
          Structure.block.injEq] at hblock
        exact renameBlock_ne h hold hblock
  · exact fun hnone => map_renamed_eq_self hnone.1 hnone.2

/-- The attributes stay distinct, if none has the new name when one is given it. -/
theorem nodup_keys_map_renamed (hfree : attributes = false ∨ b.hasAttribute new = false)
    (h : (b.attributes.map Attribute.key).Nodup) :
    ((Body.attributes { b with structures := b.structures.map (renamed old new attributes blocks) }).map
      Attribute.key).Nodup := by
  rw [Body.attributes, attributes_map_renamed]
  rcases hfree with rfl | hfree
  · simpa [Body.attributes] using h
  · have hkeys : ∀ a ∈ b.attributes, a.key ≠ new := by
      have hnone : b.attribute? new = none := Option.not_isSome_iff_eq_none.mp (Bool.eq_false_iff.mp hfree)
      intro a ha
      simpa using List.find?_eq_none.mp hnone a ha
    rw [List.map_map]
    refine List.Nodup.map_on ?_ (List.Nodup.of_map _ h)
    intro a ha a' ha' heq
    refine List.inj_on_of_nodup_map h ha ha' ?_
    have hne := hkeys a ha
    have hne' := hkeys a' ha'
    simp only [Function.comp_apply, Bool.and_eq_true, decide_eq_true_eq] at heq
    split at heq <;> split at heq <;> grind

end Map

/-- With `skip` a body is left alone unless it has an element of the old name and none of the same sort under the new
one. -/
theorem renameElement_spared (old new : String) (b : Body) : b.Spared old new (renameElement new true old b) := by
  by_cases h : old = new
  · subst h
    have hself : renameElement old true old b = b := by rw [renameElement, if_pos rfl]
    rw [hself]
    exact ⟨by simp, id, fun _ => by simp [Body.Clashes], fun _ _ _ => id⟩
  · have heq := renameElement_eq h true b
    simp only [Bool.true_and, Bool.not_true, Bool.and_false, Bool.false_eq_true, if_false] at heq
    rw [heq]
    refine ⟨?_, nodup_keys_map_renamed _ _ (by simp), fun hdynamic => ?_, fun hdynamic name hname =>
      clashes_of_map_renamed _ _ hdynamic hname⟩
    · have hsame : Body.mk (b.structures.map (renamed old new (!b.hasAttribute new) (!b.hasBlock new))) b.head b.tail
          b.oneLine b.openEnd = b ↔ b.structures.map (renamed old new (!b.hasAttribute new) (!b.hasBlock new)) =
            b.structures :=
        ⟨congrArg Body.structures, fun hmap => by rw [hmap, Body.mk_self]⟩
      rw [hsame, map_renamed_eq_self_iff _ _ h]
      cases b.hasAttribute new <;> cases b.hasBlock new <;> simp
    · rw [Body.Clashes, hasAttribute_map_renamed, hasBlock_map_renamed _ _ _ hdynamic]
      cases b.hasAttribute new <;> cases b.hasBlock new <;> simp

/-- In every module that is made from files and changed by transforms a rule with `skip_if_exists` succeeds and comes to
the bodies at the end of its path of all blocks that it applies to. It leaves such a body alone exactly if an attribute
of the old name stands beside one of the new name and a nested block beside a nested block. Otherwise the new name may
come to stand for elements of both sorts, but never for two attributes. -/
theorem skip_spares_iff_of_one_sort {origin : Origin} {disk : String → Option String}
    {sources : List (String × String)} {m : Module} (hload : Module.ofSources origin disk sources = .ok m)
    (hnames : (sources.map Prod.fst).Nodup) (ts : List Transform) {r : RenameRule} {path : List String} {old : String}
    (hpath : r.path = path ++ [old]) (hskip : r.skipIfExists = true) :
    let before := Transform.applyAll ts m
    ∃ after, r.apply before = { module := after } ∧
      before.Reworked (r.Targets before) (Body.Along (Body.Spared old r.newName) path) after := by
  intro before
  have hplaced : before.Placed := (Module.placed_ofSources hload hnames).applyAll ts
  obtain ⟨after, happly, -, hreworked⟩ := r.reworked hplaced
  refine ⟨after, happly, hreworked.mono fun b d hd => ?_⟩
  rw [hd, RenameRule.rework, hpath, hskip]
  exact atAllPaths_along (renameElement_spared old r.newName) path b

/-- A resource whose nested block has attributes of the old and the new name. -/
def taken : List (String × String) :=
  [("main.tf", "resource \"t\" \"a\" \x7b\n  b \x7b\n    new = 0\n    old = 1\n  \x7d\n\x7d\n")]

def sparingRule : RenameRule :=
  { kind := .resource, blockType := "t", path := ["b", "old"], newName := "new", skipIfExists := true }

/-- The file stays as it is. -/
theorem skip_spares_iff_of_one_sort_attributes :
    ∃ m after, Module.ofSources default (fun _ => none) taken = .ok m ∧
      sparingRule.apply m = { module := after } ∧
      m.Reworked (sparingRule.Targets m) (Body.Along (Body.Spared "old" "new") ["b"]) after ∧
      after.files.map (fun entry => (entry.1, entry.2.render)) = taken := by
  have hread : (readAll taken []).any (fun (m, _) =>
      (sparingRule.apply m).module.files.map (fun entry => (entry.1, entry.2.render)) = taken) = true := by
    decide +kernel
  obtain ⟨m, ts, hload, -, htest⟩ := exists_of_readAll hread
  have hnames : (taken.map Prod.fst).Nodup := by decide
  obtain ⟨after, happly, hreworked⟩ := skip_spares_iff_of_one_sort hload hnames [] (r := sparingRule)
    (show sparingRule.path = ["b"] ++ ["old"] from rfl) rfl
  have happly : sparingRule.apply m = { module := after } := happly
  refine ⟨m, after, hload, happly, hreworked, ?_⟩
  dsimp only at htest
  rw [happly] at htest
  exact of_decide_eq_true htest

/-- A resource with an attribute of the old name and a nested block of the new one. -/
def mixed : List (String × String) :=
  [("main.tf", "resource \"t\" \"a\" \x7b\n  old = 1\n  new \x7b\n  \x7d\n\x7d\n")]

def mixedRename : List (String × String) :=
  [("rename_block_element", "rename \x7b\n  resource_type = \"t\"\n  attribute_path = [\"old\"]\n" ++
    "  new_name = \"new\"\n  skip_if_exists = true\n\x7d\n")]

/-- The nested block does not protect the body: afterwards it has an attribute of the same name. -/
theorem skip_makes_name_clash :
    ∃ m ts b d, Module.ofSources default (fun _ => none) mixed = .ok m ∧
      (∀ t ∈ ts, ∃ type body scope d, Transform.decode type body scope d = .ok t) ∧
      m.written? "resource.t.a" = some b ∧ (Transform.applyAll ts m).written? "resource.t.a" = some d ∧
      b.body.hasBlock "new" = true ∧ ¬ b.body.Clashes "new" ∧ d.body ≠ b.body ∧ d.body.Clashes "new" := by
  have hread : (readAll mixed mixedRename).any (fun (m, ts) =>
      (m.written? "resource.t.a").any fun b => ((Transform.applyAll ts m).written? "resource.t.a").any fun d =>
        b.body.hasBlock "new" && !b.body.hasAttribute "new" && d.body.hasAttribute "new" &&
          d.body.hasBlock "new") = true := by
    decide +kernel
  obtain ⟨m, ts, hload, hdecoded, htest⟩ := exists_of_readAll hread
  obtain ⟨b, hb, htest⟩ := (Option.any_eq_true _ _).mp htest
  obtain ⟨d, hd, htest⟩ := (Option.any_eq_true _ _).mp htest
  simp only [Bool.and_eq_true, Bool.not_eq_true'] at htest
  obtain ⟨⟨⟨hblock, hfree⟩, hattribute⟩, hblock'⟩ := htest
  have hclash : ¬ b.body.Clashes "new" := fun hclash => by
    rw [Body.Clashes, hfree] at hclash
    exact Bool.false_ne_true hclash.1
  refine ⟨m, ts, b, d, hload, hdecoded, hb, hd, hblock, hclash, ?_, ⟨hattribute, hblock'⟩⟩
  rintro heq
  exact hclash (heq ▸ ⟨hattribute, hblock'⟩)

end Terrasmith
