import Terrasmith.Proofs.Conversion
import Terrasmith.Proofs.DistinctKeys
import Terrasmith.Proofs.Nesting

/-!
The values of blocks. Nested blocks are made alike level by level, from the inside out, so what is inside is converted
again at every level around it. As long as no name stands for attributes and for blocks at one place, the shapes that
are unified on the way are all laid out alike (`Laid`), and the values fit into them (`Fits`), so that conversion only
adds nulls. The value of a block therefore mirrors its tree (`Mirrors`), and what a path of names leads to has the same
names everywhere.
-/
namespace Terrasmith

open Source Shape

/-! ### Layouts -/

/-- What stands at a place of a value: the text of an attribute, a list of blocks or one of these blocks. -/
inductive Role where
  | text
  | blocks (bodies : List Body)
  | block (bodies : List Body)

/-- What a name stands for in bodies at one place. -/
def Role.of (bodies : List Body) (name : String) : Role :=
  if name ∈ bodies.flatMap Body.types then .blocks (Body.allSiblings bodies name) else .text

/-- The shapes that the values of bodies may have. -/
inductive Laid : Role → Shape → Prop where
  | dynamic {r : Role} : Laid r .dynamic
  | text : Laid .text .string
  | blocks {bodies : List Body} {s : Shape} (h : Laid (.block bodies) s) : Laid (.blocks bodies) (.list s)
  | block {bodies : List Body} {fields : Shape.Fields} (hfields : (fields.map Prod.fst).Nodup)
      (h : ∀ name, Laid (Role.of bodies name) (field fields name)) : Laid (.block bodies) (.object fields)

/-- A value fits a shape if it has no more names, and texts, lists and objects only where the shape has them too. -/
inductive Fits : Shape → Value → Prop where
  | null {s : Shape} : Fits s .null
  | text {text : String} : Fits .string (.string text)
  | list {s : Shape} {items : List Value} (h : ∀ v ∈ items, Fits s v) : Fits (.list s) (.array items)
  | object {fields : Shape.Fields} {entries : List (String × Value)} (hfields : (fields.map Prod.fst).Nodup)
      (hentries : (entries.map Prod.fst).Nodup) (hknown : entries.map Prod.fst ⊆ fields.map Prod.fst)
      (h : ∀ name, Fits (field fields name) (Value.entry entries name)) : Fits (.object fields) (.object entries)

/-- A value that can be unified with others of its role. -/
structure Role.Suits (r : Role) (v : Value) : Prop where
  laid : Laid r (Shape.of v)
  fits : Fits (Shape.of v) v

variable {r : Role} {s t : Shape} {v : Value} {fields : Shape.Fields} {bodies : List Body}

theorem Laid.inferred (h : Laid r s) : Inferred s := by
  induction h with
  | dynamic => exact .dynamic
  | text => exact .string
  | blocks _ ih => exact .list ih
  | block hfields _ ih => exact .object hfields ih

theorem Laid.unify (hs : Laid r s) (ht : Laid r t) : Laid r (s.unify t) := by
  induction hs generalizing t with
  | dynamic => simpa using ht
  | text =>
    rw [unify_of_primitive rfl]
    exact .text
  | blocks h ih =>
    cases ht with
    | dynamic => simpa using .blocks h
    | blocks h' =>
      rw [Shape.unify]
      exact .blocks (ih h')
  | block hfields h ih =>
    cases ht with
    | dynamic => simpa using .block hfields h
    | block hfields' h' =>
      rw [unify_object]
      exact .block (nodup_keys_union hfields hfields') fun name => field_union _ _ name ▸ ih name (h' name)

theorem Fits.keyed (h : Fits s v) : v.Keyed := by
  induction h with
  | null | text => simp
  | list _ ih => exact Value.keyed_array.mpr ih
  | @object fields entries hfields hentries hknown _ ih =>
    refine Value.keyed_object.mpr ⟨hentries, fun e he => ?_⟩
    have hentry := ih e.1
    rwa [Value.entry, lookup_of_mem hentries he] at hentry

/-- What fits a shape fits its unification with another one of the same layout, from either side. -/
theorem Fits.unify_left (h : Fits s v) (hs : Laid r s) (ht : Laid r t) : Fits (s.unify t) v := by
  induction h generalizing r t with
  | null => exact .null
  | text =>
    rw [unify_of_primitive rfl]
    exact .text
  | list h ih =>
    cases hs with
    | blocks hs =>
      cases ht with
      | dynamic => simpa using .list h
      | blocks ht =>
        rw [Shape.unify]
        exact .list fun v hv => ih v hv hs ht
  | object hfields hentries hknown h ih =>
    cases hs with
    | block _ hs =>
      cases ht with
      | dynamic => simpa using .object hfields hentries hknown h
      | block hfields' ht =>
        rw [unify_object]
        exact .object (nodup_keys_union hfields hfields') hentries
          (fun name hname => mem_keys_union.mpr (.inl (hknown hname)))
          fun name => field_union _ _ name ▸ ih name (hs name) (ht name)

theorem Fits.unify_right (h : Fits t v) (hs : Laid r s) (ht : Laid r t) : Fits (s.unify t) v := by
  induction h generalizing r s with
  | null => exact .null
  | text =>
    cases ht with
    | text =>
      cases hs with
      | dynamic => simpa using .text
      | text =>
        rw [unify_of_primitive rfl]
        exact .text
  | list h ih =>
    cases ht with
    | blocks ht =>
      cases hs with
      | dynamic => simpa using .list h
      | blocks hs =>
        rw [Shape.unify]
        exact .list fun v hv => ih v hv hs ht
  | object hfields' hentries hknown h ih =>
    cases ht with
    | block _ ht =>
      cases hs with
      | dynamic => simpa using .object hfields' hentries hknown h
      | block hfields hs =>
        rw [unify_object]
        exact .object (nodup_keys_union hfields hfields') hentries
          (fun name hname => mem_keys_union.mpr (.inr (hknown hname)))
          fun name => field_union _ _ name ▸ ih name (hs name) (ht name)

theorem unifyAll_concat (shapes : List Shape) (s : Shape) : unifyAll (shapes ++ [s]) = (unifyAll shapes).unify s := by
  rw [unifyAll_eq_foldl, unifyAll_eq_foldl, List.foldl_append]
  rfl

/-- Values of one role unify without conflict, and each of them fits the result. -/
theorem fits_unifyAll {values : List Value} (h : ∀ v ∈ values, r.Suits v) :
    Laid r (unifyAll (values.map Shape.of)) ∧ ∀ v ∈ values, Fits (unifyAll (values.map Shape.of)) v := by
  induction values using List.reverseRecOn with
  | nil => exact ⟨.dynamic, by simp⟩
  | append_singleton values v ih =>
    rw [List.forall_mem_append, List.forall_mem_singleton] at h
    obtain ⟨hlaid, hfits⟩ := ih h.1
    rw [List.map_append, List.map_singleton, unifyAll_concat, List.forall_mem_append, List.forall_mem_singleton]
    exact ⟨hlaid.unify h.2.laid, fun u hu => (hfits u hu).unify_left hlaid h.2.laid,
      h.2.fits.unify_right hlaid h.2.laid⟩

theorem Role.suits_null (r : Role) : r.Suits .null where
  laid := by simpa [Shape.of] using Laid.dynamic
  fits := .null

theorem Role.suits_text (text : String) : Role.text.Suits (.string text) where
  laid := by simpa [Shape.of] using Laid.text
  fits := by simpa [Shape.of] using Fits.text

theorem Role.suits_array {items : List Value} (h : ∀ v ∈ items, (Role.block bodies).Suits v) :
    (Role.blocks bodies).Suits (.array items) := by
  obtain ⟨hlaid, hfits⟩ := fits_unifyAll h
  exact ⟨of_array _ ▸ .blocks hlaid, of_array _ ▸ .list hfits⟩

theorem Role.suits_object {entries : List (String × Value)} (hentries : (entries.map Prod.fst).Nodup)
    (h : ∀ name, (Role.of bodies name).Suits (Value.entry entries name)) : (Role.block bodies).Suits (.object entries) := by
  have hfields : ((ofEntries entries).map Prod.fst).Nodup := by rwa [keys_ofEntries]
  have hknown : entries.map Prod.fst ⊆ (ofEntries entries).map Prod.fst := by
    rw [keys_ofEntries]
    exact List.Subset.refl _
  exact ⟨of_object _ ▸ .block hfields fun name => field_ofEntries _ name ▸ (h name).laid,
    of_object _ ▸ .object hfields hentries hknown fun name => field_ofEntries _ name ▸ (h name).fits⟩

/-- What fits a shape of a layout can be unified with others of that layout. -/
theorem Fits.suits (h : Fits s v) (hs : Laid r s) : r.Suits v := by
  induction h generalizing r with
  | null => exact r.suits_null
  | text =>
    cases hs with
    | text => exact Role.suits_text _
  | list _ ih =>
    cases hs with
    | blocks hs => exact Role.suits_array fun v hv => ih v hv hs
  | object _ hentries _ _ ih =>
    cases hs with
    | block _ hs => exact Role.suits_object hentries fun name => ih name (hs name)

theorem Fits.convert (h : Fits s v) : Fits s (s.convert v) := by
  induction h with
  | null =>
    rw [convert_null]
    exact .null
  | text => exact .text
  | list _ ih =>
    rw [Shape.convert]
    exact .list (by simpa using ih)
  | object hfields hentries hknown _ ih =>
    rw [convert_object _ hentries]
    refine .object hfields (nodup_keys_filled hfields hentries) ?_ fun name => entry_filled _ _ name ▸ ih name
    rw [keys_filled, together_of_subset hknown]
    exact List.Subset.refl _

/-- A fitting object has the names of its shape after conversion. -/
theorem Fits.convert_eq_object (h : Fits s v) {row : List (String × Value)} (hrow : s.convert v = .object row) :
    ∃ fields own, s = .object fields ∧ v = .object own ∧ own.map Prod.fst ⊆ row.map Prod.fst ∧
      row = filled fields own ∧ row.map Prod.fst = fields.map Prod.fst := by
  cases h with
  | null => simp at hrow
  | text => simp [Shape.convert] at hrow
  | list => simp [Shape.convert] at hrow
  | @object fields own hfields hentries hknown _ =>
    rw [convert_object fields hentries, Value.object.injEq] at hrow
    have hnames : row.map Prod.fst = fields.map Prod.fst := by rw [← hrow, keys_filled, together_of_subset hknown]
    exact ⟨fields, own, rfl, rfl, hnames ▸ hknown, hrow.symm, hnames⟩

/-! ### What the value of a body holds -/

namespace Value

/-- The items of an array; nothing else has items. -/
def items : Value → List Value
  | .array items => items
  | _ => []

/-- The items of the array under a name. -/
def itemsAt (name : String) : Value → List Value
  | .object entries => (entry entries name).items
  | _ => []

/-- The values that a path of names leads to, through the items of arrays. -/
def descend : List String → List Value → List Value
  | [], values => values
  | name :: path, values => descend path (values.flatMap (itemsAt name))

theorem lookup_of_entry {entries : List (String × Value)} {name : String} (h : entry entries name = v)
    (hv : v ≠ .null) : entries.lookup name = some v := by
  cases hlookup : entries.lookup name with
  | none => exact absurd (by simpa [entry, hlookup] using h.symm) hv
  | some u => simpa [entry, hlookup] using h

theorem entry_of_lookup {entries : List (String × Value)} {name : String} (h : entries.lookup name = some v) :
    entry entries name = v := by
  rw [entry, h, Option.getD_some]

end Value

/-- The names of the attributes and of the types of blocks in a body. -/
def Source.Body.names (b : Body) : List String :=
  b.attributes.map (·.key) ++ b.types

/-- An object that tells all of a body: the text of every attribute, and for every type of blocks one object for each
of these blocks, in their order, that tells all of its content. The objects of a type have the names of all these
blocks, and whatever a body has no attribute and no block for is null. -/
inductive Mirrors : Body → Value → Prop where
  | object {b : Body} {entries : List (String × Value)}
      (hattributes : ∀ a ∈ b.attributes, entries.lookup a.key = some (.string a.source))
      (hblocks : ∀ type ∈ b.types, ∃ items, entries.lookup type = some (.array items))
      (hsiblings : ∀ type ∈ b.types, List.Forall₂ Mirrors (b.siblings type) (Value.entry entries type).items)
      (hnames : ∀ type ∈ b.types, ∀ c ∈ b.siblings type, ∀ name ∈ c.names, ∀ row : List (String × Value),
        .object row ∈ (Value.entry entries type).items → name ∈ row.map Prod.fst)
      (hnull : ∀ e ∈ entries, e.1 ∉ b.names → e.2 = .null) : Mirrors b (.object entries)

theorem forall₂_map_of_mem {α β : Type} {R : α → β → Prop} {f : β → β} {as : List α} {bs : List β}
    (h : List.Forall₂ R as bs) (hf : ∀ a ∈ as, ∀ b ∈ bs, R a b → R a (f b)) : List.Forall₂ R as (bs.map f) := by
  induction h with
  | nil => exact .nil
  | cons hab _ ih =>
    exact .cons (hf _ List.mem_cons_self _ List.mem_cons_self hab)
      (ih fun a ha b hb => hf a (List.mem_cons_of_mem _ ha) b (List.mem_cons_of_mem _ hb))

/-- Conversion to a shape that an object fits keeps what it tells. -/
theorem Mirrors.convert (b : Body) : ∀ {s : Shape} {v : Value}, Mirrors b v → Fits s v → Mirrors b (s.convert v) := by
  induction b using Body.induction with
  | h b ih =>
  rintro s v ⟨hattributes, hblocks, hsiblings, hnames, hnull⟩ hfits
  rename_i entries
  cases hfits with
  | @object fields _ hfields hentries hknown hfits =>
    rw [convert_object fields hentries]
    have harray : ∀ type ∈ b.types, ∃ t items, Value.entry entries type = .array items ∧ (∀ v ∈ items, Fits t v) ∧
        Value.entry (filled fields entries) type = .array (items.map t.convert) := by
      intro type htype
      obtain ⟨items, hitems⟩ := hblocks type htype
      have hentry := Value.entry_of_lookup hitems
      have hfit := hfits type
      have hfilled := entry_filled fields entries type
      rw [hentry] at hfit hfilled
      generalize field fields type = s at hfit hfilled
      cases hfit with
      | @list t _ hfit => exact ⟨t, items, hentry, hfit, by rw [hfilled, Shape.convert]⟩
    refine .object (fun a ha => ?_) (fun type htype => ?_) (fun type htype => ?_)
      (fun type htype c hc name hname row hrow => ?_) fun e he hname => ?_
    · have hentry := Value.entry_of_lookup (hattributes a ha)
      have hfit := hfits a.key
      have hfilled := entry_filled fields entries a.key
      rw [hentry] at hfit hfilled
      generalize field fields a.key = s at hfit hfilled
      cases hfit with
      | text => exact Value.lookup_of_entry hfilled (by simp)
    · obtain ⟨t, items, -, -, hfilled⟩ := harray type htype
      exact ⟨_, Value.lookup_of_entry hfilled (by simp)⟩
    · obtain ⟨t, items, hentry, hfit, hfilled⟩ := harray type htype
      have hsibling := hsiblings type htype
      rw [hentry] at hsibling
      rw [hfilled]
      exact forall₂_map_of_mem hsibling fun c hc w hw hmirrors => ih type c hc hmirrors (hfit w hw)
    · obtain ⟨t, items, hentry, hfit, hfilled⟩ := harray type htype
      rw [hfilled] at hrow
      obtain ⟨w, hw, hconvert⟩ := List.mem_map.mp hrow
      obtain ⟨-, own, -, rfl, hown, -, -⟩ := (hfit w hw).convert_eq_object hconvert
      exact hown (hnames type htype c hc name hname own (hentry ▸ hw))
    · have hentry := Value.entry_of_lookup (lookup_of_mem (nodup_keys_filled hfields hentries) he)
      have hold : Value.entry entries e.1 = .null := by
        cases hlookup : entries.lookup e.1 with
        | none => simp [Value.entry, hlookup]
        | some v => exact Value.entry_of_lookup hlookup ▸ hnull _ (mem_of_lookup hlookup) hname
      rw [← hentry, entry_filled, hold, convert_null]

variable {b : Body} {lines? : Option Text.LineIndex}

/-- The value of the blocks of a type in a body. -/
def siblingsValue (lines? : Option Text.LineIndex) (b : Body) (type : String) : Value :=
  Shape.listOfObjects ((b.siblings type).map (bodyValue lines?))

theorem attributeEntries_attributesOf (b : Body) :
    attributeEntries (attributesOf b) = b.attributes.map fun a => (a.key, .string a.source) := by
  rw [attributeEntries, attributesOf, List.map_map]
  rfl

theorem bodyEntries_eq (hapart : ∀ a ∈ b.attributes, a.key ∉ b.types) :
    bodyEntries lines? b = (b.attributes.map fun a => (a.key, Value.string a.source)) ++
      b.types.map fun type => (type, siblingsValue lines? b type) := by
  have htypes : (b.types.map fun type => (type, siblingsValue lines? b type)).map Prod.fst = b.types := by
    rw [List.map_map]
    exact List.map_id _
  rw [bodyEntries, attributeEntries_attributesOf, nestedEntries_ofBody]
  refine insertEntries_of_disjoint (htypes.symm ▸ b.nodup_types) fun name hname hmem => ?_
  rw [List.map_map, List.mem_map] at hmem
  obtain ⟨a, ha, rfl⟩ := hmem
  exact hapart a ha (htypes ▸ hname)

theorem keys_bodyEntries (lines? : Option Text.LineIndex) (hapart : ∀ a ∈ b.attributes, a.key ∉ b.types) :
    (bodyEntries lines? b).map Prod.fst = b.names := by
  rw [bodyEntries_eq hapart, List.map_append, List.map_map, List.map_map, Body.names]
  exact congrArg _ (List.map_id _)

theorem nodup_names (hkeys : b.KeysApart) (hapart : ∀ a ∈ b.attributes, a.key ∉ b.types) : b.names.Nodup := by
  rw [Body.names, List.nodup_append]
  refine ⟨(Body.keysApart_iff.mp hkeys).1, b.nodup_types, fun name hname type htype heq => ?_⟩
  obtain ⟨a, ha, rfl⟩ := List.mem_map.mp hname
  exact hapart a ha (heq ▸ htype)

theorem lookup_bodyEntries_attribute (hkeys : b.KeysApart) (hapart : ∀ a ∈ b.attributes, a.key ∉ b.types)
    {a : Attribute} (ha : a ∈ b.attributes) : (bodyEntries lines? b).lookup a.key = some (.string a.source) := by
  refine lookup_of_mem (keys_bodyEntries lines? hapart ▸ nodup_names hkeys hapart) ?_
  rw [bodyEntries_eq hapart]
  exact List.mem_append_left _ (List.mem_map.mpr ⟨a, ha, rfl⟩)

theorem lookup_bodyEntries_type (hkeys : b.KeysApart) (hapart : ∀ a ∈ b.attributes, a.key ∉ b.types)
    {type : String} (htype : type ∈ b.types) :
    (bodyEntries lines? b).lookup type = some (siblingsValue lines? b type) := by
  refine lookup_of_mem (keys_bodyEntries lines? hapart ▸ nodup_names hkeys hapart) ?_
  rw [bodyEntries_eq hapart]
  exact List.mem_append_right _ (List.mem_map.mpr ⟨type, htype, rfl⟩)

theorem entry_bodyEntries_of_notMem (hapart : ∀ a ∈ b.attributes, a.key ∉ b.types) {name : String}
    (h : name ∉ b.names) : Value.entry (bodyEntries lines? b) name = .null := by
  rw [← keys_bodyEntries lines? hapart] at h
  rw [Value.entry, lookup_eq_none_iff_notMem.mpr h, Option.getD_none]

/-- Bodies whose values can be unified. -/
structure Composed (bodies : List Body) : Prop where
  unmixed : Body.Unmixed bodies
  keysApart : ∀ b ∈ bodies, b.KeysApart

theorem Composed.apart (h : Composed bodies) (hb : b ∈ bodies) : ∀ a ∈ b.attributes, a.key ∉ b.types :=
  h.unmixed [] b hb b hb

theorem Composed.allSiblings (h : Composed bodies) (type : String) : Composed (Body.allSiblings bodies type) where
  unmixed path := h.unmixed (type :: path)
  keysApart c hc := by
    obtain ⟨b, hb, hc⟩ := List.mem_flatMap.mp hc
    exact Body.keysApart_siblings (h.keysApart b hb) hc

/-- The shape that the blocks of a type in a body are converted to. -/
def siblingsShape (lines? : Option Text.LineIndex) (b : Body) (type : String) : Shape :=
  unifyAll (((b.siblings type).map (bodyValue lines?)).map Shape.of)

theorem siblingsValue_eq (lines? : Option Text.LineIndex) (b : Body) (type : String) :
    siblingsValue lines? b type =
      .array ((b.siblings type).map fun c => (siblingsShape lines? b type).convert (bodyValue lines? c)) := by
  rw [siblingsValue, Shape.listOfObjects, List.map_map]
  rfl

theorem fits_siblingsShape {type : String} (h : ∀ c ∈ b.siblings type, r.Suits (bodyValue lines? c)) :
    Laid r (siblingsShape lines? b type) ∧
      ∀ c ∈ b.siblings type, Fits (siblingsShape lines? b type) (bodyValue lines? c) := by
  have hsuits : ∀ v ∈ (b.siblings type).map (bodyValue lines?), r.Suits v := by
    intro v hv
    obtain ⟨c, hc, rfl⟩ := List.mem_map.mp hv
    exact h c hc
  obtain ⟨hlaid, hfits⟩ := fits_unifyAll hsuits
  exact ⟨hlaid, fun c hc => hfits _ (List.mem_map_of_mem hc)⟩

/-- The values of bodies at one place can be unified. -/
theorem suits_bodyValue (lines? : Option Text.LineIndex) (b : Body) : ∀ {bodies : List Body}, Composed bodies →
    b ∈ bodies → (Role.block bodies).Suits (bodyValue lines? b) := by
  induction b using Body.induction with
  | h b ih =>
  intro bodies hbodies hb
  have hapart := hbodies.apart hb
  have hkeys := hbodies.keysApart b hb
  refine Role.suits_object (keys_bodyEntries lines? hapart ▸ nodup_names hkeys hapart) fun name => ?_
  by_cases htype : name ∈ b.types
  · rw [Value.entry_of_lookup (lookup_bodyEntries_type hkeys hapart htype), Role.of,
      if_pos (List.mem_flatMap.mpr ⟨b, hb, htype⟩), siblingsValue_eq]
    obtain ⟨hlaid, hfits⟩ := fits_siblingsShape fun c hc =>
      ih name c hc (hbodies.allSiblings name) (List.mem_flatMap.mpr ⟨b, hb, hc⟩)
    refine Role.suits_array fun v hv => ?_
    obtain ⟨c, hc, rfl⟩ := List.mem_map.mp hv
    exact (hfits c hc).convert.suits hlaid
  by_cases hattribute : name ∈ b.attributes.map (·.key)
  · obtain ⟨a, ha, rfl⟩ := List.mem_map.mp hattribute
    have hrole : a.key ∉ bodies.flatMap Body.types := by
      intro hmem
      obtain ⟨d, hd, hmem⟩ := List.mem_flatMap.mp hmem
      exact hbodies.unmixed [] b hb d hd a ha hmem
    rw [Value.entry_of_lookup (lookup_bodyEntries_attribute hkeys hapart ha), Role.of, if_neg hrole]
    exact Role.suits_text _
  · rw [entry_bodyEntries_of_notMem hapart (by simp [Body.names, hattribute, htype])]
    exact Role.suits_null _

/-- The blocks of a type fit the shape that they are converted to. -/
theorem Composed.fits (h : Composed bodies) (hb : b ∈ bodies) (lines? : Option Text.LineIndex) (type : String) :
    Inferred (siblingsShape lines? b type) ∧
      ∀ c ∈ b.siblings type, Fits (siblingsShape lines? b type) (bodyValue lines? c) := by
  obtain ⟨hlaid, hfits⟩ := fits_siblingsShape fun c hc =>
    suits_bodyValue lines? c (h.allSiblings type) (List.mem_flatMap.mpr ⟨b, hb, hc⟩)
  exact ⟨hlaid.inferred, hfits⟩

/-- The objects of a type in the value of a body. -/
theorem Composed.entry (h : Composed bodies) (hb : b ∈ bodies) (lines? : Option Text.LineIndex) {type : String}
    (htype : type ∈ b.types) : Value.entry (bodyEntries lines? b) type =
      .array ((b.siblings type).map fun c => (siblingsShape lines? b type).convert (bodyValue lines? c)) := by
  rw [← siblingsValue_eq]
  exact Value.entry_of_lookup (lookup_bodyEntries_type (h.keysApart b hb) (h.apart hb) htype)

/-- The value of a body tells all of it. -/
theorem mirrors_bodyValue (lines? : Option Text.LineIndex) (b : Body) : ∀ {bodies : List Body}, Composed bodies →
    b ∈ bodies → Mirrors b (bodyValue lines? b) := by
  induction b using Body.induction with
  | h b ih =>
  intro bodies hbodies hb
  have hapart := hbodies.apart hb
  have hkeys := hbodies.keysApart b hb
  have hbelow : ∀ type, ∀ c ∈ b.siblings type, c ∈ Body.allSiblings bodies type := fun type c hc =>
    List.mem_flatMap.mpr ⟨b, hb, hc⟩
  refine .object (fun a ha => lookup_bodyEntries_attribute hkeys hapart ha) (fun type htype => ?_) (fun type htype => ?_)
    (fun type htype c hc name hname row hrow => ?_) fun e he hname => ?_
  · exact ⟨_, siblingsValue_eq lines? b type ▸ lookup_bodyEntries_type hkeys hapart htype⟩
  · rw [hbodies.entry hb lines? htype, Value.items, List.forall₂_map_right_iff, List.forall₂_same]
    intro c hc
    exact (ih type c hc (hbodies.allSiblings type) (hbelow type c hc)).convert c ((hbodies.fits hb lines? type).2 c hc)
  · -- The object of `c` fits the shape that all of them are converted to, which therefore has its names.
    rw [hbodies.entry hb lines? htype, Value.items] at hrow
    obtain ⟨d, hd, hconvert⟩ := List.mem_map.mp hrow
    have hfits := (hbodies.fits hb lines? type).2
    obtain ⟨fields, -, hshape, -, -, -, hnames⟩ := (hfits d hd).convert_eq_object hconvert
    have hfit := hfits c hc
    rw [hshape] at hfit
    cases hfit with
    | object _ _ hknown _ =>
      have hapart := (hbodies.allSiblings type).apart (hbelow type c hc)
      rw [hnames]
      exact hknown (keys_bodyEntries lines? hapart ▸ hname)
  · exact absurd (keys_bodyEntries lines? hapart ▸ List.mem_map_of_mem he) hname

/-! ### Same names everywhere -/

/-- A value that fits a shape and has been converted to it. -/
structure Settled (s : Shape) (v : Value) : Prop where
  fits : Fits s v
  converted : s.convert v = v

/-- The shape of the items of the array under a name. -/
def elementAt (name : String) : Shape → Shape
  | .object fields =>
    match field fields name with
    | .list t => t
    | _ => .dynamic
  | _ => .dynamic

theorem Settled.itemsAt (h : Settled s v) {name : String} {w : Value} (hw : w ∈ v.itemsAt name) :
    Settled (elementAt name s) w := by
  obtain ⟨hfits, hconverted⟩ := h
  cases hfits with
  | null | text | list => simp [Value.itemsAt] at hw
  | @object fields entries hfields hentries hknown hfits =>
    rw [convert_object fields hentries, Value.object.injEq] at hconverted
    have hentry := entry_filled fields entries name
    have hfit := hfits name
    rw [hconverted] at hentry
    rw [Value.itemsAt] at hw
    rw [elementAt]
    generalize field fields name = t at hentry hfit
    generalize Value.entry entries name = u at hentry hfit hw
    cases hfit with
    | null | text | object => simp [Value.items] at hw
    | @list t items hfit =>
      rw [Shape.convert, Value.array.injEq] at hentry
      have hsame : items.map t.convert = items.map id := hentry.symm.trans (List.map_id items).symm
      exact ⟨hfit w hw, List.map_inj_left.mp hsame w hw⟩

/-- What a path leads to from settled values of one shape has the same names in the same order. -/
theorem names_eq_of_settled (path : List String) {items : List Value} (h : ∀ v ∈ items, Settled s v)
    {row row' : List (String × Value)} (hrow : .object row ∈ Value.descend path items)
    (hrow' : .object row' ∈ Value.descend path items) : row.map Prod.fst = row'.map Prod.fst := by
  induction path generalizing s items with
  | nil =>
    obtain ⟨fields, -, hshape, -, -, -, hnames⟩ := (h _ hrow).fits.convert_eq_object (h _ hrow).converted
    obtain ⟨fields', -, hshape', -, -, -, hnames'⟩ := (h _ hrow').fits.convert_eq_object (h _ hrow').converted
    rw [hshape, Shape.object.injEq] at hshape'
    rw [hnames, hnames', hshape']
  | cons name path ih =>
    refine ih (s := elementAt name s) (fun w hw => ?_) hrow hrow'
    obtain ⟨v, hv, hw⟩ := List.mem_flatMap.mp hw
    exact (h v hv).itemsAt hw

theorem Composed.settled (h : Composed bodies) (hb : b ∈ bodies) (lines? : Option Text.LineIndex) {type : String}
    (htype : type ∈ b.types) :
    ∀ v ∈ (Value.entry (bodyEntries lines? b) type).items, Settled (siblingsShape lines? b type) v := by
  obtain ⟨hshape, hfits⟩ := h.fits hb lines? type
  rw [h.entry hb lines? htype, Value.items]
  intro v hv
  obtain ⟨c, hc, rfl⟩ := List.mem_map.mp hv
  exact ⟨(hfits c hc).convert, convert_convert hshape.keyed (hfits c hc).keyed⟩

/-! ### The value of a block -/

/-- A snapshot of a block that is no local, taken from its tree. -/
structure Snapshot.Pictures (s : Snapshot) (b : Body) : Prop where
  kind : s.kind ≠ .local
  attributes : s.attributes = attributesOf b
  nested : ∃ lines?, s.nested = NestedBlock.ofBody lines? b

theorem Snapshot.pictures_ofBlock {kind : BlockKind} (h : kind ≠ .local) (q : Block) (fileName : String)
    (origin : Origin) (lines : Text.LineIndex) : (ofBlock kind q fileName origin lines).Pictures q.body :=
  ⟨h, rfl, some lines, rfl⟩

theorem Snapshot.pictures_refreshBlock {s : Snapshot} (h : s.kind ≠ .local) (q : Block) :
    (s.refreshBlock q).Pictures q.body :=
  ⟨h, rfl, none, rfl⟩

theorem Snapshot.localValue?_eq_none {s : Snapshot} (h : s.kind ≠ .local) : s.localValue? = none := by
  unfold localValue?
  split
  · exact absurd ‹_› h
  · rfl

theorem Snapshot.value_of_pictures {s : Snapshot} (h : s.Pictures b) (hname : "mptf" ∉ b.names)
    (hapart : ∀ a ∈ b.attributes, a.key ∉ b.types) :
    ∃ lines?, s.value = .object (bodyEntries lines? b ++ [("mptf", s.metadata)]) := by
  obtain ⟨hkind, hattributes, lines?, hnested⟩ := h
  refine ⟨lines?, ?_⟩
  rw [Snapshot.value, localValue?_eq_none hkind, hattributes, hnested]
  exact congrArg Value.object (insertEntry_of_notMem (keys_bodyEntries lines? hapart ▸ hname) _)

/-- The entries of a body tell all of it, and below each of its types all objects at the end of a path have the same
names. -/
theorem mirrors_bodyEntries (lines? : Option Text.LineIndex) (hkeys : b.KeysApart) (hunmixed : Body.Unmixed [b]) :
    (bodyEntries lines? b).map Prod.fst = b.names ∧ Mirrors b (.object (bodyEntries lines? b)) ∧
      ∀ type ∈ b.types, ∀ path row row',
        .object row ∈ Value.descend path (Value.entry (bodyEntries lines? b) type).items →
        .object row' ∈ Value.descend path (Value.entry (bodyEntries lines? b) type).items →
        row.map Prod.fst = row'.map Prod.fst := by
  have hcomposed : Composed [b] := ⟨hunmixed, by simpa using hkeys⟩
  have hb : b ∈ [b] := List.mem_singleton_self b
  refine ⟨keys_bodyEntries lines? (hcomposed.apart hb), mirrors_bodyValue lines? b hcomposed hb, ?_⟩
  intro type htype path row row' hrow hrow'
  exact names_eq_of_settled path (hcomposed.settled hb lines? htype) hrow hrow'

/-- The value of a block. In a block where no name stands for attributes and for blocks at one place, and that has
neither under the name `mptf`, it tells all of the block, with the attributes first and then the types of blocks, and
`mptf` as its last entry. All objects that a path of names leads to below one of the types have the same names in the
same order. -/
theorem Snapshot.value_mirrors {s : Snapshot} (hs : s.Pictures b) (hkeys : b.KeysApart)
    (hunmixed : Body.Unmixed [b]) (hmptf : "mptf" ∉ b.names) :
    ∃ entries, s.value = .object (entries ++ [("mptf", s.metadata)]) ∧ entries.map Prod.fst = b.names ∧
      Mirrors b (.object entries) ∧
      ∀ type ∈ b.types, ∀ path row row',
        .object row ∈ Value.descend path (Value.entry entries type).items →
        .object row' ∈ Value.descend path (Value.entry entries type).items →
        row.map Prod.fst = row'.map Prod.fst := by
  obtain ⟨lines?, hvalue⟩ := Snapshot.value_of_pictures hs hmptf (hunmixed [] b (List.mem_singleton_self b) b
    (List.mem_singleton_self b))
  exact ⟨bodyEntries lines? b, hvalue, mirrors_bodyEntries lines? hkeys hunmixed⟩

/-- Rules with different attributes and different blocks in them, one of them dynamic. -/
def rulesText : String :=
  "resource \"a\" \"b\" \x7b\n  size = 1\n\n  rule \x7b\n    port = 22\n    from \x7b\n      name = \"x\"\n    \x7d\n  \x7d\n\n" ++
  "  dynamic \"rule\" \x7b\n    for_each = var.rules\n    content \x7b\n      text = rule.value\n    \x7d\n  \x7d\n\n" ++
  "  rule \x7b\n    from \x7b\n      size = null\n    \x7d\n  \x7d\n\x7d\n"

/-- The rules as they are read from a file. -/
theorem Snapshot.value_mirrors_rules : ∃ file q s, parse? rulesText = some file ∧ q ∈ file.blocks ∧
    s = Snapshot.ofBlock .resource q "main.tf" default (.ofText rulesText) ∧ s.Pictures q.body ∧
    q.body.KeysApart ∧ Body.Unmixed [q.body] ∧ "mptf" ∉ q.body.names ∧
    ∃ entries, s.value = .object (entries ++ [("mptf", s.metadata)]) ∧ entries.map Prod.fst = ["size", "rule"] ∧
      Mirrors q.body (.object entries) ∧
      ∀ type ∈ q.body.types, ∀ path row row',
        .object row ∈ Value.descend path (Value.entry entries type).items →
        .object row' ∈ Value.descend path (Value.entry entries type).items →
        row.map Prod.fst = row'.map Prod.fst := by
  have hread : (parse? rulesText).any (fun file => file.blocks.any fun q =>
      Body.unmixedWithin 3 [q.body] && q.body.names = ["size", "rule"]) = true := by
    -- the characters are given: to read them off the bytes of the text takes longer than to parse them
    have hchars : rulesText.toList = _ := String.toList_append.trans (congrArg₂ (· ++ ·)
      (String.toList_append.trans (congrArg₂ (· ++ ·) String.toList_ofList String.toList_ofList)) String.toList_ofList)
    rw [parse?, hchars]
    decide +kernel
  simp only [Option.any_eq_true, List.any_eq_true, Bool.and_eq_true, decide_eq_true_eq] at hread
  obtain ⟨file, hfile, q, hq, hunmixed, hnames⟩ := hread
  have hkeys : q.body.KeysApart :=
    keysApart_block.mp ((Body.keysApart_iff.mp (keysApart_of_parse? hfile)).2 _ (Body.mem_blocks.mp hq))
  have hunmixed := Body.unmixed_of_within hunmixed
  have hmptf : "mptf" ∉ q.body.names := by simp [hnames]
  have hpictures : (ofBlock .resource q "main.tf" default (.ofText rulesText)).Pictures q.body :=
    pictures_ofBlock (by decide) q "main.tf" default (.ofText rulesText)
  obtain ⟨entries, hvalue, hentries, hmirrors, hsame⟩ := value_mirrors hpictures hkeys hunmixed hmptf
  exact ⟨file, q, _, hfile, hq, rfl, hpictures, hkeys, hunmixed, hmptf, entries, hvalue, hentries.trans hnames,
    hmirrors, hsame⟩

end Terrasmith
