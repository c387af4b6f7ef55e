import Terrasmith.Proofs.Shapes

/-!
Conversion to a common shape. Converting twice is converting once. The shape that is inferred from converted values
need not be the one they were converted to, for conflicts resolve differently among them, but it converts alike
(`Converted`). Hence siblings that have been made alike stay as they are when this is done again.
-/
namespace Terrasmith

namespace Shape

/-- Every object in the shape has every name once. -/
inductive Keyed : Shape → Prop where
  | dynamic : Keyed .dynamic
  | bool : Keyed .bool
  | number : Keyed .number
  | string : Keyed .string
  | list {s : Shape} (h : Keyed s) : Keyed (.list s)
  | set {s : Shape} (h : Keyed s) : Keyed (.set s)
  | map {s : Shape} (h : Keyed s) : Keyed (.map s)
  | tuple {shapes : List Shape} (h : ∀ s ∈ shapes, Keyed s) : Keyed (.tuple shapes)
  | object {fields : Fields} (hnodup : (fields.map Prod.fst).Nodup) (h : ∀ f ∈ fields, Keyed f.2.1) :
    Keyed (.object fields)

/-- The shapes that are inferred from values: no sets, no maps and no tuples, and every name once. -/
inductive Inferred : Shape → Prop where
  | dynamic : Inferred .dynamic
  | bool : Inferred .bool
  | number : Inferred .number
  | string : Inferred .string
  | list {s : Shape} (h : Inferred s) : Inferred (.list s)
  | object {fields : Fields} (hnodup : (fields.map Prod.fst).Nodup) (h : ∀ key, Inferred (field fields key)) :
    Inferred (.object fields)

/-- Two shapes convert alike to a shape: the second is the shape of what a value of the first is converted to. What is
null or of another kind is kept; of two primitives nothing is said but that one of the wanted shape stays. -/
inductive Converted : Shape → Shape → Shape → Prop where
  | kept {e t : Shape} (h : t = .dynamic ∨ e.kind ≠ t.kind) : Converted e t t
  | primitive {e t t' : Shape} (he : e.kind = .primitive) (ht : t.kind = .primitive) (ht' : t'.kind = .primitive)
      (h : t = e → t' = e) : Converted e t t'
  | list {e t t' : Shape} (h : Converted e t t') : Converted (.list e) (.list t) (.list t')
  | object {fields others others' : Fields} (hfields : (fields.map Prod.fst).Nodup)
      (hothers : (others.map Prod.fst).Nodup)
      (hkeys : others'.map Prod.fst = together (fields.map Prod.fst) (others.map Prod.fst))
      (h : ∀ key, Converted (field fields key) (field others key) (field others' key)) :
    Converted (.object fields) (.object others) (.object others')

variable {e s t t' u u' : Shape} {fields others : Fields} {v : Value}

/-- What holds of the shapes of the fields and of a missing one holds under every name. -/
theorem forall_field {p : Shape → Prop} (h : ∀ f ∈ fields, p f.2.1) (hmissing : p .dynamic) (key : String) :
    p (field fields key) := by
  cases hlookup : fields.lookup key with
  | none => simpa [field, hlookup] using hmissing
  | some f => exact field_of_lookup hlookup ▸ h _ (mem_of_lookup hlookup)

/-! ### Inferred shapes -/

theorem Inferred.unify (hs : Inferred s) (ht : Inferred t) : Inferred (s.unify t) := by
  induction hs generalizing t with
  | dynamic => simpa using ht
  | bool | number | string =>
    rw [unify_of_primitive rfl]
    constructor
  | list h ih =>
    cases ht with
    | list ht =>
      rw [Shape.unify]
      exact .list (ih ht)
    | dynamic => simpa using .list h
    | _ =>
      rw [unify_of_kind_ne (by simp [kind]) (by simp [kind])]
      exact .list h
  | object hnodup h ih =>
    cases ht with
    | object hnodup' h' =>
      rw [unify_object]
      exact .object (nodup_keys_union hnodup hnodup') fun key => field_union _ _ key ▸ ih key (h' key)
    | dynamic => simpa using .object hnodup h
    | _ =>
      rw [unify_of_kind_ne (by simp [kind]) (by simp [kind])]
      exact .object hnodup h

theorem Inferred.unifyAll {shapes : List Shape} (h : ∀ s ∈ shapes, Inferred s) : Inferred (unifyAll shapes) := by
  rw [unifyAll_eq_foldl]
  exact List.foldlRecOn shapes Shape.unify .dynamic fun s hs t ht => hs.unify (h t ht)

mutual

theorem inferred_of : (v : Value) → v.Keyed → Inferred (of v)
  | .null, _ => by simpa [of] using Inferred.dynamic
  | .bool _, _ => by simpa [of] using Inferred.bool
  | .number _, _ => by simpa [of] using Inferred.number
  | .string _, _ => by simpa [of] using Inferred.string
  | .array items, h => by
    rw [of]
    exact .list (.unifyAll (inferred_ofItems items (Value.keyed_array.mp h)))
  | .object entries, h => by
    rw [Value.keyed_object] at h
    rw [of]
    exact .object (by simpa using h.1) (forall_field (inferred_ofEntries entries h.2) .dynamic)

theorem inferred_ofItems : (items : List Value) → (∀ v ∈ items, v.Keyed) → ∀ s ∈ ofItems items, Inferred s
  | [], _ => by simp [ofItems]
  | v :: rest, h => by
    rw [List.forall_mem_cons] at h
    rw [ofItems, List.forall_mem_cons]
    exact ⟨inferred_of v h.1, inferred_ofItems rest h.2⟩

theorem inferred_ofEntries : (entries : List (String × Value)) → (∀ e ∈ entries, e.2.Keyed) →
    ∀ f ∈ ofEntries entries, Inferred f.2.1
  | [], _ => by simp [ofEntries]
  | (_, v) :: rest, h => by
    rw [List.forall_mem_cons] at h
    rw [ofEntries, List.forall_mem_cons]
    exact ⟨inferred_of v h.1, inferred_ofEntries rest h.2⟩

end

theorem Inferred.keyed (h : Inferred s) : Keyed s := by
  induction h with
  | dynamic => exact .dynamic
  | bool => exact .bool
  | number => exact .number
  | string => exact .string
  | list _ ih => exact .list ih
  | object hnodup _ ih => exact .object hnodup fun f hf => field_of_mem hnodup hf ▸ ih f.1

/-! ### Converting twice -/

theorem convertTuple_convertTuple {shapes : List Shape}
    (h : ∀ s ∈ shapes, ∀ v : Value, v.Keyed → s.convert (s.convert v) = s.convert v) (items : List Value)
    (hitems : ∀ v ∈ items, v.Keyed) :
    convertTuple shapes (convertTuple shapes items) = convertTuple shapes items := by
  induction shapes generalizing items with
  | nil => simp [convertTuple]
  | cons s shapes ih =>
    cases items with
    | nil => simp [convertTuple]
    | cons v rest =>
      rw [List.forall_mem_cons] at h hitems
      rw [convertTuple, convertTuple, h.1 v hitems.1, ih h.2 rest hitems.2]

theorem convert_convert (hs : Keyed s) (hv : v.Keyed) : s.convert (s.convert v) = s.convert v := by
  induction hs generalizing v with
  | dynamic => simp
  | bool =>
    cases v with
    | string text =>
      rw [convert]
      split
      · simp [convert]
      · split <;> simp_all [convert]
    | _ => simp [convert]
  | number =>
    cases v with
    | string text =>
      rw [convert]
      split <;> simp_all [convert]
    | _ => simp [convert]
  | string => cases v <;> simp [convert]
  | list _ ih | set _ ih =>
    cases v with
    | array items =>
      rw [Value.keyed_array] at hv
      simp only [convert, List.map_map, Value.array.injEq]
      exact List.map_congr_left fun v hmem => ih (hv v hmem)
    | _ => simp [convert]
  | map _ ih =>
    cases v with
    | object entries =>
      rw [Value.keyed_object] at hv
      simp only [convert, List.map_map, Value.object.injEq]
      exact List.map_congr_left fun e hmem => congrArg (Prod.mk e.1) (ih (hv.2 e hmem))
    | _ => simp [convert]
  | tuple _ ih =>
    cases v with
    | array items =>
      rw [Value.keyed_array] at hv
      rw [convert, convert, convertTuple_convertTuple (fun s hs v hv => ih s hs hv) items hv]
    | _ => simp [convert]
  | @object fields hnodup _ ih =>
    cases v with
    | object entries =>
      have hkeyed := hv
      rw [Value.keyed_object] at hkeyed
      have hfilled := nodup_keys_filled hnodup hkeyed.1
      rw [convert_object fields hkeyed.1, convert_object fields hfilled, Value.object.injEq]
      have hkeys : (filled fields (filled fields entries)).map Prod.fst = (filled fields entries).map Prod.fst := by
        rw [keys_filled, keys_filled, together_together]
      refine ext_entry (nodup_keys_filled hnodup hfilled) hkeys fun key => ?_
      rw [entry_filled, entry_filled]
      exact forall_field (p := fun s => s.convert (s.convert _) = s.convert _)
        (fun f hf => ih f hf (Value.keyed_entry hv key)) (by simp) key
    | _ => simp [convert]

/-! ### Shapes that convert alike -/

theorem Converted.kind_eq (h : Converted e t t') : t'.kind = t.kind := by
  cases h with
  | primitive _ ht ht' _ => rw [ht, ht']
  | _ => rfl

/-- A shape of another kind is kept. -/
theorem Converted.eq_of_kind_ne (h : Converted e t t') (hne : e.kind ≠ t.kind) : t' = t := by
  cases h with
  | kept => rfl
  | primitive he ht => exact absurd (he.trans ht.symm) hne
  | list | object => exact absurd rfl hne

/-- Two shapes that convert alike take up others that do. -/
theorem Converted.unify (ht : Converted e t t') (hu : Converted e u u') : Converted e (t.unify u) (t'.unify u') := by
  induction ht generalizing u u' with
  | @kept e t h =>
    by_cases hdynamic : t = .dynamic
    · simpa [hdynamic] using hu
    have hne := h.resolve_left hdynamic
    have hunknown : t.kind ≠ .unknown := fun heq => hdynamic (kind_eq_unknown.mp heq)
    by_cases hkind : t.kind = u.kind
    · obtain rfl := hu.eq_of_kind_ne (hkind ▸ hne)
      exact .kept (.inr (kind_unify hkind ▸ hne))
    · rw [unify_of_kind_ne hunknown hkind, unify_of_kind_ne hunknown (hu.kind_eq ▸ hkind)]
      exact .kept h
  | primitive he ht ht' h =>
    rw [unify_of_primitive ht, unify_of_primitive ht']
    exact .primitive he ht ht' h
  | @list e t t' h ih =>
    cases hu with
    | list hu => simpa [Shape.unify] using .list (ih hu)
    | kept hu =>
      rcases hu with rfl | hne
      · simpa using .list h
      · rw [unify_of_kind_ne (by simp [kind]) (by exact hne), unify_of_kind_ne (by simp [kind]) (by exact hne)]
        exact .list h
    | primitive he => cases he
  | @object fields others others' hfields hothers hkeys h ih =>
    cases hu with
    | @object _ more more' _ hmore hkeys' h' =>
      rw [unify_object, unify_object]
      refine .object hfields (nodup_keys_union hothers hmore) ?_ fun key => ?_
      · rw [keys_union, keys_union, hkeys, hkeys', together_distrib]
      · rw [field_union, field_union]
        exact ih key (h' key)
    | kept hu =>
      rcases hu with rfl | hne
      · simpa using .object hfields hothers hkeys h
      · rw [unify_of_kind_ne (by simp [kind]) (by exact hne), unify_of_kind_ne (by simp [kind]) (by exact hne)]
        exact .object hfields hothers hkeys h
    | primitive he => cases he

theorem Converted.unifyAll {items : List Value} {f g : Value → Shape} (h : ∀ v ∈ items, Converted e (f v) (g v)) :
    Converted e (unifyAll (items.map f)) (unifyAll (items.map g)) := by
  have hfold : ∀ (rest : List Value) (t t' : Shape), (∀ v ∈ rest, Converted e (f v) (g v)) → Converted e t t' →
      Converted e ((rest.map f).foldl Shape.unify t) ((rest.map g).foldl Shape.unify t') := by
    intro rest
    induction rest with
    | nil => exact fun t t' _ ht => ht
    | cons v rest ih =>
      intro t t' hrest ht
      rw [List.forall_mem_cons] at hrest
      exact ih _ _ hrest.2 (ht.unify hrest.1)
  rw [unifyAll_eq_foldl, unifyAll_eq_foldl]
  exact hfold items .dynamic .dynamic h (.kept (.inl rfl))

/-- A value of another kind is kept. -/
theorem convert_of_kind_ne (he : Inferred e) (h : e.kind ≠ (of v).kind) : e.convert v = v := by
  cases he <;> cases v <;> simp_all [of, kind, convert]

/-- A primitive that is converted to a primitive shape stays a primitive. -/
theorem kind_of_convert (he : e.kind = .primitive) (hv : (of v).kind = .primitive) :
    (of (e.convert v)).kind = .primitive := by
  cases v with
  | string text =>
    cases e with
    | bool =>
      rw [convert]
      split
      · simp [of, kind]
      · split <;> simp [of, kind]
    | number =>
      rw [convert]
      split <;> simp [of, kind]
    | _ => simp_all [of, kind, convert]
  | _ => cases e <;> simp_all [of, kind, convert]

theorem convert_of_primitive (he : e.kind = .primitive) (h : of v = e) : e.convert v = v := by
  subst h
  cases v <;> simp_all [of, kind, convert]

/-- The shapes of a value and of what it is converted to convert alike. -/
theorem converted_of (he : Inferred e) (hv : v.Keyed) : Converted e (of v) (of (e.convert v)) := by
  induction he generalizing v with
  | dynamic =>
    rw [convert_dynamic]
    exact .kept (by cases v <;> simp [of, kind])
  | bool | number | string =>
    by_cases hprimitive : (of v).kind = .primitive
    · exact .primitive rfl hprimitive (kind_of_convert rfl hprimitive) fun h => by rw [convert_of_primitive rfl h, h]
    · rw [convert_of_kind_ne (by constructor) (Ne.symm hprimitive)]
      exact .kept (.inr (Ne.symm hprimitive))
  | @list s hs ih =>
    by_cases hlist : (of v).kind = .list
    · obtain ⟨items, rfl⟩ : ∃ items, v = .array items := by cases v <;> simp_all [of, kind]
      rw [Value.keyed_array] at hv
      rw [convert, of_array, of_array, List.map_map]
      exact .list (.unifyAll fun v hmem => ih (hv v hmem))
    · rw [convert_of_kind_ne (.list hs) (Ne.symm hlist)]
      exact .kept (.inr (Ne.symm hlist))
  | @object fields hnodup hfields ih =>
    by_cases hobject : (of v).kind = .object
    · obtain ⟨entries, rfl⟩ : ∃ entries, v = .object entries := by cases v <;> simp_all [of, kind]
      have hkeys := (Value.keyed_object.mp hv).1
      rw [convert_object fields hkeys, of_object, of_object]
      refine .object hnodup (by simpa using hkeys) ?_ fun key => ?_
      · rw [keys_ofEntries, keys_ofEntries, keys_filled]
      · rw [field_ofEntries, field_ofEntries, entry_filled]
        exact ih key (Value.keyed_entry hv key)
    · rw [convert_of_kind_ne (.object hnodup hfields) (Ne.symm hobject)]
      exact .kept (.inr (Ne.symm hobject))

theorem convertFields_eq_map_keys (hnodup : (fields.map Prod.fst).Nodup) (entries : List (String × Value)) :
    convertFields fields entries =
      (fields.map Prod.fst).map fun key => (key, (field fields key).convert (Value.entry entries key)) := by
  rw [convertFields_eq_map, List.map_map]
  exact List.map_congr_left fun f hf => by rw [Function.comp, field_of_mem hnodup hf]

/-- A shape converts like one that it has been converted to. -/
theorem Converted.convert_eq (h : Converted e t t') (heq : t = e) (v : Value) : t'.convert v = e.convert v := by
  induction h generalizing v with
  | kept => rw [heq]
  | primitive _ _ _ h => rw [h heq]
  | list _ ih =>
    rw [Shape.list.injEq] at heq
    cases v with
    | array items =>
      simp only [convert, Value.array.injEq]
      exact List.map_congr_left fun v _ => ih heq v
    | _ => simp [convert]
  | @object fields others others' hfields hothers hkeys h ih =>
    rw [Shape.object.injEq] at heq
    subst heq
    rw [together_of_subset (List.Subset.refl _)] at hkeys
    cases v with
    | object entries =>
      have hunknown : unknownEntries others' entries = unknownEntries others entries :=
        List.filter_congr fun e _ => by
          obtain ⟨key, v⟩ := e
          dsimp only
          rw [isNone_lookup, isNone_lookup, hkeys]
      have hfields' : convertFields others' entries = convertFields others entries := by
        rw [convertFields_eq_map_keys (hkeys ▸ hothers), convertFields_eq_map_keys hothers, hkeys]
        exact List.map_congr_left fun key _ => by rw [ih key rfl]
      rw [convert, convert, hunknown, hfields']
    | _ => simp [convert]

/-! ### Siblings -/

/-- Siblings that have been made alike stay as they are. -/
theorem listOfObjects_stable {values : List Value} (h : ∀ v ∈ values, v.Keyed) {done : List Value}
    (hdone : listOfObjects values = .array done) : listOfObjects done = .array done := by
  rw [listOfObjects, Value.array.injEq] at hdone
  subst hdone
  have hinferred : Inferred (unifyAll (values.map of)) := .unifyAll fun s hs => by
    obtain ⟨v, hv, rfl⟩ := List.mem_map.mp hs
    exact inferred_of v (h v hv)
  have halike := Converted.unifyAll fun v hv => converted_of hinferred (h v hv)
  rw [listOfObjects, List.map_map, List.map_map, Value.array.injEq]
  refine List.map_congr_left fun v hv => ?_
  calc (unifyAll (values.map (of ∘ (unifyAll (values.map of)).convert))).convert ((unifyAll (values.map of)).convert v)
      = (unifyAll (values.map of)).convert ((unifyAll (values.map of)).convert v) := halike.convert_eq rfl _
    _ = (unifyAll (values.map of)).convert v := convert_convert hinferred.keyed (h v hv)

/-- The names of objects together, each where it first appears. -/
def allKeys (rows : List (List (String × Value))) : List String :=
  (rows.flatMap fun row => row.map Prod.fst).eraseDups

theorem mem_allKeys {rows : List (List (String × Value))} {key : String} :
    key ∈ allKeys rows ↔ ∃ row ∈ rows, key ∈ row.map Prod.fst := by
  rw [allKeys, List.mem_eraseDups, List.mem_flatMap]

theorem allKeys_concat (rows : List (List (String × Value))) {row : List (String × Value)}
    (h : (row.map Prod.fst).Nodup) : allKeys (rows ++ [row]) = together (allKeys rows) (row.map Prod.fst) := by
  rw [allKeys, allKeys, List.flatMap_append, List.flatMap_singleton, eraseDups_append_of_nodup _ h]

/-- A field is marked exactly if one of some objects lacks it. -/
def MarksMissing (fields : Fields) (rows : List (List (String × Value))) : Prop :=
  ∀ key s optional, fields.lookup key = some (s, optional) →
    (optional = true ↔ ∃ row ∈ rows, key ∉ row.map Prod.fst)

theorem marksMissing_ofEntries (row : List (String × Value)) : MarksMissing (ofEntries row) [row] := by
  intro key s optional hlookup
  have hmem : key ∈ (ofEntries row).map Prod.fst := List.mem_map_of_mem (f := Prod.fst) (mem_of_lookup hlookup)
  rw [keys_ofEntries] at hmem
  rw [lookup_ofEntries] at hlookup
  obtain ⟨v, -, hv⟩ := Option.map_eq_some_iff.mp hlookup
  cases hv
  simpa using hmem

theorem MarksMissing.union {rows : List (List (String × Value))} {row : List (String × Value)}
    (h : MarksMissing fields rows) (hrows : rows ≠ []) (hkeys : fields.map Prod.fst = allKeys rows) :
    MarksMissing (union fields (ofEntries row)) (rows ++ [row]) := by
  intro key s optional hlookup
  have hmore : (∃ other ∈ rows ++ [row], key ∉ other.map Prod.fst) ↔
      (∃ other ∈ rows, key ∉ other.map Prod.fst) ∨ key ∉ row.map Prod.fst := by
    simp only [List.mem_append, List.mem_singleton, or_and_right, exists_or, exists_eq_left]
  rw [hmore]
  rw [lookup_union, lookup_ofEntries] at hlookup
  cases hfield : fields.lookup key with
  | some f =>
    rw [hfield] at hlookup
    cases hrow : row.lookup key with
    | some v =>
      have hmem : key ∈ row.map Prod.fst := List.mem_map_of_mem (f := Prod.fst) (mem_of_lookup hrow)
      rw [hrow] at hlookup
      cases hlookup
      rw [Bool.or_false, h key _ _ hfield, or_iff_left (not_not.mpr hmem)]
    | none =>
      rw [hrow] at hlookup
      cases hlookup
      simpa using .inr (by simpa using lookup_eq_none_iff_notMem.mp hrow)
  | none =>
    rw [hfield] at hlookup
    obtain ⟨first, hfirst⟩ := List.exists_mem_of_ne_nil rows hrows
    have hlacks : key ∉ first.map Prod.fst := fun hmem =>
      lookup_eq_none_iff_notMem.mp hfield (hkeys ▸ mem_allKeys.mpr ⟨first, hfirst, hmem⟩)
    cases hrow : row.lookup key with
    | some v =>
      rw [hrow] at hlookup
      cases hlookup
      exact iff_of_true rfl (.inl ⟨first, hfirst, hlacks⟩)
    | none =>
      rw [hrow] at hlookup
      cases hlookup

/-- Objects unify to one that has all their names. -/
theorem exists_unifyAll_rows {rows : List (List (String × Value))} (hrows : rows ≠ [])
    (hnodup : ∀ row ∈ rows, (row.map Prod.fst).Nodup) :
    ∃ fields, unifyAll ((rows.map Value.object).map of) = .object fields ∧ fields.map Prod.fst = allKeys rows ∧
      (fields.map Prod.fst).Nodup ∧ MarksMissing fields rows := by
  induction rows using List.reverseRecOn with
  | nil => exact absurd rfl hrows
  | append_singleton rows row ih =>
    rw [List.forall_mem_append] at hnodup
    have hrow := hnodup.2 row (List.mem_singleton_self row)
    by_cases hempty : rows = []
    · subst hempty
      refine ⟨ofEntries row, by simp [unifyAll, of_object], ?_, by simpa using hrow, marksMissing_ofEntries row⟩
      simp [allKeys, eraseDups_of_nodup hrow]
    · obtain ⟨fields, hfields, hkeys, hdistinct, hmarks⟩ := ih hempty hnodup.1
      refine ⟨union fields (ofEntries row), ?_, ?_, nodup_keys_union hdistinct (by simpa using hrow),
        hmarks.union hempty hkeys⟩
      · rw [unifyAll_eq_foldl] at hfields ⊢
        rw [List.map_append, List.map_append, List.foldl_append, hfields]
        simp [of_object, unify_object]
      · rw [keys_union, keys_ofEntries, hkeys, allKeys_concat rows hrow]

/-- An object that has been made alike to its siblings: the fields of the unified shape in their order, each with the
own value converted to its shape, or null. -/
structure Fills (fields : Fields) (row done : List (String × Value)) : Prop where
  keys : done.map Prod.fst = fields.map Prod.fst
  values : ∀ f ∈ fields, done.lookup f.1 = some ((row.lookup f.1).elim .null f.2.1.convert)

theorem fills_filled (hfields : (fields.map Prod.fst).Nodup) {row : List (String × Value)}
    (hknown : row.map Prod.fst ⊆ fields.map Prod.fst) : Fills fields row (filled fields row) where
  keys := by rw [keys_filled, together_of_subset hknown]
  values f hf := by
    rw [lookup_filled_of_mem (lookup_of_mem hfields hf), Value.entry]
    cases row.lookup f.1 <;> simp

/-- Sibling objects that are made alike. Their shapes unify to one object shape, whose fields are all names in order of
first appearance, and optional where an object lacks the name. The results are as many objects with exactly these
fields, and they stay as they are when they are made alike again. -/
structure MadeAlike (rows : List (List (String × Value))) (fields : Fields) (done : List (List (String × Value))) :
    Prop where
  unified : unifyAll ((rows.map Value.object).map of) = .object fields
  names : fields.map Prod.fst = (rows.flatMap fun row => row.map Prod.fst).eraseDups
  optional : ∀ f ∈ fields, f.2.2 = true ↔ ∃ row ∈ rows, f.1 ∉ row.map Prod.fst
  result : listOfObjects (rows.map .object) = .array (done.map .object)
  fills : List.Forall₂ (Fills fields) rows done
  stable : listOfObjects (done.map .object) = .array (done.map .object)

/-- Any objects with arbitrary values can be made alike, as long as there is one. -/
theorem listOfObjects_makesAlike {rows : List (List (String × Value))} (hrows : rows ≠ [])
    (hkeyed : ∀ row ∈ rows, (Value.object row).Keyed) : ∃ fields done, MadeAlike rows fields done := by
  have hnodup : ∀ row ∈ rows, (row.map Prod.fst).Nodup := fun row hrow => (Value.keyed_object.mp (hkeyed row hrow)).1
  obtain ⟨fields, hfields, hkeys, hdistinct, hmarks⟩ := exists_unifyAll_rows hrows hnodup
  have hdone : listOfObjects (rows.map .object) = .array ((rows.map (filled fields)).map .object) := by
    rw [listOfObjects, hfields, Value.array.injEq, List.map_map, List.map_map]
    exact List.map_congr_left fun row hrow => convert_object fields (hnodup row hrow)
  refine ⟨fields, rows.map (filled fields), hfields, hkeys, fun f hf => ?_, hdone, ?_, ?_⟩
  · exact hmarks f.1 f.2.1 f.2.2 (lookup_of_mem hdistinct hf)
  · rw [List.forall₂_map_right_iff, List.forall₂_same]
    intro row hrow
    exact fills_filled hdistinct fun key hkey => hkeys ▸ mem_allKeys.mpr ⟨row, hrow, hkey⟩
  · exact listOfObjects_stable (by simpa using hkeyed) hdone

/-- Lists that hold nothing, nulls and objects, a number that is a text elsewhere, and names that are missing. -/
theorem listOfObjects_makesAlike_mixed :
    let rows := [[("size", Value.number (.int 1)), ("rules", .array [])],
      [("rules", .array [.null, .object [("port", .string "22")]]), ("size", .string "2"), ("tags", .null)]]
    (rows ≠ [] ∧ ∀ row ∈ rows, (Value.object row).Keyed) ∧ ∃ fields done, MadeAlike rows fields done := by
  intro rows
  have hrows : rows ≠ [] := List.cons_ne_nil _ _
  have hkeyed : ∀ row ∈ rows, (Value.object row).Keyed := by
    simp [rows, Value.Keyed, Value.EntriesKeyed, Value.AllKeyed, -Value.keyed_object, -Value.keyed_array]
  exact ⟨⟨hrows, hkeyed⟩, listOfObjects_makesAlike hrows hkeyed⟩

end Shape

end Terrasmith
