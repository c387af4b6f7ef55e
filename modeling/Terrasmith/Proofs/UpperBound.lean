import Terrasmith.Proofs.Conversion

/-!
Upper bounds. Unification is not associative and sides with its first argument, so that a fold of it is an upper bound
does not come from lattice laws. It rests on an invariant of one step. The unified shape extends what was there
(`Extends`): it goes on where that was unknown, and for an object it keeps the fields in front and in order, extends
each of them and keeps the marks on those that may be missing. Whatever a shape has taken up (`Covers`), a shape that
extends it has too.
-/
namespace Terrasmith

namespace Shape

/-! ### Marks -/

/-- Whether a name may be missing, as a name that an object lacks is. -/
def optional (fields : Fields) (key : String) : Bool :=
  ((fields.lookup key).map Prod.snd).getD true

variable {s t u : Shape} {fields others : Fields} {shapes : List Shape}

theorem optional_union (fields others : Fields) (key : String) :
    optional (union fields others) key = (optional fields key || optional others key) := by
  rw [optional, lookup_union, optional, optional]
  cases fields.lookup key <;> cases others.lookup key <;> simp

/-- Objects are equal that have the same distinct names in order, with the same shape and the same mark under each. -/
theorem ext_field (hnodup : (fields.map Prod.fst).Nodup) (hkeys : fields.map Prod.fst = others.map Prod.fst)
    (hfield : ∀ key, field fields key = field others key)
    (hoptional : ∀ key, optional fields key = optional others key) : fields = others := by
  refine ext_lookup hnodup hkeys fun key hkey => ?_
  obtain ⟨f, hf⟩ := Option.ne_none_iff_exists'.mp fun hnone => lookup_eq_none_iff_notMem.mp hnone hkey
  obtain ⟨f', hf'⟩ := Option.ne_none_iff_exists'.mp fun hnone => lookup_eq_none_iff_notMem.mp hnone (hkeys ▸ hkey)
  have hshape := hfield key
  have hmark := hoptional key
  simp only [field, optional, hf, hf', Option.map_some, Option.getD_some] at hshape hmark
  rw [hf, hf', Prod.ext hshape hmark]

/-! ### What a shape has taken up -/

/-- A shape that has taken up another one: unification with it changes nothing, the order of fields included. -/
def Covers (s t : Shape) : Prop := unify s t = s

/-- An object has taken up another one name by name. -/
theorem covers_object (hnodup : (fields.map Prod.fst).Nodup) :
    Covers (.object fields) (.object others) ↔ others.map Prod.fst ⊆ fields.map Prod.fst ∧
      ∀ key, Covers (field fields key) (field others key) ∧ (optional others key → optional fields key) := by
  rw [Covers, unify_object, Shape.object.injEq]
  constructor
  · intro h
    refine ⟨fun key hkey => h ▸ mem_keys_union.mpr (.inr hkey), fun key => ⟨?_, fun hmark => ?_⟩⟩
    · rw [Covers, ← field_union, h]
    · rw [← h, optional_union, hmark, Bool.or_true]
  · rintro ⟨hsubset, h⟩
    have hkeys : (union fields others).map Prod.fst = fields.map Prod.fst := by
      rw [keys_union, together_of_subset hsubset]
    refine ext_field (hkeys ▸ hnodup) hkeys (fun key => ?_) fun key => ?_
    · rw [field_union, (h key).1]
    · rw [optional_union, Bool.or_eq_left_iff_imp.mpr (h key).2]

theorem covers_dynamic (s : Shape) : Covers s .dynamic :=
  unify_dynamic s

theorem dynamic_covers : Covers .dynamic t ↔ t = .dynamic := by
  rw [Covers, dynamic_unify]

/-- A conflict changes nothing. -/
theorem covers_of_kind_ne (hs : s.kind ≠ .unknown) (h : s.kind ≠ t.kind) : Covers s t :=
  unify_of_kind_ne hs h

theorem covers_of_primitive (h : s.kind = .primitive) (t : Shape) : Covers s t :=
  unify_of_primitive h t

/-- The elements of tuples are not unified. -/
theorem tuple_covers (shapes : List Shape) (t : Shape) : Covers (.tuple shapes) t := by
  cases t <;> simp [Covers, unify]

theorem Keyed.covers_self (h : Keyed s) : Covers s s := by
  induction h with
  | dynamic => exact covers_dynamic _
  | bool | number | string => exact covers_of_primitive rfl _
  | list _ ih | set _ ih | map _ ih =>
    unfold Covers at ih ⊢
    rw [Shape.unify, ih]
  | tuple => exact tuple_covers _ _
  | object hnodup _ ih =>
    exact (covers_object hnodup).mpr
      ⟨fun _ => id, fun key => ⟨forall_field (p := fun s => Covers s s) ih (covers_dynamic _) key, id⟩⟩

/-- The course of a unification. The first shape gives way where it is unknown. It stays as it is in a conflict, and
where nothing is unified. Otherwise the parts of both are unified, those of objects name by name. -/
inductive Meets : Shape → Shape → Prop where
  | unknown {t : Shape} (ht : Keyed t) : Meets .dynamic t
  | kept {s t : Shape} (hs : Keyed s) (h : Covers s t) : Meets s t
  | list {s t : Shape} (h : Meets s t) : Meets (.list s) (.list t)
  | set {s t : Shape} (h : Meets s t) : Meets (.set s) (.set t)
  | map {s t : Shape} (h : Meets s t) : Meets (.map s) (.map t)
  | object {fields others : Fields} (hfields : (fields.map Prod.fst).Nodup) (hothers : (others.map Prod.fst).Nodup)
      (h : ∀ key, Meets (field fields key) (field others key)) : Meets (.object fields) (.object others)

theorem Keyed.meets (hs : Keyed s) (ht : Keyed t) : Meets s t := by
  induction hs generalizing t with
  | dynamic => exact .unknown ht
  | bool => exact .kept .bool (covers_of_primitive rfl t)
  | number => exact .kept .number (covers_of_primitive rfl t)
  | string => exact .kept .string (covers_of_primitive rfl t)
  | list hs ih =>
    cases ht with
    | list ht => exact .list (ih ht)
    | _ => exact .kept (.list hs) (covers_of_kind_ne (by simp [kind]) (by simp [kind]))
  | set hs ih =>
    cases ht with
    | set ht => exact .set (ih ht)
    | _ => exact .kept (.set hs) (covers_of_kind_ne (by simp [kind]) (by simp [kind]))
  | map hs ih =>
    cases ht with
    | map ht => exact .map (ih ht)
    | _ => exact .kept (.map hs) (covers_of_kind_ne (by simp [kind]) (by simp [kind]))
  | @tuple shapes hs => exact .kept (.tuple hs) (tuple_covers shapes t)
  | @object fields hfields h ih =>
    cases ht with
    | @object others hothers h' =>
      refine .object hfields hothers fun key => ?_
      exact forall_field (p := fun s => ∀ {t}, Keyed t → Meets s t) (fun f hf _ ht => ih f hf ht) .unknown key
        (forall_field h' .dynamic key)
    | _ => exact .kept (.object hfields h) (covers_of_kind_ne (by simp [kind]) (by simp [kind]))

theorem Meets.keyed_unify (h : Meets s t) : Keyed (s.unify t) := by
  induction h with
  | unknown ht => rwa [dynamic_unify]
  | kept hs h => rwa [h]
  | list _ ih =>
    rw [Shape.unify]
    exact .list ih
  | set _ ih =>
    rw [Shape.unify]
    exact .set ih
  | map _ ih =>
    rw [Shape.unify]
    exact .map ih
  | object hfields hothers _ ih =>
    have hunion := nodup_keys_union hfields hothers
    rw [unify_object]
    refine .object hunion fun f hf => ?_
    rw [← field_of_mem hunion hf, field_union]
    exact ih f.1

/-- Unification takes up its second argument. -/
theorem Meets.unify_covers (h : Meets s t) : Covers (s.unify t) t := by
  induction h with
  | unknown ht =>
    rw [dynamic_unify]
    exact ht.covers_self
  | kept _ h => rwa [h]
  | list _ ih | set _ ih | map _ ih =>
    unfold Covers at ih ⊢
    rw [Shape.unify, Shape.unify, ih]
  | object hfields hothers _ ih =>
    rw [unify_object, covers_object (nodup_keys_union hfields hothers)]
    refine ⟨fun key hkey => mem_keys_union.mpr (.inr hkey), fun key => ⟨?_, fun hmark => ?_⟩⟩
    · rw [field_union]
      exact ih key
    · rw [optional_union, hmark, Bool.or_true]

/-! ### What is kept -/

/-- A shape that goes on where another one stops, and keeps all that this one says. -/
inductive Extends : Shape → Shape → Prop where
  | dynamic (s : Shape) : Extends .dynamic s
  | bool : Extends .bool .bool
  | number : Extends .number .number
  | string : Extends .string .string
  | tuple (shapes : List Shape) : Extends (.tuple shapes) (.tuple shapes)
  | list {s t : Shape} (h : Extends s t) : Extends (.list s) (.list t)
  | set {s t : Shape} (h : Extends s t) : Extends (.set s) (.set t)
  | map {s t : Shape} (h : Extends s t) : Extends (.map s) (.map t)
  | object {fields others : Fields} (hnodup : (others.map Prod.fst).Nodup)
      (hkeys : fields.map Prod.fst <+: others.map Prod.fst)
      (hfield : ∀ key, Extends (field fields key) (field others key))
      (hoptional : ∀ key, optional fields key → optional others key) : Extends (.object fields) (.object others)

theorem Extends.refl (h : Keyed s) : Extends s s := by
  induction h with
  | dynamic => exact .dynamic _
  | bool => exact .bool
  | number => exact .number
  | string => exact .string
  | list _ ih => exact .list ih
  | set _ ih => exact .set ih
  | map _ ih => exact .map ih
  | tuple => exact .tuple _
  | object hnodup _ ih =>
    exact .object hnodup (List.prefix_refl _) (forall_field (p := fun s => Extends s s) ih (.dynamic _)) fun _ => id

theorem Extends.trans (h : Extends s t) (h' : Extends t u) : Extends s u := by
  induction h generalizing u with
  | dynamic => exact .dynamic u
  | bool | number | string | tuple => exact h'
  | list _ ih =>
    cases h' with
    | list h' => exact .list (ih h')
  | set _ ih =>
    cases h' with
    | set h' => exact .set (ih h')
  | map _ ih =>
    cases h' with
    | map h' => exact .map (ih h')
  | object hnodup hkeys hfield hoptional ih =>
    cases h' with
    | object hnodup' hkeys' hfield' hoptional' =>
      exact .object hnodup' (hkeys.trans hkeys') (fun key => ih key (hfield' key))
        fun key hmark => hoptional' key (hoptional key hmark)

/-- The step of the fold. -/
theorem Meets.extends_unify (h : Meets s t) : Extends s (s.unify t) := by
  induction h with
  | unknown => exact .dynamic _
  | kept hs h =>
    rw [h]
    exact .refl hs
  | list _ ih =>
    rw [Shape.unify]
    exact .list ih
  | set _ ih =>
    rw [Shape.unify]
    exact .set ih
  | map _ ih =>
    rw [Shape.unify]
    exact .map ih
  | object hfields hothers _ ih =>
    rw [unify_object]
    refine .object (nodup_keys_union hfields hothers) ?_ (fun key => ?_) fun key hmark => ?_
    · rw [keys_union]
      exact List.prefix_append _ _
    · rw [field_union]
      exact ih key
    · rw [optional_union, hmark, Bool.true_or]

/-- The invariant: what has been taken up stays taken up. -/
theorem Covers.mono (h : Covers s u) (hextends : Extends s t) : Covers t u := by
  induction hextends generalizing u with
  | dynamic => exact dynamic_covers.mp h ▸ covers_dynamic _
  | bool | number | string | tuple => exact h
  | list _ ih | set _ ih | map _ ih =>
    unfold Covers at h ih ⊢
    cases u <;> simp_all [Shape.unify]
  | @object fields others hnodup hkeys hfield hoptional ih =>
    cases u with
    | object more =>
      rw [covers_object (hnodup.sublist (hkeys.sublist))] at h
      rw [covers_object hnodup]
      exact ⟨List.Subset.trans h.1 hkeys.subset,
        fun key => ⟨ih key (h.2 key).1, fun hmark => hoptional key ((h.2 key).2 hmark)⟩⟩
    | dynamic => exact covers_dynamic _
    | _ => exact covers_of_kind_ne (by simp [kind]) (by simp [kind])

/-! ### The fold -/

theorem Keyed.unifyAll (h : ∀ s ∈ shapes, Keyed s) : Keyed (unifyAll shapes) := by
  rw [unifyAll_eq_foldl]
  exact List.foldlRecOn shapes Shape.unify .dynamic fun s hs t ht => (hs.meets (h t ht)).keyed_unify

theorem unifyAll_append (shapes later : List Shape) :
    unifyAll (shapes ++ later) = later.foldl Shape.unify (unifyAll shapes) := by
  rw [unifyAll_eq_foldl, unifyAll_eq_foldl, List.foldl_append]

/-- The unified shape of the first members stays within that of all. -/
theorem extends_unifyAll_append {later : List Shape} (h : ∀ s ∈ shapes, Keyed s) (hlater : ∀ s ∈ later, Keyed s) :
    Extends (unifyAll shapes) (unifyAll (shapes ++ later)) := by
  rw [unifyAll_append]
  refine (List.foldlRecOn later Shape.unify (motive := fun s => Keyed s ∧ Extends (Shape.unifyAll shapes) s)
    ⟨.unifyAll h, .refl (.unifyAll h)⟩ fun s hs t ht => ?_).2
  have hmeets := hs.1.meets (hlater t ht)
  exact ⟨hmeets.keyed_unify, hs.2.trans hmeets.extends_unify⟩

/-- A shape is an upper bound of others that were unified to it from the left. It has taken up each of them and itself,
and what a part of the fold came to is kept by the rest: no field is lost, moved or given another type, and no mark
cleared. -/
structure UpperBound (shapes : List Shape) (bound : Shape) : Prop where
  covers : ∀ s ∈ shapes, unify bound s = bound
  idempotent : unify bound bound = bound
  keeps : ∀ earlier later, shapes = earlier ++ later → Extends (unifyAll earlier) bound

/-- Folding unification over any shapes gives an upper bound of them. -/
theorem unifyAll_upperBound (h : ∀ s ∈ shapes, Keyed s) : UpperBound shapes (unifyAll shapes) where
  covers s hs := by
    obtain ⟨earlier, later, rfl⟩ := List.append_of_mem hs
    rw [List.append_cons] at h ⊢
    rw [List.forall_mem_append] at h
    have hstep : Covers (unifyAll (earlier ++ [s])) s := by
      rw [List.forall_mem_append, List.forall_mem_singleton] at h
      rw [unifyAll_append, List.foldl_cons, List.foldl_nil]
      exact ((Keyed.unifyAll h.1.1).meets h.1.2).unify_covers
    exact hstep.mono (extends_unifyAll_append h.1 h.2)
  idempotent := (Keyed.unifyAll h).covers_self
  keeps := by
    rintro earlier later rfl
    rw [List.forall_mem_append] at h
    exact extends_unifyAll_append h.1 h.2

/-- Conflicts, tuples of two lengths, fields that are missing, and unknown parts that are known later. -/
theorem unifyAll_upperBound_mixed :
    let shapes := [.dynamic, .object [("ports", .list .dynamic, false), ("pair", .tuple [.object [], .string], false)],
      .string, .object [("tags", .set (.map .number), true), ("ports", .list (.object [("to", .bool, false)]), false)],
      .object [("pair", .tuple [.number], false), ("tags", .set (.map .dynamic), false)]]
    (∀ s ∈ shapes, Keyed s) ∧ UpperBound shapes (.object [("ports", .list (.object [("to", .bool, false)]), true),
      ("pair", .tuple [.object [], .string], true), ("tags", .set (.map .number), true)]) := by
  intro shapes
  have hkeyed : ∀ s ∈ shapes, Keyed s := by
    repeat' first | rw [List.forall_mem_cons] | (simp; done) | constructor
  have hunified : unifyAll shapes = .object [("ports", .list (.object [("to", .bool, false)]), true),
      ("pair", .tuple [.object [], .string], true), ("tags", .set (.map .number), true)] := by
    simp [shapes, unifyAll, unify, unifyFields, missingFields, List.lookup_cons]
  exact ⟨hkeyed, hunified ▸ unifyAll_upperBound hkeyed⟩

end Shape

end Terrasmith
