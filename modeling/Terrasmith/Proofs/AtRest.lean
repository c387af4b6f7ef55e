import Terrasmith.Proofs.Conversion

/-!
The values at rest under a shape are those that conversion leaves as they are. They are told by the values themselves:
no part of them is a primitive that could still be converted, and every object begins with the fields of its shape in
their order. Whatever a value is converted to is at rest.
-/
namespace Terrasmith

namespace Shape

mutual

/-- Nothing in a value is left to convert. -/
def AtRest : Shape → Value → Prop
  | .string, .number _ => False
  | .string, .bool _ => False
  | .number, .string text => Number.ofText? text = none
  | .bool, .string text => text ≠ "true" ∧ text ≠ "false"
  | .list element, .array items => ∀ v ∈ items, AtRest element v
  | .set element, .array items => ∀ v ∈ items, AtRest element v
  | .tuple elements, .array items => TupleAtRest elements items
  | .map element, .object entries => ∀ e ∈ entries, AtRest element e.2
  | .object fields, .object entries => fields.map Prod.fst <+: entries.map Prod.fst ∧ FieldsAtRest fields entries
  | _, _ => True

/-- The items are at rest, each under its own shape; those beyond the tuple always are. -/
def TupleAtRest : List Shape → List Value → Prop
  | shape :: shapes, v :: rest => AtRest shape v ∧ TupleAtRest shapes rest
  | _, _ => True

/-- The entries of the fields are at rest. -/
def FieldsAtRest : Fields → List (String × Value) → Prop
  | [], _ => True
  | (name, shape, _) :: rest, entries => AtRest shape (Value.entry entries name) ∧ FieldsAtRest rest entries

end

variable {s : Shape} {fields : Fields} {v : Value} {entries : List (String × Value)}

theorem map_eq_self_iff {α : Type} {f : α → α} {items : List α} : items.map f = items ↔ ∀ a ∈ items, f a = a := by
  simpa using List.map_inj_left (l := items) (f := f) (g := id)

theorem fieldsAtRest_iff : FieldsAtRest fields entries ↔ ∀ f ∈ fields, f.2.1.AtRest (Value.entry entries f.1) := by
  induction fields with
  | nil => simp [FieldsAtRest]
  | cons f rest ih => rw [FieldsAtRest, ih, List.forall_mem_cons]

theorem together_eq_right {names others : List String} (hothers : others.Nodup) :
    together names others = others ↔ names <+: others := by
  constructor
  · exact fun h => ⟨_, h⟩
  · rintro ⟨more, rfl⟩
    have hmore : more.filter (· ∉ names) = more := List.filter_eq_self.mpr fun name hname => by
      simpa using fun hmem => (List.nodup_append.mp hothers).2.2 name hmem name hname rfl
    rw [together_append, together_of_subset (List.Subset.refl names), hmore]

/-- An object is filled exactly if its first keys are the fields and conversion leaves their entries. -/
theorem filled_eq_self_iff (hfields : (fields.map Prod.fst).Nodup) (hentries : (entries.map Prod.fst).Nodup) :
    filled fields entries = entries ↔ fields.map Prod.fst <+: entries.map Prod.fst ∧
      ∀ f ∈ fields, f.2.1.convert (Value.entry entries f.1) = Value.entry entries f.1 := by
  constructor
  · intro h
    refine ⟨(together_eq_right hentries).mp (by rw [← keys_filled, h]), fun f hf => ?_⟩
    have hentry := entry_filled fields entries f.1
    rw [h, field_of_mem hfields hf] at hentry
    exact hentry.symm
  · rintro ⟨hleading, hrest⟩
    have hkeys : (filled fields entries).map Prod.fst = entries.map Prod.fst := by
      rw [keys_filled, (together_eq_right hentries).mpr hleading]
    refine ext_entry (nodup_keys_filled hfields hentries) hkeys fun key => ?_
    rw [entry_filled]
    by_cases hkey : key ∈ fields.map Prod.fst
    · obtain ⟨f, hf, rfl⟩ := List.mem_map.mp hkey
      rw [field_of_mem hfields hf]
      exact hrest f hf
    · rw [field_of_notMem hkey, convert_dynamic]

theorem convertTuple_eq_self_iff {shapes : List Shape}
    (h : ∀ s ∈ shapes, ∀ v : Value, v.Keyed → (s.convert v = v ↔ s.AtRest v)) (items : List Value)
    (hitems : ∀ v ∈ items, v.Keyed) : convertTuple shapes items = items ↔ TupleAtRest shapes items := by
  induction shapes generalizing items with
  | nil => simp [convertTuple, TupleAtRest]
  | cons s shapes ih =>
    cases items with
    | nil => simp [convertTuple, TupleAtRest]
    | cons v rest =>
      rw [List.forall_mem_cons] at h hitems
      rw [convertTuple, TupleAtRest, List.cons.injEq, h.1 v hitems.1, ih h.2 rest hitems.2]

/-- Conversion leaves exactly the values at rest. -/
theorem convert_eq_self_iff (hs : Keyed s) (hv : v.Keyed) : s.convert v = v ↔ s.AtRest v := by
  induction hs generalizing v with
  | dynamic => simp [AtRest]
  | bool =>
    cases v with
    | string text =>
      rw [convert, AtRest]
      split
      · simp_all
      · split <;> simp_all
    | _ => simp [convert, AtRest]
  | number =>
    cases v with
    | string text =>
      rw [convert, AtRest]
      split <;> simp_all
    | _ => simp [convert, AtRest]
  | string => cases v <;> simp [convert, AtRest]
  | list _ ih | set _ ih =>
    cases v with
    | array items =>
      rw [Value.keyed_array] at hv
      rw [convert, AtRest, Value.array.injEq, map_eq_self_iff]
      exact forall₂_congr fun v hmem => ih (hv v hmem)
    | _ => simp [convert, AtRest]
  | map _ ih =>
    cases v with
    | object entries =>
      rw [Value.keyed_object] at hv
      rw [convert, AtRest, Value.object.injEq, map_eq_self_iff]
      exact forall₂_congr fun e hmem => by rw [← ih (hv.2 e hmem), Prod.ext_iff, and_iff_right rfl]
    | _ => simp [convert, AtRest]
  | tuple _ ih =>
    cases v with
    | array items =>
      rw [Value.keyed_array] at hv
      rw [convert, AtRest, Value.array.injEq, convertTuple_eq_self_iff (fun s hs v hv => ih s hs hv) items hv]
    | _ => simp [convert, AtRest]
  | object hnodup _ ih =>
    cases v with
    | object entries =>
      have hkeys := (Value.keyed_object.mp hv).1
      rw [convert_object _ hkeys, AtRest, Value.object.injEq, filled_eq_self_iff hnodup hkeys, fieldsAtRest_iff]
      exact and_congr_right fun _ => forall₂_congr fun f hf => ih f hf (Value.keyed_entry hv f.1)
    | _ => simp [convert, AtRest]

theorem keyed_convertTuple {shapes : List Shape} (h : ∀ s ∈ shapes, ∀ v : Value, v.Keyed → (s.convert v).Keyed)
    (items : List Value) (hitems : ∀ v ∈ items, v.Keyed) : ∀ v ∈ convertTuple shapes items, v.Keyed := by
  induction shapes generalizing items with
  | nil => simpa [convertTuple] using hitems
  | cons s shapes ih =>
    cases items with
    | nil => simp [convertTuple]
    | cons v rest =>
      rw [List.forall_mem_cons] at h hitems
      rw [convertTuple, List.forall_mem_cons]
      exact ⟨h.1 v hitems.1, ih h.2 rest hitems.2⟩

/-- Conversion makes no key appear twice. -/
theorem keyed_convert (hs : Keyed s) (hv : v.Keyed) : (s.convert v).Keyed := by
  induction hs generalizing v with
  | dynamic => simpa using hv
  | bool =>
    cases v with
    | string text =>
      rw [convert]
      split
      · exact Value.keyed_bool _
      · split
        · exact Value.keyed_bool _
        · exact hv
    | _ => exact hv
  | number =>
    cases v with
    | string text =>
      rw [convert]
      split
      · exact Value.keyed_number _
      · exact hv
    | _ => exact hv
  | string => cases v <;> exact hv
  | list _ ih | set _ ih =>
    cases v with
    | array items =>
      rw [Value.keyed_array] at hv
      rw [convert, Value.keyed_array, List.forall_mem_map]
      exact fun v hmem => ih (hv v hmem)
    | _ => exact hv
  | map _ ih =>
    cases v with
    | object entries =>
      rw [Value.keyed_object] at hv
      rw [convert, Value.keyed_object, List.map_map, List.forall_mem_map]
      exact ⟨hv.1, fun e hmem => ih (hv.2 e hmem)⟩
    | _ => exact hv
  | tuple _ ih =>
    cases v with
    | array items =>
      rw [Value.keyed_array] at hv
      rw [convert, Value.keyed_array]
      exact keyed_convertTuple (fun s hs v hv => ih s hs hv) items hv
    | _ => exact hv
  | @object fields hnodup _ ih =>
    cases v with
    | object entries =>
      have hkeys := (Value.keyed_object.mp hv).1
      have hfilled := nodup_keys_filled hnodup hkeys
      rw [convert_object _ hkeys, Value.keyed_object]
      refine ⟨hfilled, fun e he => ?_⟩
      have hentry : e.2 = (field fields e.1).convert (Value.entry entries e.1) := by
        rw [← entry_filled, Value.entry, lookup_of_mem hfilled he, Option.getD_some]
      rw [hentry]
      exact forall_field (p := fun s => (s.convert _).Keyed) (fun f hf => ih f hf (Value.keyed_entry hv e.1))
        (by simpa using Value.keyed_entry hv e.1) e.1
    | _ => exact hv

/-- Converting a value again changes nothing, the order of keys included, whatever the shape and the value are made
of: after the first time everything in it is at rest, and exactly such values are left as they are. -/
theorem convert_idempotent (hs : Keyed s) (hv : v.Keyed) :
    s.convert (s.convert v) = s.convert v ∧ s.AtRest (s.convert v) ∧ (s.convert v = v ↔ s.AtRest v) := by
  have htwice := convert_convert hs hv
  exact ⟨htwice, (convert_eq_self_iff hs (keyed_convert hs hv)).mp htwice, convert_eq_self_iff hs hv⟩

/-- A tuple with an item too many, a map, a set of objects, texts that convert and one that does not, a field that is
missing, and a key that the shape does not know and that comes first. -/
theorem convert_idempotent_nested :
    let s := Shape.object [("name", .string, false), ("sizes", .tuple [.number, .bool], false),
      ("tags", .map .string, true), ("rules", .set (.object [("port", .number, false), ("open", .bool, true)]), true)]
    let v := Value.object [("note", .number (.int 1)), ("tags", .object [("b", .bool true), ("a", .null)]),
      ("rules", .array [.object [("open", .string "true"), ("port", .string "80")], .null]),
      ("sizes", .array [.string "many", .string "false", .number (.int 3)])]
    (Keyed s ∧ v.Keyed ∧ ¬ s.AtRest v) ∧
      s.convert (s.convert v) = s.convert v ∧ s.AtRest (s.convert v) ∧ (s.convert v = v ↔ s.AtRest v) := by
  intro s v
  have hrule : Keyed (.object [("port", .number, false), ("open", .bool, true)]) :=
    .object (by decide) (by simp [Keyed.number, Keyed.bool])
  have hs : Keyed s :=
    .object (by decide) (by simp [Keyed.string, Keyed.tuple, Keyed.number, Keyed.bool, Keyed.map, Keyed.set, hrule])
  have hv : v.Keyed := by simp [v]
  have hmoved : ¬ s.AtRest v := by simp [s, v, AtRest]
  exact ⟨⟨hs, hv, hmoved⟩, convert_idempotent hs hv⟩

end Shape

end Terrasmith
