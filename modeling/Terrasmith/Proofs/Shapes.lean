import Mathlib.Data.List.Induction
import Terrasmith.Proofs.Keys
import Terrasmith.Value.Shape

/-!
Shapes, name by name. An object shape is its names in order, the shape under each name and a mark on the names that may
be missing; a shape that is no object is known from its kind and its elements. What unification does to these parts is
said here once. A name that an object lacks counts as dynamic, and an entry that a value lacks as null, so both
operations act alike on all names.
-/
namespace Terrasmith

/-- The value under a key, null for a key that is missing. -/
def Value.entry (entries : List (String × Value)) (key : String) : Value :=
  (entries.lookup key).getD .null

theorem Value.keyed_entry {entries : List (String × Value)} (h : (Value.object entries).Keyed) (key : String) :
    (entry entries key).Keyed := by
  cases hlookup : entries.lookup key with
  | none => simp [entry, hlookup]
  | some v => simpa [entry, hlookup] using keyed_of_lookup h hlookup

/-! ### Lists of names -/

/-- Names followed by those others that are not among them. -/
def together (names others : List String) : List String :=
  names ++ others.filter (· ∉ names)

section Names

variable {name : String} {names others more : List String}

@[simp] theorem mem_together : name ∈ together names others ↔ name ∈ names ∨ name ∈ others := by
  by_cases h : name ∈ names <;> simp [together, h]

theorem nodup_together (hnames : names.Nodup) (hothers : others.Nodup) : (together names others).Nodup := by
  rw [together, List.nodup_append]
  refine ⟨hnames, hothers.filter _, fun a ha b hb heq => ?_⟩
  subst heq
  simpa [ha] using (List.mem_filter.mp hb).2

theorem together_of_subset (h : others ⊆ names) : together names others = names := by
  have hnone : others.filter (· ∉ names) = [] := List.filter_eq_nil_iff.mpr fun name hname => by simpa using h hname
  rw [together, hnone, List.append_nil]

/-- Names that are there already do not count. -/
theorem together_append (names others more : List String) :
    together names (others ++ more) = together names others ++ more.filter (· ∉ names) := by
  rw [together, together, List.filter_append, List.append_assoc]

theorem together_together : together names (together names others) = together names others := by
  rw [together.eq_def names others, together_append, together_of_subset (List.Subset.refl names), List.filter_filter]
  simp only [Bool.and_self]

theorem together_distrib :
    together (together names others) (together names more) = together names (together others more) := by
  rw [together.eq_def names more, together_append,
    together_of_subset fun name h => mem_together.mpr (.inl h), together.eq_def others more, together_append,
    List.filter_filter, List.filter_filter]
  congr 1
  refine List.filter_congr fun name _ => ?_
  simp only [mem_together]
  by_cases h : name ∈ names <;> simp [h]

theorem eraseDups_of_nodup (h : names.Nodup) : names.eraseDups = names := by
  induction names with
  | nil => rfl
  | cons name rest ih =>
    rw [List.nodup_cons] at h
    have hrest : rest.filter (fun other => !other == name) = rest :=
      List.filter_eq_self.mpr fun other hother => by
        have hne : other ≠ name := fun heq => h.1 (heq ▸ hother)
        simpa using hne
    rw [List.eraseDups_cons, hrest, ih h.2]

/-- The first appearances in a list and a list without repeats behind it. -/
theorem eraseDups_append_of_nodup (names : List String) (hothers : others.Nodup) :
    (names ++ others).eraseDups = together names.eraseDups others := by
  rw [List.eraseDups_append, List.removeAll, eraseDups_of_nodup (hothers.filter _), together]
  congr 1
  exact List.filter_congr fun name _ => by simp

theorem eraseDups_concat (names : List String) (name : String) :
    (names ++ [name]).eraseDups = if name ∈ names then names.eraseDups else names.eraseDups ++ [name] := by
  rw [eraseDups_append_of_nodup names (List.nodup_singleton name), together]
  by_cases h : name ∈ names <;> simp [List.mem_eraseDups, h]

theorem nodup_eraseDups (names : List String) : names.eraseDups.Nodup := by
  induction names using List.reverseRecOn with
  | nil => simp
  | append_singleton names name ih =>
    rw [eraseDups_append_of_nodup names (List.nodup_singleton name)]
    exact nodup_together ih (List.nodup_singleton name)

/-- Items that are added one after the other to what stands under their keys: the keys in the order of their first
appearance, each with what its items come to. -/
theorem foldl_insertEntry_eq_map {α β : Type} (key : α → String) (gather : List α → β) (add : Option β → α → β)
    (items : List α)
    (hadd : ∀ before a, before ++ [a] <+: items →
      add (if key a ∈ before.map key then some (gather (before.filter fun b => key b = key a)) else none) a =
        gather ((before.filter fun b => key b = key a) ++ [a])) :
    items.foldl (fun done a => insertEntry (key a) (add (done.lookup (key a)) a) done) [] =
      (items.map key).eraseDups.map fun k => (k, gather (items.filter fun a => key a = k)) := by
  induction items using List.reverseRecOn with
  | nil => rfl
  | append_singleton before a ih =>
    have hkeys (items : List α) : ((items.map key).eraseDups.map fun k =>
        (k, gather (items.filter fun a => key a = k))).map Prod.fst = (items.map key).eraseDups := by
      rw [List.map_map]
      exact List.map_id _
    rw [List.foldl_append, ih fun earlier b hb => hadd earlier b (hb.trans (List.prefix_append _ _)), List.foldl_cons,
      List.foldl_nil, lookup_map_keys fun k => gather (before.filter fun b => key b = k)]
    simp only [List.mem_eraseDups]
    rw [hadd before a (List.prefix_refl _)]
    have hnodup := (hkeys before).symm ▸ nodup_eraseDups (before.map key)
    refine ext_lookup (nodup_keys_insertEntry hnodup ..) ?_ fun k _ => ?_
    · rw [keys_insertEntry, hkeys, hkeys, List.map_append, List.map_singleton, eraseDups_concat]
      simp only [List.mem_eraseDups]
    · rw [lookup_map_keys fun k => gather ((before ++ [a]).filter fun b => key b = k)]
      by_cases hk : k = key a
      · subst hk
        simp [lookup_insertEntry_self, List.mem_eraseDups, List.filter_append]
      · rw [lookup_insertEntry_of_ne hk, lookup_map_keys fun k => gather (before.filter fun b => key b = k)]
        simp [List.mem_eraseDups, List.filter_append, hk, Ne.symm hk]

end Names

namespace Shape

/-- The fields of an object shape. -/
abbrev Fields := List (String × Shape × Bool)

variable {e s t : Shape} {fields others : Fields} {entries : List (String × Value)} {key : String}

/-- The shape under a name, dynamic for a name that is missing. -/
def field (fields : Fields) (key : String) : Shape :=
  ((fields.lookup key).map Prod.fst).getD .dynamic

theorem field_of_lookup {optional : Bool} (h : fields.lookup key = some (s, optional)) : field fields key = s := by
  simp [field, h]

theorem field_of_notMem (h : key ∉ fields.map Prod.fst) : field fields key = .dynamic := by
  simp [field, lookup_eq_none_iff_notMem.mpr h]

theorem field_of_mem (hnodup : (fields.map Prod.fst).Nodup) {f : String × Shape × Bool} (hf : f ∈ fields) :
    field fields f.1 = f.2.1 :=
  field_of_lookup (lookup_of_mem hnodup hf)

/-- The test for missing names is the one on the list of names. -/
theorem isNone_lookup (fields : Fields) (key : String) :
    (fields.lookup key).isNone = decide (key ∉ fields.map Prod.fst) := by
  rw [Bool.eq_iff_iff, Option.isNone_iff_eq_none, lookup_eq_none_iff_notMem, decide_eq_true_iff]

/-! ### Kinds -/

/-- What a shape is made of, its elements apart. -/
inductive Kind where
  | unknown
  | primitive
  | list
  | set
  | map
  | tuple
  | object
  deriving DecidableEq

def kind : Shape → Kind
  | .dynamic => .unknown
  | .bool | .number | .string => .primitive
  | .list _ => .list
  | .set _ => .set
  | .map _ => .map
  | .tuple _ => .tuple
  | .object _ => .object

theorem kind_eq_unknown : s.kind = .unknown ↔ s = .dynamic := by
  cases s <;> simp [kind]

/-! ### Unification -/

@[simp] theorem dynamic_unify (s : Shape) : unify .dynamic s = s := rfl

@[simp] theorem unify_dynamic (s : Shape) : unify s .dynamic = s := by
  cases s <;> rfl

/-- Shapes of two kinds conflict: the first stays. -/
theorem unify_of_kind_ne (hs : s.kind ≠ .unknown) (h : s.kind ≠ t.kind) : unify s t = s := by
  cases s <;> cases t <;> simp_all [unify, kind]

theorem unify_of_primitive (h : s.kind = .primitive) (t : Shape) : unify s t = s := by
  cases s <;> simp_all [unify, kind]

/-- Shapes of one kind unify to that kind. -/
theorem kind_unify (h : s.kind = t.kind) : (unify s t).kind = s.kind := by
  cases s <;> cases t <;> simp_all [unify, kind]

theorem unifyAll_eq_foldl (shapes : List Shape) : unifyAll shapes = shapes.foldl unify .dynamic := by
  cases shapes <;> simp [unifyAll]

/-- The fields of two objects together: those of the first, then those that only the second has. -/
def union (fields others : Fields) : Fields :=
  unifyFields fields others ++ missingFields fields others

theorem unify_object (fields others : Fields) : unify (.object fields) (.object others) = .object (union fields others) := by
  simp [unify, union]

theorem keys_unifyFields (fields others : Fields) :
    (unifyFields fields others).map Prod.fst = fields.map Prod.fst := by
  induction fields with
  | nil => simp [unifyFields]
  | cons f rest ih =>
    obtain ⟨name, s, optional⟩ := f
    rw [unifyFields, List.map_cons, ih]
    cases others.lookup name <;> rfl

theorem keys_union (fields others : Fields) :
    (union fields others).map Prod.fst = together (fields.map Prod.fst) (others.map Prod.fst) := by
  have hmissing : (missingFields fields others).map Prod.fst =
      (others.map Prod.fst).filter (· ∉ fields.map Prod.fst) := by
    rw [missingFields, List.map_map, List.filter_map]
    congr 1
    exact List.filter_congr fun f _ => isNone_lookup fields f.1
  rw [union, List.map_append, keys_unifyFields, hmissing, together]

theorem mem_keys_union : key ∈ (union fields others).map Prod.fst ↔
    key ∈ fields.map Prod.fst ∨ key ∈ others.map Prod.fst := by
  rw [keys_union, mem_together]

theorem nodup_keys_union (hfields : (fields.map Prod.fst).Nodup) (hothers : (others.map Prod.fst).Nodup) :
    ((union fields others).map Prod.fst).Nodup := by
  rw [keys_union]
  exact nodup_together hfields hothers

/-- What the union holds under a name: the unification of what both hold, and the mark where one marks it or lacks it. -/
theorem lookup_union (fields others : Fields) (key : String) : (union fields others).lookup key =
    ((fields.lookup key).map fun f =>
      (others.lookup key).elim (f.1, true) fun f' => (unify f.1 f'.1, f.2 || f'.2)).or
    ((others.lookup key).map fun f' => (f'.1, true)) := by
  have hunified : (unifyFields fields others).lookup key = (fields.lookup key).map fun f =>
      (others.lookup key).elim (f.1, true) fun f' => (unify f.1 f'.1, f.2 || f'.2) := by
    induction fields with
    | nil => simp [unifyFields]
    | cons f rest ih =>
      obtain ⟨name, s, optional⟩ := f
      rw [unifyFields, List.lookup_cons]
      by_cases hname : key = name
      · subst hname
        cases others.lookup key <;> simp
      · have hne : (key == name) = false := beq_eq_false_iff_ne.mpr hname
        cases others.lookup name <;> simpa [List.lookup_cons, hne] using ih
  have hmissing : (missingFields fields others).lookup key =
      if (fields.lookup key).isNone then (others.lookup key).map fun f' => (f'.1, true) else none := by
    have hmap := lookup_map_snd (fun _ (f : Shape × Bool) => (f.1, true)) key
      (others.filter fun f => (fields.lookup f.1).isNone)
    rw [lookup_filter_fst fun name => (fields.lookup name).isNone] at hmap
    refine hmap.trans ?_
    split <;> rfl
  rw [union, List.lookup_append, hunified, hmissing]
  cases fields.lookup key <;> simp

theorem field_union (fields others : Fields) (key : String) :
    field (union fields others) key = unify (field fields key) (field others key) := by
  rw [field, lookup_union, field, field]
  cases fields.lookup key <;> cases others.lookup key <;> simp

/-! ### The shape of a value -/

theorem ofItems_eq_map (items : List Value) : ofItems items = items.map of := by
  induction items with
  | nil => rfl
  | cons v rest ih => exact congrArg (of v :: ·) ih

theorem ofEntries_eq_map (entries : List (String × Value)) :
    ofEntries entries = entries.map fun e => (e.1, of e.2, false) := by
  induction entries with
  | nil => rfl
  | cons e rest ih => exact congrArg ((e.1, of e.2, false) :: ·) ih

theorem of_array (items : List Value) : of (.array items) = .list (unifyAll (items.map of)) :=
  congrArg (fun shapes => Shape.list (unifyAll shapes)) (ofItems_eq_map items)

theorem of_object (entries : List (String × Value)) : of (.object entries) = .object (ofEntries entries) := rfl

@[simp] theorem keys_ofEntries (entries : List (String × Value)) :
    (ofEntries entries).map Prod.fst = entries.map Prod.fst := by
  simp [ofEntries_eq_map]

theorem lookup_ofEntries (entries : List (String × Value)) (key : String) :
    (ofEntries entries).lookup key = (entries.lookup key).map fun v => (of v, false) := by
  rw [ofEntries_eq_map, lookup_map_snd fun _ v => (of v, false)]

theorem field_ofEntries (entries : List (String × Value)) (key : String) :
    field (ofEntries entries) key = of (Value.entry entries key) := by
  rw [field, lookup_ofEntries, Value.entry]
  cases entries.lookup key <;> simp [of]

/-! ### Conversion -/

@[simp] theorem convert_null (s : Shape) : s.convert .null = .null := by
  cases s <;> rfl

@[simp] theorem convert_dynamic (v : Value) : convert .dynamic v = v := by
  cases v <;> rfl

/-- An object with the fields of a shape: those in its order, then what the shape does not know. -/
def filled (fields : Fields) (entries : List (String × Value)) : List (String × Value) :=
  convertFields fields entries ++ unknownEntries fields entries

theorem convertFields_eq_map (fields : Fields) (entries : List (String × Value)) :
    convertFields fields entries = fields.map fun f => (f.1, f.2.1.convert (Value.entry entries f.1)) := by
  induction fields with
  | nil => simp [convertFields]
  | cons f rest ih => simp [convertFields, ih, Value.entry]

theorem keys_convertFields (fields : Fields) (entries : List (String × Value)) :
    (convertFields fields entries).map Prod.fst = fields.map Prod.fst := by
  simp [convertFields_eq_map]

theorem keys_unknownEntries (fields : Fields) (entries : List (String × Value)) :
    (unknownEntries fields entries).map Prod.fst = (entries.map Prod.fst).filter (· ∉ fields.map Prod.fst) := by
  rw [unknownEntries, List.filter_map]
  congr 1
  exact List.filter_congr fun e _ => isNone_lookup fields e.1

theorem keys_filled (fields : Fields) (entries : List (String × Value)) :
    (filled fields entries).map Prod.fst = together (fields.map Prod.fst) (entries.map Prod.fst) := by
  rw [filled, List.map_append, keys_convertFields, keys_unknownEntries, together]

theorem nodup_keys_filled (hfields : (fields.map Prod.fst).Nodup) (hentries : (entries.map Prod.fst).Nodup) :
    ((filled fields entries).map Prod.fst).Nodup := by
  rw [keys_filled]
  exact nodup_together hfields hentries

theorem convert_object (fields : Fields) (hentries : (entries.map Prod.fst).Nodup) :
    convert (.object fields) (.object entries) = .object (filled fields entries) := by
  rw [convert, insertEntries_of_disjoint, filled]
  · rw [keys_unknownEntries]
    exact hentries.filter _
  · rw [keys_unknownEntries, keys_convertFields]
    exact fun key hkey => by simpa using (List.mem_filter.mp hkey).2

theorem lookup_convertFields (fields : Fields) (entries : List (String × Value)) (key : String) :
    (convertFields fields entries).lookup key =
      (fields.lookup key).map fun f => f.1.convert (Value.entry entries key) := by
  rw [convertFields_eq_map]
  exact lookup_map_snd (fun name f => f.1.convert (Value.entry entries name)) key fields

theorem lookup_filled_of_mem {optional : Bool} (h : fields.lookup key = some (s, optional))
    (entries : List (String × Value)) :
    (filled fields entries).lookup key = some (s.convert (Value.entry entries key)) := by
  rw [filled, List.lookup_append, lookup_convertFields, h]
  rfl

theorem lookup_filled_of_notMem (h : key ∉ fields.map Prod.fst) (entries : List (String × Value)) :
    (filled fields entries).lookup key = entries.lookup key := by
  have hnone := lookup_eq_none_iff_notMem.mpr h
  rw [filled, List.lookup_append, lookup_convertFields, hnone, unknownEntries,
    lookup_filter_fst fun name => (fields.lookup name).isNone, hnone]
  rfl

/-- Conversion acts alike on all keys. -/
theorem entry_filled (fields : Fields) (entries : List (String × Value)) (key : String) :
    Value.entry (filled fields entries) key = (field fields key).convert (Value.entry entries key) := by
  cases h : fields.lookup key with
  | none =>
    have hmem := lookup_eq_none_iff_notMem.mp h
    rw [Value.entry, lookup_filled_of_notMem hmem, field_of_notMem hmem, convert_dynamic, Value.entry]
  | some f => rw [Value.entry, lookup_filled_of_mem h, field_of_lookup h, Option.getD_some]

/-- Objects are equal that have the same distinct keys in order and the same value under each. -/
theorem ext_entry {entries entries' : List (String × Value)} (hnodup : (entries.map Prod.fst).Nodup)
    (hkeys : entries.map Prod.fst = entries'.map Prod.fst)
    (h : ∀ key, Value.entry entries key = Value.entry entries' key) : entries = entries' := by
  refine ext_lookup hnodup hkeys fun key hkey => ?_
  have hkey' := hkeys ▸ hkey
  obtain ⟨v, hv⟩ := Option.ne_none_iff_exists'.mp fun hnone => lookup_eq_none_iff_notMem.mp hnone hkey
  obtain ⟨v', hv'⟩ := Option.ne_none_iff_exists'.mp fun hnone => lookup_eq_none_iff_notMem.mp hnone hkey'
  have hentry := h key
  rw [Value.entry, hv, Value.entry, hv', Option.getD_some, Option.getD_some] at hentry
  rw [hv, hv', hentry]

end Shape

end Terrasmith
