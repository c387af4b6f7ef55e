import Mathlib.Data.List.Nodup
import Terrasmith.Value.Basic

/-!
Ordered lists of entries: what is found under a key, and what writing and erasing an entry leave of the others. Where
the keys are distinct such a list is its keys in order together with what is found under them.
-/
namespace Terrasmith

section Entries

variable {α : Type} {key : String} {value : α} {entries before after : List (String × α)}

theorem lookup_eq_none_iff_notMem : entries.lookup key = none ↔ key ∉ entries.map Prod.fst := by
  rw [List.lookup_eq_none_iff, List.mem_map]
  constructor
  · rintro h ⟨e, he, rfl⟩
    simpa using h e he
  · intro h e he
    simpa using fun heq => h ⟨e, he, heq.symm⟩

/-- An entry that is found splits the entries. -/
theorem lookup_eq_some_split (h : entries.lookup key = some value) :
    ∃ before after, entries = before ++ (key, value) :: after ∧ key ∉ before.map Prod.fst := by
  obtain ⟨before, after, rfl, hne⟩ := List.lookup_eq_some_iff.mp h
  refine ⟨before, after, rfl, fun hmem => ?_⟩
  obtain ⟨e, he, rfl⟩ := List.mem_map.mp hmem
  simpa using hne e he

theorem mem_of_lookup (h : entries.lookup key = some value) : (key, value) ∈ entries := by
  obtain ⟨before, after, rfl, -⟩ := lookup_eq_some_split h
  simp

/-- Among entries of distinct keys each is the one that is found. -/
theorem lookup_of_mem (h : (entries.map Prod.fst).Nodup) (hmem : (key, value) ∈ entries) :
    entries.lookup key = some value := by
  obtain ⟨before, after, rfl⟩ := List.append_of_mem hmem
  rw [List.map_append, List.map_cons, List.nodup_append] at h
  refine List.lookup_eq_some_iff.mpr ⟨before, after, rfl, fun p hp => ?_⟩
  have hne := h.2.2 p.1 (List.mem_map_of_mem hp) key List.mem_cons_self
  simpa using Ne.symm hne

/-- Entries of distinct keys are known from the keys in order and what is found under each. -/
theorem ext_lookup {others : List (String × α)} (hnodup : (entries.map Prod.fst).Nodup)
    (hkeys : entries.map Prod.fst = others.map Prod.fst)
    (h : ∀ key ∈ entries.map Prod.fst, entries.lookup key = others.lookup key) : entries = others := by
  induction entries generalizing others with
  | nil => simpa using hkeys
  | cons e rest ih =>
    obtain ⟨k, v⟩ := e
    match others, hkeys with
    | (k', v') :: rest', hkeys =>
      rw [List.map_cons, List.map_cons, List.cons.injEq] at hkeys
      obtain ⟨rfl, hkeys⟩ := hkeys
      rw [List.map_cons, List.nodup_cons] at hnodup
      have hfirst := h k List.mem_cons_self
      rw [List.lookup_cons_self, List.lookup_cons_self, Option.some.injEq] at hfirst
      rw [hfirst, ih hnodup.2 hkeys fun key hkey => ?_]
      have hne : key ≠ k := fun heq => hnodup.1 (heq ▸ hkey)
      simpa [List.lookup_cons, beq_eq_false_iff_ne.mpr hne] using h key (List.mem_cons_of_mem k hkey)

theorem lookup_map_snd {α β : Type} (f : String → α → β) (key : String) (entries : List (String × α)) :
    (entries.map fun e => (e.1, f e.1 e.2)).lookup key = (entries.lookup key).map (f key) := by
  induction entries with
  | nil => rfl
  | cons e rest ih =>
    rw [List.map_cons, List.lookup_cons, List.lookup_cons]
    split
    · rename_i hkey
      rw [beq_iff_eq.mp hkey]
      rfl
    · exact ih

theorem lookup_filter_fst {α : Type} (keep : String → Bool) (key : String) (entries : List (String × α)) :
    (entries.filter fun e => keep e.1).lookup key = if keep key then entries.lookup key else none := by
  induction entries with
  | nil => simp
  | cons e rest ih =>
    obtain ⟨k, v⟩ := e
    rw [List.filter_cons]
    by_cases hkey : key = k
    · subst hkey
      by_cases hkeep : keep key = true
      · simp [hkeep]
      · simpa [hkeep] using ih
    · have hne : (key == k) = false := by simpa using hkey
      by_cases hkeep : keep k = true
      · simpa [hkeep, List.lookup_cons, hne] using ih
      · simpa [hkeep, List.lookup_cons, hne] using ih

theorem lookup_map_keys {α : Type} (f : String → α) (key : String) (keys : List String) :
    (keys.map fun k => (k, f k)).lookup key = if key ∈ keys then some (f key) else none := by
  induction keys with
  | nil => rfl
  | cons k rest ih =>
    by_cases h : key = k
    · subst h
      simp
    · have hne : (key == k) = false := beq_eq_false_iff_ne.mpr h
      simp [List.lookup_cons, hne, h, ih]

/-! Writing an entry -/

theorem keys_insertEntry (key : String) (value : α) (entries : List (String × α)) :
    (insertEntry key value entries).map (·.1) =
      if key ∈ entries.map (·.1) then entries.map (·.1) else entries.map (·.1) ++ [key] := by
  induction entries with
  | nil => simp
  | cons e rest ih =>
    obtain ⟨k, v⟩ := e
    by_cases hk : k = key
    · subst hk
      simp [insertEntry]
    · rw [insertEntry, if_neg hk, List.map_cons, ih]
      have hne : key ≠ k := fun h => hk h.symm
      by_cases hmem : key ∈ rest.map (·.1) <;> simp_all

theorem nodup_keys_insertEntry (h : (entries.map (·.1)).Nodup) (key : String) (value : α) :
    ((insertEntry key value entries).map (·.1)).Nodup := by
  rw [keys_insertEntry]
  split
  · exact h
  · rename_i hnew
    rw [List.nodup_append]
    exact ⟨h, List.nodup_singleton key, fun a ha b hb heq => hnew (by rw [List.mem_singleton] at hb; simp_all)⟩

theorem nodup_keys_insertEntries (h : (entries.map (·.1)).Nodup) (new : List (String × α)) :
    ((insertEntries entries new).map (·.1)).Nodup :=
  List.foldlRecOn (motive := fun done : List (String × α) => (done.map (·.1)).Nodup) new _ h
    fun _ hdone e _ => nodup_keys_insertEntry hdone e.1 e.2

theorem insertEntry_split (h : key ∉ before.map Prod.fst) (old new : α) :
    insertEntry key new (before ++ (key, old) :: after) = before ++ (key, new) :: after := by
  induction before with
  | nil => simp [insertEntry]
  | cons e rest ih =>
    obtain ⟨k, v⟩ := e
    simp only [List.map_cons, List.mem_cons, not_or] at h
    simp [insertEntry, Ne.symm h.1, ih h.2]

/-- An entry of a new key goes to the end. -/
theorem insertEntry_of_notMem (h : key ∉ entries.map Prod.fst) (new : α) :
    insertEntry key new entries = entries ++ [(key, new)] := by
  induction entries with
  | nil => rfl
  | cons e rest ih =>
    obtain ⟨k, v⟩ := e
    rw [List.map_cons, List.mem_cons, not_or] at h
    rw [insertEntry, if_neg (Ne.symm h.1), ih h.2, List.cons_append]

theorem insertEntry_of_lookup_eq_none (h : entries.lookup key = none) (new : α) :
    insertEntry key new entries = entries ++ [(key, new)] :=
  insertEntry_of_notMem (lookup_eq_none_iff_notMem.mp h) new

/-- Writing what is there changes nothing. -/
theorem insertEntry_self (h : entries.lookup key = some value) : insertEntry key value entries = entries := by
  obtain ⟨before, after, rfl, hkey⟩ := lookup_eq_some_split h
  exact insertEntry_split hkey value value

/-- Of two values written under one key the later one stays. -/
theorem insertEntry_insertEntry (key : String) (first second : α) (entries : List (String × α)) :
    insertEntry key second (insertEntry key first entries) = insertEntry key second entries := by
  induction entries with
  | nil => simp [insertEntry]
  | cons e rest ih =>
    obtain ⟨k, v⟩ := e
    by_cases hk : k = key
    · simp [insertEntry, hk]
    · simp [insertEntry, hk, ih]

/-- Entries of new and distinct keys go to the end in their order. -/
theorem insertEntries_of_disjoint {new : List (String × α)} (hnodup : (new.map Prod.fst).Nodup)
    (h : ∀ key ∈ new.map Prod.fst, key ∉ entries.map Prod.fst) : insertEntries entries new = entries ++ new := by
  induction new generalizing entries with
  | nil => simp [insertEntries]
  | cons e rest ih =>
    obtain ⟨k, v⟩ := e
    rw [List.map_cons, List.nodup_cons] at hnodup
    rw [List.map_cons, List.forall_mem_cons] at h
    have hrest : ∀ key ∈ rest.map Prod.fst, key ∉ (entries ++ [(k, v)]).map Prod.fst := by
      intro key hkey hmem
      rw [List.map_append, List.mem_append] at hmem
      rcases hmem with hmem | hmem
      · exact h.2 key hkey hmem
      · obtain rfl : key = k := by simpa using hmem
        exact hnodup.1 hkey
    calc insertEntries entries ((k, v) :: rest) = insertEntries (insertEntry k v entries) rest := rfl
      _ = entries ++ [(k, v)] ++ rest := by rw [insertEntry_of_notMem h.1, ih hnodup.2 hrest]
      _ = entries ++ (k, v) :: rest := by rw [List.append_assoc, List.singleton_append]

/-! Erasing an entry -/

theorem eraseEntry_split (h : key ∉ before.map Prod.fst) (old : α) :
    eraseEntry key (before ++ (key, old) :: after) = before ++ after := by
  induction before with
  | nil => simp [eraseEntry]
  | cons e rest ih =>
    obtain ⟨k, v⟩ := e
    simp only [List.map_cons, List.mem_cons, not_or] at h
    simp [eraseEntry, Ne.symm h.1, ih h.2]

theorem lookup_eraseEntry_of_ne {other : String} (h : other ≠ key) (entries : List (String × α)) :
    (eraseEntry key entries).lookup other = entries.lookup other := by
  induction entries with
  | nil => rfl
  | cons e rest ih =>
    obtain ⟨k, v⟩ := e
    by_cases hk : k = key
    · subst hk
      have hne : (other == k) = false := by simpa using h
      simp [eraseEntry, List.lookup_cons, hne]
    · simp only [eraseEntry, hk, if_false, List.lookup_cons, ih]

theorem eraseEntry_sublist (key : String) (entries : List (String × α)) :
    (eraseEntry key entries).Sublist entries := by
  induction entries with
  | nil => exact .refl _
  | cons e rest ih =>
    obtain ⟨k, v⟩ := e
    rw [eraseEntry]
    split
    · exact List.sublist_cons_self ..
    · exact ih.cons_cons _

theorem lookup_eraseEntry_self (h : (entries.map Prod.fst).Nodup) : (eraseEntry key entries).lookup key = none := by
  induction entries with
  | nil => rfl
  | cons e rest ih =>
    obtain ⟨k, v⟩ := e
    rw [List.map_cons, List.nodup_cons] at h
    by_cases hk : k = key
    · rw [eraseEntry, if_pos hk, List.lookup_eq_none_iff]
      intro p hp
      have hne : p.1 ≠ key := fun heq => h.1 (List.mem_map.mpr ⟨p, hp, heq.trans hk.symm⟩)
      simpa using Ne.symm hne
    · have hne : (key == k) = false := by simpa using Ne.symm hk
      simp only [eraseEntry, hk, if_false, List.lookup_cons, hne, ih h.2]

end Entries

end Terrasmith
