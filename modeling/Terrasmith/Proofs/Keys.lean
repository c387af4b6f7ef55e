import Terrasmith.Function.Basic
import Terrasmith.Proofs.Entries
import Terrasmith.Proofs.Outcomes

/-!
Values whose objects hold every key once. Entries are always written over those of the same key, so all that the
builtin functions compute from such values is such a value again.
-/
namespace Terrasmith

namespace Value

mutual

/-- Every object in the value holds every key once. -/
def Keyed : Value → Prop
  | .array items => AllKeyed items
  | .object entries => (entries.map (·.1)).Nodup ∧ EntriesKeyed entries
  | _ => True

def AllKeyed : List Value → Prop
  | [] => True
  | v :: rest => Keyed v ∧ AllKeyed rest

def EntriesKeyed : List (String × Value) → Prop
  | [] => True
  | (_, v) :: rest => Keyed v ∧ EntriesKeyed rest

end

theorem allKeyed_iff {items : List Value} : AllKeyed items ↔ ∀ v ∈ items, v.Keyed := by
  induction items with
  | nil => simp [AllKeyed]
  | cons v rest ih => simp [AllKeyed, ih]

theorem entriesKeyed_iff {entries : List (String × Value)} : EntriesKeyed entries ↔ ∀ e ∈ entries, e.2.Keyed := by
  induction entries with
  | nil => simp [EntriesKeyed]
  | cons e rest ih =>
    obtain ⟨key, v⟩ := e
    simp only [EntriesKeyed, ih, List.forall_mem_cons]

@[simp] theorem keyed_array {items : List Value} : (Value.array items).Keyed ↔ ∀ v ∈ items, v.Keyed :=
  allKeyed_iff

@[simp] theorem keyed_object {entries : List (String × Value)} :
    (Value.object entries).Keyed ↔ (entries.map (·.1)).Nodup ∧ ∀ e ∈ entries, e.2.Keyed :=
  and_congr_right fun _ => entriesKeyed_iff

@[simp] theorem keyed_null : Value.null.Keyed := trivial

@[simp] theorem keyed_bool (b : Bool) : (Value.bool b).Keyed := trivial

@[simp] theorem keyed_number (n : Number) : (Value.number n).Keyed := trivial

@[simp] theorem keyed_string (s : String) : (Value.string s).Keyed := trivial

@[simp] theorem keyed_ofNat (n : Nat) : (Value.ofNat n).Keyed := keyed_number (.int n)

theorem keyed_insertEntry {entries : List (String × Value)} (h : (Value.object entries).Keyed) (key : String)
    {v : Value} (hv : v.Keyed) : (Value.object (insertEntry key v entries)).Keyed := by
  rw [keyed_object] at h ⊢
  refine ⟨nodup_keys_insertEntry h.1 key v, fun e he => ?_⟩
  rcases mem_insertEntry he with rfl | he
  · exact hv
  · exact h.2 e he

theorem keyed_insertEntries {entries new : List (String × Value)} (h : (Value.object entries).Keyed)
    (hnew : ∀ e ∈ new, e.2.Keyed) : (Value.object (insertEntries entries new)).Keyed := by
  induction new generalizing entries with
  | nil => exact h
  | cons e rest ih =>
    obtain ⟨key, v⟩ := e
    refine ih (keyed_insertEntry h key ?_) fun e he => hnew e (List.mem_cons_of_mem _ he)
    exact hnew (key, v) List.mem_cons_self

theorem keyed_of_lookup {entries : List (String × Value)} (h : (Value.object entries).Keyed) {key : String} {v : Value}
    (hv : entries.lookup key = some v) : v.Keyed := by
  rw [keyed_object] at h
  induction entries with
  | nil => cases hv
  | cons e rest ih =>
    obtain ⟨k, u⟩ := e
    rw [List.lookup_cons] at hv
    split at hv
    · cases hv
      exact h.2 _ List.mem_cons_self
    · rw [List.map_cons, List.nodup_cons] at h
      exact ih ⟨h.1.2, fun e he => h.2 e (List.mem_cons_of_mem _ he)⟩ hv

end Value

namespace Json

open Value

mutual

theorem Document.keyed_toValue : (d : Document) → d.toValue.Keyed
  | .null => keyed_null
  | .bool b => keyed_bool b
  | .number n => keyed_number n
  | .string s => keyed_string s
  | .array items => by
    rw [toValue, keyed_array]
    exact keyed_toValues items
  | .object entries => by
    rw [toValue]
    exact keyed_insertEntries (by simp) (keyed_toValueEntries entries)

theorem Document.keyed_toValues : (ds : List Document) → ∀ v ∈ toValues ds, v.Keyed
  | [] => by simp [toValues]
  | d :: rest => by
    simp only [toValues, List.forall_mem_cons]
    exact ⟨d.keyed_toValue, keyed_toValues rest⟩

theorem Document.keyed_toValueEntries : (entries : List (String × Document)) → ∀ e ∈ toValueEntries entries, e.2.Keyed
  | [] => by simp [toValueEntries]
  | (key, d) :: rest => by
    simp only [toValueEntries, List.forall_mem_cons]
    exact ⟨d.keyed_toValue, keyed_toValueEntries rest⟩

end

end Json

namespace Function

open Value

/-- What a function computes from values with distinct keys has distinct keys. -/
def Builtin.Keeps (b : Builtin) : Prop :=
  ∀ args v, (∀ a ∈ args, a.Keyed) → b.run args = .ok v → v.Keyed

theorem listArg_eq_ok {name : String} {v : Value} {items : List Value} (h : listArg name v = .ok items) :
    v = .array items := by
  cases v <;> simp_all [listArg]

theorem objectArg_eq_ok {name : String} {v : Value} {entries : List (String × Value)}
    (h : objectArg name v = .ok entries) : v = .object entries := by
  cases v <;> simp_all [objectArg]

theorem unary_keeps {f : Value → Result} (h : ∀ a v, a.Keyed → f a = .ok v → v.Keyed) : (unary f).Keeps := by
  intro args v hargs hrun
  match args, hrun with
  | [a], hrun => exact h a v (hargs a List.mem_cons_self) hrun

theorem binary_keeps {f : Value → Value → Result} (h : ∀ a b v, a.Keyed → b.Keyed → f a b = .ok v → v.Keyed) :
    (binary f).Keeps := by
  intro args v hargs hrun
  match args, hrun with
  | [a, b], hrun => exact h a b v (hargs a (by simp)) (hargs b (by simp)) hrun

theorem ternary_keeps {f : Value → Value → Value → Result} (h : ∀ a b c v, f a b c = .ok v → v.Keyed) :
    (ternary f).Keeps := by
  intro args v hargs hrun
  match args, hrun with
  | [a, b, c], hrun => exact h a b c v hrun

theorem onString_keeps {name : String} {f : String → Value} (h : ∀ s, (f s).Keyed) : (onString name f).Keeps := by
  refine unary_keeps fun a v _ hrun => ?_
  obtain ⟨s, -, hv⟩ := bind_eq_ok hrun
  cases hv
  exact h s

theorem onList_keeps {name : String} {f : List Value → Value}
    (h : ∀ items, (∀ v ∈ items, v.Keyed) → (f items).Keyed) : (onList name f).Keeps := by
  refine unary_keeps fun a v ha hrun => ?_
  obtain ⟨items, hitems, hv⟩ := bind_eq_ok hrun
  cases hv
  rw [listArg_eq_ok hitems, keyed_array] at ha
  exact h items ha

theorem onObject_keeps {name : String} {f : List (String × Value) → Value}
    (h : ∀ entries, (Value.object entries).Keyed → (f entries).Keyed) : (onObject name f).Keeps := by
  refine unary_keeps fun a v ha hrun => ?_
  obtain ⟨entries, hentries, hv⟩ := bind_eq_ok hrun
  cases hv
  rw [objectArg_eq_ok hentries] at ha
  exact h entries ha

theorem onStrings_keeps {name : String} {f : String → String → Result} (h : ∀ s t v, f s t = .ok v → v.Keyed) :
    (onStrings name f).Keeps := by
  refine binary_keeps fun a b v _ _ hrun => ?_
  obtain ⟨s, -, hrest⟩ := bind_eq_ok hrun
  obtain ⟨t, -, hv⟩ := bind_eq_ok hrest
  exact h s t v hv

mutual

theorem keyed_flatten : (v : Value) → v.Keyed → ∀ u ∈ flatten v, u.Keyed
  | .array items, h => by
    rw [flatten]
    exact keyed_flattenAll items (keyed_array.mp h)
  | .null, h => by simp [flatten]
  | .bool _, h => by simp [flatten]
  | .number _, h => by simp [flatten]
  | .string _, h => by simp [flatten]
  | .object entries, h => by simpa [flatten] using h

theorem keyed_flattenAll : (items : List Value) → (∀ v ∈ items, v.Keyed) → ∀ u ∈ flattenAll items, u.Keyed
  | [], _ => by simp [flattenAll]
  | v :: rest, h => by
    rw [flattenAll, List.forall_mem_append]
    rw [List.forall_mem_cons] at h
    exact ⟨keyed_flatten v h.1, keyed_flattenAll rest h.2⟩

end

theorem mem_distinct {values : List Value} {v : Value} (h : v ∈ distinct values) : v ∈ values := by
  have hfold : ∀ (rest done : List Value),
      v ∈ rest.foldl (fun done v => if done.any v.same then done else done ++ [v]) done → v ∈ done ∨ v ∈ rest := by
    intro rest
    induction rest with
    | nil => exact fun done hv => .inl hv
    | cons u rest ih =>
      intro done hv
      rcases ih _ hv with hv | hv
      · dsimp only at hv
        split at hv
        · exact .inl hv
        · rcases List.mem_append.mp hv with hv | hv
          · exact .inl hv
          · exact .inr (by simp_all)
      · exact .inr (List.mem_cons_of_mem _ hv)
  simpa using hfold values [] h

/-- The text of a group that may be missing. -/
theorem keyed_groupText (chars? : Option (List Char)) :
    (match chars? with
      | some chars => Value.string (String.ofList chars)
      | none => .null).Keyed := by
  cases chars? <;> simp

theorem keyed_matchValue (r : Regex) (text : List Char) (m : Regex.Match) : (matchValue r text m).Keyed := by
  have hgroup := fun index => keyed_groupText (m.groupText? text index)
  unfold matchValue
  dsimp only
  split
  · exact hgroup 0
  · split
    · rw [keyed_array]
      intro v hv
      obtain ⟨index, -, rfl⟩ := List.mem_map.mp hv
      exact hgroup index
    · refine keyed_insertEntries (by simp) fun e he => ?_
      obtain ⟨⟨name?, index⟩, -, he⟩ := List.mem_filterMap.mp he
      obtain ⟨name, -, rfl⟩ := Option.map_eq_some_iff.mp he
      exact hgroup index

theorem keyed_merge {args : List Value} (h : ∀ a ∈ args, a.Keyed) {merged : List (String × Value)}
    (hmerge : merge args = .ok merged) : (Value.object merged).Keyed := by
  have hfold : ∀ (args : List Value) (done : List (String × Value)), (∀ a ∈ args, a.Keyed) →
      (Value.object done).Keyed → args.foldlM (fun merged arg =>
        if arg.isNull then .ok merged else do return insertEntries merged (← objectArg "merge" arg)) done = .ok merged →
      (Value.object merged).Keyed := by
    intro args
    induction args with
    | nil =>
      intro done _ hdone hok
      cases hok
      exact hdone
    | cons a rest ih =>
      intro done hargs hdone hok
      rw [List.foldlM_cons] at hok
      obtain ⟨next, hnext, hrest⟩ := bind_eq_ok hok
      rw [List.forall_mem_cons] at hargs
      refine ih next hargs.2 ?_ hrest
      split at hnext
      · cases hnext
        exact hdone
      · obtain ⟨entries, hentries, hok⟩ := bind_eq_ok hnext
        cases hok
        have ha := hargs.1
        rw [objectArg_eq_ok hentries, keyed_object] at ha
        exact keyed_insertEntries hdone ha.2
  exact hfold args [] h (by simp) hmerge

theorem mem_of_mapM_listArg {name : String} {args : List Value} {lists : List (List Value)}
    (h : args.mapM (listArg name) = .ok lists) : ∀ items ∈ lists, Value.array items ∈ args := by
  induction args generalizing lists with
  | nil =>
    cases h
    simp
  | cons a rest ih =>
    rw [List.mapM_cons] at h
    obtain ⟨first, hfirst, h⟩ := bind_eq_ok h
    obtain ⟨others, hothers, h⟩ := bind_eq_ok h
    cases h
    intro items hitems
    rcases List.mem_cons.mp hitems with rfl | hitems
    · exact List.mem_cons.mpr (.inl (listArg_eq_ok hfirst).symm)
    · exact List.mem_cons_of_mem _ (ih hothers items hitems)

theorem keyed_lookup {object key v : Value} {default? : Option Value} (hobject : object.Keyed)
    (hdefault : ∀ d ∈ default?, d.Keyed) (h : lookup object key default? = .ok v) : v.Keyed := by
  obtain ⟨entries, hentries, h⟩ := bind_eq_ok h
  obtain ⟨name, -, h⟩ := bind_eq_ok h
  rw [objectArg_eq_ok hentries] at hobject
  split at h
  · cases h
    exact keyed_of_lookup hobject ‹_›
  · cases h
    exact hdefault v rfl
  · cases h

/-- All builtin functions keep keys distinct. -/
theorem builtin?_keeps {name : String} {b : Builtin} (h : builtin? name = some b) : b.Keeps := by
  unfold builtin? at h
  split at h
  all_goals cases h
  -- `keys`
  · refine onObject_keeps fun entries _ => keyed_array.mpr fun v hv => ?_
    obtain ⟨e, -, rfl⟩ := List.mem_map.mp hv
    exact keyed_string e.1
  -- `values`
  · refine onObject_keeps fun entries hentries => ?_
    simpa using fun v key hmem => (keyed_object.mp hentries).2 (key, v) hmem
  -- `length`
  · refine unary_keeps fun a v _ hrun => ?_
    unfold length at hrun
    split at hrun <;> cases hrun <;> simp
  -- `contains`
  · refine binary_keeps fun a b v _ _ hrun => ?_
    obtain ⟨items, -, hv⟩ := bind_eq_ok hrun
    cases hv
    simp
  -- `flatten`
  · exact onList_keeps fun items hitems => keyed_array.mpr (keyed_flattenAll items hitems)
  -- `distinct`
  · exact onList_keeps fun items hitems => keyed_array.mpr fun v hv => hitems v (mem_distinct hv)
  -- `compact`
  · exact onList_keeps fun items hitems => keyed_array.mpr fun v hv => hitems v (List.mem_of_mem_filter hv)
  -- `split`
  · refine onStrings_keeps fun s t v hv => ?_
    cases hv
    simp
  -- `replace`
  · refine ternary_keeps fun a b c v hrun => ?_
    obtain ⟨s, -, hrun⟩ := bind_eq_ok hrun
    obtain ⟨t, -, hrun⟩ := bind_eq_ok hrun
    obtain ⟨u, -, hrun⟩ := bind_eq_ok hrun
    unfold replace at hrun
    split at hrun
    · split at hrun
      · cases hrun
        simp
      · cases hrun
    · cases hrun
      simp
  -- `lower`
  · exact onString_keeps fun s => keyed_string _
  -- `upper`
  · exact onString_keeps fun s => keyed_string _
  -- `trimspace`
  · exact onString_keeps fun s => keyed_string _
  -- `startswith`
  · refine onStrings_keeps fun s t v hv => ?_
    cases hv
    simp
  -- `endswith`
  · refine onStrings_keeps fun s t v hv => ?_
    cases hv
    simp
  -- `tostring`
  · refine unary_keeps fun a v _ hrun => ?_
    unfold toText at hrun
    split at hrun
    · cases hrun
      simp
    · split at hrun
      · cases hrun
        simp
      · cases hrun
  -- `tonumber`
  · refine unary_keeps fun a v _ hrun => ?_
    unfold toNumber at hrun
    split at hrun
    · cases hrun
      simp
    · cases hrun
      simp
    · split at hrun
      · cases hrun
        simp
      · cases hrun
    · cases hrun
  -- `tobool`
  · refine unary_keeps fun a v _ hrun => ?_
    unfold toBool at hrun
    split at hrun <;> cases hrun <;> simp
  -- `tolist`
  · exact onList_keeps fun items hitems => keyed_array.mpr hitems
  -- `toset`
  · exact onList_keeps fun items hitems => keyed_array.mpr fun v hv => hitems v (mem_distinct hv)
  -- `tomap`
  · exact onObject_keeps fun entries hentries => hentries
  -- `jsonencode`
  · refine unary_keeps fun a v _ hrun => ?_
    cases hrun
    simp
  -- `jsondecode`
  · refine unary_keeps fun a v _ hrun => ?_
    obtain ⟨s, -, hrun⟩ := bind_eq_ok hrun
    unfold jsonDecode at hrun
    split at hrun
    · cases hrun
      exact Json.Document.keyed_toValue _
    · cases hrun
  -- `regexall`
  · refine onStrings_keeps fun s t v hrun => ?_
    unfold regexAll at hrun
    split at hrun
    · cases hrun
      rw [keyed_array]
      intro v hv
      obtain ⟨m, -, rfl⟩ := List.mem_map.mp hv
      exact keyed_matchValue _ _ m
    · cases hrun
  -- `can`
  · refine unary_keeps fun a v _ hrun => ?_
    cases hrun
    simp
  -- `merge`
  · intro args v hargs hrun
    obtain ⟨merged, hmerge, hv⟩ := bind_eq_ok hrun
    cases hv
    exact keyed_merge hargs hmerge
  -- `concat`
  · intro args v hargs hrun
    obtain ⟨lists, hlists, hv⟩ := bind_eq_ok hrun
    cases hv
    rw [keyed_array]
    intro u hu
    obtain ⟨items, hitems, hu⟩ := List.mem_flatten.mp hu
    exact keyed_array.mp (hargs _ (mem_of_mapM_listArg hlists items hitems)) u hu
  -- `coalesce`
  · intro args v hargs hrun
    simp only [variadic] at hrun
    split at hrun
    · cases hrun
      exact hargs v (List.mem_of_find?_eq_some ‹_›)
    · cases hrun
  -- `join`
  · intro args v hargs hrun
    simp only [variadic] at hrun
    split at hrun
    · obtain ⟨separator, -, hrun⟩ := bind_eq_ok hrun
      obtain ⟨parts, -, hrun⟩ := bind_eq_ok hrun
      cases hrun
      simp
    · cases hrun
  -- `format`
  · intro args v hargs hrun
    simp only [variadic] at hrun
    split at hrun
    · obtain ⟨spec, -, hrun⟩ := bind_eq_ok hrun
      obtain ⟨text, -, hrun⟩ := bind_eq_ok hrun
      cases hrun
      simp
    · cases hrun
  -- `lookup`
  · intro args v hargs hrun
    simp only [variadic] at hrun
    split at hrun
    · refine keyed_lookup (hargs _ (by simp)) (fun d hd => hargs d ?_) hrun
      have hmem := List.mem_of_mem_head? hd
      simp [hmem]
    · cases hrun
  -- `try`
  · intro args v hargs hrun
    simp only [variadic] at hrun
    split at hrun
    · cases hrun
      exact hargs v (List.mem_of_find?_eq_some ‹_›)
    · cases hrun

theorem keyed_call {name : String} {b : Builtin} (h : builtin? name = some b) {args : List Value} {v : Value}
    (hargs : ∀ a ∈ args, a.Keyed) (hcall : b.call args = .ok v) : v.Keyed := by
  unfold Builtin.call at hcall
  split at hcall
  · cases hcall
  · exact builtin?_keeps h args v hargs hcall

end Function

end Terrasmith
