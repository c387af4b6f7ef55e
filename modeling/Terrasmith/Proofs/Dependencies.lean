import Mathlib.Data.List.Perm.Basic
import Terrasmith.Proofs.Entries
import Terrasmith.Proofs.Fields
import Terrasmith.Proofs.Reading
import Terrasmith.Proofs.Validation

/-!
Dependencies. A declaration reads the results of other ones by its references. As long as these spell out the addresses
of the declarations, it reads nothing but the results of its dependencies, which are ordered before it.
-/
namespace Terrasmith

open Source

/-! Results of some declarations only -/

namespace Results

/-- The values of a type without those of other declarations. -/
def restrictType (kind type : String) (addresses : List String) : Value → Value
  | .object entries => .object (entries.filter fun e => addresses.contains (Declaration.addressOf kind type e.1))
  | v => v

/-- The values of a kind without those of other declarations. -/
def restrictKind (kind : String) (addresses : List String) (types : List (String × Value)) : List (String × Value) :=
  types.map fun e => (e.1, restrictType kind e.1 addresses e.2)

/-- The results of the declarations of some addresses. -/
def restrict (r : Results) (addresses : List String) : Results where
  data := restrictKind "data" addresses r.data
  transform := restrictKind "transform" addresses r.transform

/-- Whether the values of a kind are values of declarations whose addresses have a property. -/
def KindHolds (kind : String) (types : List (String × Value)) (p : String → Prop) : Prop :=
  ∀ type entries, types.lookup type = some (.object entries) → ∀ name, (entries.lookup name).isSome = true →
    p (Declaration.addressOf kind type name)

/-- Whether results are those of declarations whose addresses have a property. -/
def Holds (r : Results) (p : String → Prop) : Prop :=
  KindHolds "data" r.data p ∧ KindHolds "transform" r.transform p

/-- A path to a value that is kept, or that is not there. -/
theorem entryAt_restrictKind {kind type name : String} {types : List (String × Value)} {addresses : List String}
    (h : ∀ entries, types.lookup type = some (.object entries) → (entries.lookup name).isSome = true →
      Declaration.addressOf kind type name ∈ addresses) (rest : List String) (within : Expr) :
    Expr.entryAt within (.object types) (type :: name :: rest) =
      Expr.entryAt within (.object (restrictKind kind addresses types)) (type :: name :: rest) := by
  have hlookup : (restrictKind kind addresses types).lookup type =
      (types.lookup type).map (restrictType kind type addresses) :=
    lookup_map_snd (fun type => restrictType kind type addresses) type types
  simp only [Expr.entryAt, List.foldlM_cons, Expr.entryOf, hlookup]
  cases htype : types.lookup type with
  | none => rfl
  | some v =>
    cases v with
    | object entries =>
      have hname : (entries.filter fun e => addresses.contains (Declaration.addressOf kind type e.1)).lookup name =
          entries.lookup name := by
        rw [lookup_filter_fst fun name => addresses.contains (Declaration.addressOf kind type name)]
        cases hvalue : entries.lookup name with
        | none => exact ite_self none
        | some v => exact if_pos (List.contains_iff_mem.mpr (h entries htype (by rw [hvalue]; rfl)))
      simp only [Option.map_some, restrictType, bind, Except.bind, hname]
    | _ => rfl

theorem lookup_data (r : Results) (each? : Option Instance) : (r.scope each?).lookup "data" = some (.object r.data) := rfl

theorem lookup_transform (r : Results) (each? : Option Instance) :
    (r.scope each?).lookup "transform" = some (.object r.transform) := rfl

/-- Other variables do not stand for results. -/
theorem lookup_scope {name : String} (hdata : name ≠ "data") (htransform : name ≠ "transform") (r r' : Results)
    (each? : Option Instance) : (r.scope each?).lookup name = (r'.scope each?).lookup name := by
  have hdata : (name == "data") = false := by simpa using hdata
  have htransform : (name == "transform") = false := by simpa using htransform
  simp [scope, List.lookup_cons, hdata, htransform]

/-- In the scopes of results and of the restricted ones, references lead to the same that spell out a declaration which
is kept or has no value. -/
theorem alike_restrict {r : Results} {addresses : List String} {path : List String}
    (hspelled : ∀ kind ∈ path.head?, kind = "data" ∨ kind = "transform" → 3 ≤ path.length)
    (hkept : r.Holds fun address => addressOfPath? path = some address → address ∈ addresses)
    (each? : Option Instance) : Expr.Alike (r.scope each?) ((r.restrict addresses).scope each?) path := by
  cases path with
  | nil => trivial
  | cons kind attributes =>
    intro within
    by_cases hkind : kind = "data" ∨ kind = "transform"
    · obtain ⟨type, name, rest, rfl⟩ : ∃ type name rest, attributes = type :: name :: rest := by
        match attributes, hspelled kind rfl hkind with
        | type :: name :: rest, _ => exact ⟨type, name, rest, rfl⟩
      rcases hkind with rfl | rfl
      · rw [lookup_data, lookup_data, Option.map_some, Option.map_some]
        exact congrArg some (entryAt_restrictKind
          (fun entries htype hname => hkept.1 type entries htype name hname rfl) rest within)
      · rw [lookup_transform, lookup_transform, Option.map_some, Option.map_some]
        exact congrArg some (entryAt_restrictKind
          (fun entries htype hname => hkept.2 type entries htype name hname rfl) rest within)
    · rw [not_or] at hkind
      rw [lookup_scope hkind.1 hkind.2 r (r.restrict addresses)]

end Results

theorem Results.Holds.mono {r : Results} {p q : String → Prop} (h : r.Holds p) (hpq : ∀ address, p address → q address) :
    r.Holds q :=
  ⟨fun type entries htype name hname => hpq _ (h.1 type entries htype name hname),
    fun type entries htype name hname => hpq _ (h.2 type entries htype name hname)⟩

/-! Dependencies -/

namespace Declaration

/-- Whether the references of a declaration to other ones spell out their addresses. -/
def SpellsOut (d : Declaration) : Prop :=
  ∀ path ∈ structuresReferences d.body.structures, ∀ kind ∈ path.head?,
    kind = "data" ∨ kind = "transform" → 3 ≤ path.length

instance (d : Declaration) : Decidable d.SpellsOut :=
  inferInstanceAs (Decidable (∀ path ∈ structuresReferences d.body.structures, ∀ kind ∈ path.head?,
    kind = "data" ∨ kind = "transform" → 3 ≤ path.length))

/-- Whether no text of a template in a declaration reads as a reference. -/
def Quiet (d : Declaration) (scope : Scope) : Prop :=
  ∀ e ∈ structuresExpressions d.body.structures, e.Quiet scope

end Declaration

namespace Config

variable {c : Config} {d : Declaration} {addresses : List String}

theorem mem_dependencies (h : c.dependencies d = .ok addresses) {path : List String}
    (hpath : path ∈ structuresReferences d.body.structures) {address : String} (haddress : addressOfPath? path = some address)
    (hother : address ≠ d.address) (hdeclared : (c.get? address).isSome = true) : address ∈ addresses := by
  obtain ⟨named, -, hnamed⟩ := bind_eq_ok h
  cases hnamed
  refine List.mem_append_left _ (List.mem_filterMap.mpr ⟨path, hpath, ?_⟩)
  simp [haddress, hother, hdeclared]

/-- What a declaration reads has the same values in the scope of the results of its dependencies. -/
theorem sameValues_restrict (h : c.dependencies d = .ok addresses) (hspelled : d.SpellsOut) {r : Results}
    (hothers : r.Holds fun address => address ≠ d.address ∧ (c.get? address).isSome = true) {each? : Option Instance}
    (hquiet : d.Quiet (r.scope each?)) :
    SameValues (r.scope each?) ((r.restrict addresses).scope each?) d.body.structures := by
  intro e he
  refine Expr.evaluate_alike (hquiet e he) fun path hpath => ?_
  have hmem : path ∈ structuresReferences d.body.structures := by
    rw [structuresReferences_eq]
    exact List.mem_flatMap.mpr ⟨e, he, hpath⟩
  refine Results.alike_restrict (hspelled path hmem) (hothers.mono fun address hother haddress => ?_) each?
  exact mem_dependencies h hmem haddress hother.1 hother.2

/-- One step of ordering: a declaration that is ready goes first. -/
theorem orderFrom_cons {fuel : Nat} {p : Declaration × List String} {rest : List (Declaration × List String)}
    {done : List String} {declarations : List Declaration}
    (h : orderFrom (fuel + 1) (p :: rest) done = .ok declarations) :
    ∃ index next addresses later, (p :: rest)[index]? = some (next, addresses) ∧
      orderFrom fuel ((p :: rest).eraseIdx index) (next.address :: done) = .ok later ∧
        next :: later = declarations ∧ ∀ a ∈ addresses, a ∈ done := by
  simp only [orderFrom] at h
  split at h
  · cases h
  · rename_i index hindex
    obtain ⟨hlt, hready, -⟩ := List.findIdx?_eq_some_iff_getElem.mp hindex
    have hget := List.getElem?_eq_getElem hlt
    generalize (p :: rest)[index] = first at hready hget
    obtain ⟨next, addresses⟩ := first
    rw [hget] at h
    obtain ⟨later, hlater, hdeclarations⟩ := return_eq_ok h
    exact ⟨index, next, addresses, later, hget, hlater, hdeclarations, fun a ha => by
      simpa using List.all_eq_true.mp hready a ha⟩

/-- Pending declarations come after all that they depend on, unless it was done already. -/
theorem orderFrom_before {fuel : Nat} {pending : List (Declaration × List String)} {done : List String}
    {before after : List Declaration} (h : orderFrom fuel pending done = .ok (before ++ d :: after)) :
    ∃ addresses, (d, addresses) ∈ pending ∧ ∀ a ∈ addresses, a ∈ before.map Declaration.address ∨ a ∈ done := by
  induction fuel generalizing pending done before with
  | zero => cases pending <;> simp [orderFrom] at h
  | succ fuel ih =>
    cases pending with
    | nil => simp [orderFrom] at h
    | cons p rest =>
      obtain ⟨index, next, addresses, later, hget, hlater, hsplit, hready⟩ := orderFrom_cons h
      cases before with
      | nil =>
        cases hsplit
        exact ⟨addresses, List.mem_of_getElem? hget, fun a ha => .inr (hready a ha)⟩
      | cons b before =>
        cases hsplit
        obtain ⟨addresses', hmem, hbefore⟩ := ih hlater
        refine ⟨addresses', List.eraseIdx_subset hmem, fun a ha => ?_⟩
        rcases hbefore a ha with hb | hb
        · exact .inl (List.mem_cons_of_mem _ hb)
        · rcases List.mem_cons.mp hb with rfl | hb
          · exact .inl List.mem_cons_self
          · exact .inr hb

/-- What is pending at first: each declaration with its dependencies. -/
theorem pending_of_mapM {declarations : List Declaration} {pending : List (Declaration × List String)}
    (h : (declarations.mapM fun d => do return (d, ← c.dependencies d)) = .ok pending) :
    pending.map (·.1) = declarations ∧ ∀ p ∈ pending, c.dependencies p.1 = .ok p.2 := by
  induction declarations generalizing pending with
  | nil =>
    cases h
    exact ⟨rfl, by simp⟩
  | cons first rest ih =>
    rw [List.mapM_cons] at h
    obtain ⟨p, hp, h⟩ := bind_eq_ok h
    obtain ⟨addresses, hfirst, rfl⟩ := return_eq_ok hp
    obtain ⟨others, hothers, rfl⟩ := return_eq_ok h
    obtain ⟨hmap, hall⟩ := ih hothers
    exact ⟨by rw [List.map_cons, hmap], List.forall_mem_cons.mpr ⟨hfirst, hall⟩⟩

/-- Declarations are ordered behind their dependencies. -/
theorem order_before (h : c.dependencies d = .ok addresses) {before after : List Declaration}
    (horder : c.order = .ok (before ++ d :: after)) : ∀ a ∈ addresses, a ∈ before.map Declaration.address := by
  obtain ⟨pending, hpending, horder⟩ := bind_eq_ok horder
  obtain ⟨addresses', hmem, hbefore⟩ := orderFrom_before horder
  have haddresses := (pending_of_mapM hpending).2 _ hmem
  cases h.symm.trans haddresses
  exact fun a ha => (hbefore a ha).resolve_right List.not_mem_nil

/-- Ordering leaves no declaration out and takes none twice. -/
theorem orderFrom_perm {fuel : Nat} {pending : List (Declaration × List String)} {done : List String}
    {declarations : List Declaration} (h : orderFrom fuel pending done = .ok declarations) :
    declarations.Perm (pending.map (·.1)) := by
  induction fuel generalizing pending done declarations with
  | zero =>
    cases pending with
    | nil =>
      cases h
      exact .nil
    | cons p rest => simp [orderFrom] at h
  | succ fuel ih =>
    cases pending with
    | nil =>
      cases h
      exact .nil
    | cons p rest =>
      obtain ⟨index, next, addresses, later, hget, hlater, rfl, -⟩ := orderFrom_cons h
      obtain ⟨hlt, hnext⟩ := List.getElem?_eq_some_iff.mp hget
      have hperm := List.getElem_cons_eraseIdx_perm hlt
      rw [hnext] at hperm
      exact ((ih hlater).cons next).trans (hperm.map Prod.fst)

theorem order_perm {declarations : List Declaration} (h : c.order = .ok declarations) :
    declarations.Perm c.declarations := by
  obtain ⟨pending, hpending, h⟩ := bind_eq_ok h
  rw [← (pending_of_mapM hpending).1]
  exact orderFrom_perm h

/-- The declarations ordered before a declaration are others. -/
theorem before_others (hnodup : (c.declarations.map Declaration.address).Nodup) {before after : List Declaration}
    (horder : c.order = .ok (before ++ d :: after)) :
    ∀ b ∈ before, b.address ≠ d.address ∧ (c.get? b.address).isSome = true := by
  have hperm := order_perm horder
  have hapart := (hperm.map Declaration.address).nodup_iff.mpr hnodup
  rw [List.map_append, List.map_cons, List.nodup_append] at hapart
  intro b hb
  refine ⟨hapart.2.2 _ (List.mem_map_of_mem hb) _ List.mem_cons_self, ?_⟩
  rw [get?, List.find?_isSome]
  exact ⟨b, hperm.subset (List.mem_append_left _ hb), by simp⟩

end Config

/-! Results in a run -/

namespace RunM

variable {α β : Type}

/-- Whatever a step of a run gives, if it does not fail, has a property. -/
def Gives (p : α → Prop) (x : RunM α) : Prop := ∀ s a s', x.run.run s = (.ok a, s') → p a

theorem Gives.pure {p : α → Prop} {a : α} (h : p a) : Gives p (Pure.pure a) := by
  intro s b s' hrun
  cases hrun
  exact h

theorem Gives.throw {p : α → Prop} (e : RunError) : Gives p (MonadExcept.throw e : RunM α) := by
  intro s a s' hrun
  cases hrun

theorem Gives.bind {p : α → Prop} {q : β → Prop} {x : RunM α} {f : α → RunM β} (hx : Gives p x)
    (hf : ∀ a, p a → Gives q (f a)) : Gives q (x >>= f) := by
  intro s b s' hrun
  obtain ⟨a, t, hfirst, hrest⟩ := run_bind_eq_ok hrun
  exact hf a (hx s a t hfirst) t b s' hrest

theorem Gives.foldlM {p : β → Prop} {f : β → α → RunM β} {items : List α}
    (hf : ∀ b, p b → ∀ a ∈ items, Gives p (f b a)) {b : β} (hb : p b) : Gives p (items.foldlM f b) := by
  induction items generalizing b with
  | nil => exact .pure hb
  | cons a rest ih =>
    rw [List.foldlM_cons]
    exact (hf b hb a List.mem_cons_self).bind fun b' hb' =>
      ih (fun b hb a ha => hf b hb a (List.mem_cons_of_mem _ ha)) hb'

theorem Gives.any (x : RunM α) : Gives (fun _ => True) x := fun _ _ _ _ => trivial

end RunM

open RunM (Gives)

/-- A declaration that is carried out adds its own result. -/
theorem runDeclaration_gives (tool? : Option Provider.Tool) (d : Declaration) (done : Results × Summary) :
    Gives (fun done' => ∃ v, done'.1 = done.1.insert d v) (runDeclaration tool? d done) := by
  obtain ⟨results, summary⟩ := done
  simp only [runDeclaration]
  cases instances d (results.scope none) with
  | error e => exact .throw _
  | ok instances? =>
    cases d.kind with
    | data => exact (Gives.any _).bind fun v _ => .pure ⟨v, rfl⟩
    | transform => exact (Gives.any _).bind fun _ _ => .pure ⟨_, rfl⟩

namespace Results

theorem kindHolds_insertByType {kind : String} {types : List (String × Value)} {p : String → Prop}
    (h : KindHolds kind types p) {type name : String} (hnew : p (Declaration.addressOf kind type name)) (v : Value) :
    KindHolds kind (Query.insertByType types type name v) p := by
  have hinsert {old : List (String × Value)} (hold : ∀ other, (old.lookup other).isSome = true →
      p (Declaration.addressOf kind type other)) :
      KindHolds kind (insertEntry type (.object (insertEntry name v old)) types) p := by
    intro type' entries htype name' hname
    by_cases htypes : type' = type
    · subst htypes
      rw [lookup_insertEntry_self] at htype
      cases htype
      by_cases hnames : name' = name
      · subst hnames
        exact hnew
      · rw [lookup_insertEntry_of_ne hnames] at hname
        exact hold name' hname
    · rw [lookup_insertEntry_of_ne htypes] at htype
      exact h type' entries htype name' hname
  unfold Query.insertByType
  split
  · rename_i old hlookup
    exact hinsert (h type old hlookup)
  · exact @hinsert [] fun other hother => by cases hother

theorem holds_empty (p : String → Prop) : Results.Holds {} p :=
  ⟨fun _ _ htype => (by cases htype), fun _ _ htype => (by cases htype)⟩

theorem Holds.insert {r : Results} {p : String → Prop} (h : r.Holds p) {d : Declaration} (hd : p d.address) (v : Value) :
    (r.insert d v).Holds p := by
  obtain ⟨kind, type, name, body, source⟩ := d
  cases kind with
  | data => exact ⟨kindHolds_insertByType h.1 hd v, h.2⟩
  | transform => exact ⟨h.1, kindHolds_insertByType h.2 hd v⟩

end Results

/-- A run has results of the declarations that it carried out. -/
theorem run_holds (tool? : Option Provider.Tool) {declarations : List Declaration} {p : String → Prop}
    (h : ∀ d ∈ declarations, p d.address) :
    Gives (fun done => done.1.Holds p)
      (declarations.foldlM (fun done d => runDeclaration tool? d done) (({}, {}) : Results × Summary)) := by
  refine Gives.foldlM (fun done hdone d hd s done' s' hrun => ?_) (Results.holds_empty p)
  obtain ⟨v, hv⟩ := runDeclaration_gives tool? d done s done' s' hrun
  rw [hv]
  exact hdone.insert (h d hd) v

/-- A declaration that spells out its references, and whose templates are quiet, reads nothing but the results of its
dependencies: its instances, and in each of them its query or transform, are the same without all other results. It is
ordered behind its dependencies, and when a run comes to it there are no results but those of other declarations. -/
theorem dependencies_cover_reads {c : Config} {d : Declaration} {addresses : List String}
    (h : c.dependencies d = .ok addresses) (hspelled : d.SpellsOut) :
    (∀ {r : Results}, (r.Holds fun address => address ≠ d.address ∧ (c.get? address).isSome = true) →
      (d.Quiet (r.scope none) → instances d (r.scope none) = instances d ((r.restrict addresses).scope none)) ∧
        ∀ each?, d.Quiet (r.scope each?) → ∀ m tool?,
          Query.evaluate m tool? d.type d.body (r.scope each?) =
              Query.evaluate m tool? d.type d.body ((r.restrict addresses).scope each?) ∧
            Transform.decode d.type d.body (r.scope each?) m =
              Transform.decode d.type d.body ((r.restrict addresses).scope each?) m) ∧
      ∀ before after, c.order = .ok (before ++ d :: after) →
        (∀ a ∈ addresses, a ∈ before.map Declaration.address) ∧
          ∀ documents, Config.ofDocuments documents = .ok c → ∀ tool?,
            Gives (fun done => done.1.Holds fun address => address ≠ d.address ∧ (c.get? address).isSome = true)
              (before.foldlM (fun done d => runDeclaration tool? d done) (({}, {}) : Results × Summary)) := by
  refine ⟨fun hothers => ⟨fun hquiet => ?_, fun each? hquiet m tool? => ?_⟩, fun before after horder =>
    ⟨Config.order_before h horder, fun documents hc tool? => ?_⟩⟩
  · exact instances_same (Config.sameValues_restrict h hspelled hothers hquiet)
  · have hsame := Config.sameValues_restrict h hspelled hothers hquiet
    exact ⟨Query.evaluate_same hsame m tool?, Transform.decode_same hsame m⟩
  · exact run_holds tool? (Config.before_others (Config.nodup_ofDocuments hc) horder)

/-- A query with an instance for the resource type of another query, which it refers to in some way. -/
def queryOver (reference : List Step) : Declaration where
  kind := .data
  type := "resource"
  name := "b"
  body := { structures := [.attribute { key := "for_each", value := .bare (.array
    [.bare (.traversal (.bare (.variable "data")) (reference ++ [.attribute "" "resource_type"]))] false "") }] }
  source := "main.mptf.hcl"

/-- A query for the resources of a type. -/
def typeQuery (name type : String) : Declaration where
  kind := .data
  type := "resource"
  name := name
  body := { structures := [.attribute { key := "resource_type", value := .bare (.string type) }] }
  source := "main.mptf.hcl"

/-- A configuration with a query over one of two others. -/
def typeConfig (reference : List Step) : Config :=
  ⟨[queryOver reference, typeQuery "all" "x", typeQuery "other" "y"]⟩

/-- The results of the two queries. -/
def typeResults : Results :=
  (Results.insert {} (typeQuery "all" "x") (.object [("resource_type", .string "x")])).insert (typeQuery "other" "y")
    (.object [("resource_type", .string "y")])

/-- The reference `data.resource.all`. -/
def spelledReference : List Step := [.attribute "" "resource", .attribute "" "all"]

/-- The reference `data.resource["all"]`. -/
def indexedReference : List Step := [.attribute "" "resource", .index (.bare (.string "all"))]

theorem dependencies_cover_reads_spelled :
    (typeConfig spelledReference).dependencies (queryOver spelledReference) = .ok ["data.resource.all"] ∧
      instances (queryOver spelledReference) (typeResults.scope none) =
        instances (queryOver spelledReference) ((typeResults.restrict ["data.resource.all"]).scope none) := by
  have hdependencies : (typeConfig spelledReference).dependencies (queryOver spelledReference) =
      .ok ["data.resource.all"] := rfl
  have hothers : typeResults.Holds fun address =>
      address ≠ (queryOver spelledReference).address ∧ ((typeConfig spelledReference).get? address).isSome = true :=
    ((Results.holds_empty _).insert ⟨by decide, rfl⟩ _).insert ⟨by decide, rfl⟩ _
  refine ⟨hdependencies, ((dependencies_cover_reads hdependencies (by decide)).1 hothers).1 ?_⟩
  intro e he
  cases List.mem_singleton.mp he
  exact ⟨trivial, ⟨trivial, trivial, trivial, trivial, trivial, trivial⟩, trivial⟩

/-- An index hides a reference: the query is ordered before the one that it reads. -/
theorem indexed_read_not_covered :
    (typeConfig indexedReference).dependencies (queryOver indexedReference) = .ok [] ∧
      (typeConfig indexedReference).order =
        .ok [queryOver indexedReference, typeQuery "all" "x", typeQuery "other" "y"] ∧
      instances (queryOver indexedReference) (typeResults.scope none) = .ok (some [⟨.string "x", .string "x"⟩]) ∧
      (instances (queryOver indexedReference) ((typeResults.restrict []).scope none)).isOk = false :=
  ⟨rfl, rfl, rfl, rfl⟩

end Terrasmith
