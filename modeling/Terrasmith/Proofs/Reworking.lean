import Terrasmith.Proofs.Placement

/-!
Updates of many blocks, one after the other. Each changes the body of its own block and nothing else, and finds its
block where it was at first, so that all of them together are one change of the module: the bodies at some places are
reworked, and everything else stays.
-/
namespace Terrasmith

open Source

/-- A block with a body that comes of its own one. -/
def Source.Structure.Reworked (p : Body → Body → Prop) (x y : Structure) : Prop :=
  ∃ b body, x = .block b ∧ y = .block { b with body } ∧ p b.body body

theorem Source.Structure.Reworked.headers {p : Body → Body → Prop} {x y : Structure} (h : x.Reworked p y) :
    y.headers = x.headers := by
  obtain ⟨b, body, rfl, rfl, -⟩ := h
  rfl

/-- A file with other bodies for the blocks at some places. -/
structure SourceFile.Reworked (places : Nat → Prop) (p : Body → Body → Prop) (f g : SourceFile) : Prop where
  stored : g.stored? = f.stored?
  frame : g.body = { f.body with structures := g.body.structures }
  length : g.body.structures.length = f.body.structures.length
  inside : ∀ i x y, places i → f.body.structures[i]? = some x → g.body.structures[i]? = some y → x.Reworked p y
  outside : ∀ i, ¬ places i → g.body.structures[i]? = f.body.structures[i]?

namespace SourceFile.Reworked

variable {places : Nat → Prop} {p : Body → Body → Prop} {f g : SourceFile}

theorem map_headers (h : f.Reworked places p g) :
    g.body.structures.map Structure.headers = f.body.structures.map Structure.headers := by
  refine List.ext_getElem? fun i => ?_
  rw [List.getElem?_map, List.getElem?_map]
  by_cases hplace : places i
  · by_cases hi : i < f.body.structures.length
    · have hx := List.getElem?_eq_getElem hi
      have hy := List.getElem?_eq_getElem (h.length.symm ▸ hi : i < g.body.structures.length)
      rw [hx, hy, Option.map_some, Option.map_some, (h.inside i _ _ hplace hx hy).headers]
    · rw [List.getElem?_eq_none (Nat.le_of_not_lt hi), List.getElem?_eq_none (h.length ▸ Nat.le_of_not_lt hi)]
  · rw [h.outside i hplace]

/-- All blocks are found where they were. -/
theorem index?_eq (h : f.Reworked places p g) {s t : Snapshot} (hkind : t.kind ≠ .local) (hsame : s.kind = t.kind)
    (hlabels : s.labels = t.labels) : s.index? g.body = t.index? f.body := by
  have htest : t.isBlock = (fun headers => decide (t.header ∈ headers)) ∘ Structure.headers := by
    funext x
    rw [Function.comp_apply, Bool.eq_iff_iff, decide_eq_true_eq, t.mem_headers_iff]
  rw [Module.index?_congr hsame hlabels, Snapshot.index?, Snapshot.index?, if_neg hkind, htest, ← List.findIdx?_map,
    ← List.findIdx?_map, h.map_headers]

end SourceFile.Reworked

namespace Module

variable {m m₁ m' : Module} {p q : String → Prop} {r : Body → Body → Prop}

/-- Whether a block with one of some addresses is at a place of a file. -/
def IsPlace (m : Module) (p : String → Prop) (name : String) (i : Nat) : Prop :=
  ∃ address s file, p address ∧ Site m address s file i ∧ s.kind ≠ .local ∧ s.fileName = name

/-- A module with other bodies for the blocks of some addresses. -/
structure Reworked (p : String → Prop) (r : Body → Body → Prop) (m m' : Module) : Prop where
  names : m'.fileNames = m.fileNames
  files : ∀ name f, m.file? name = some f → ∃ g, m'.file? name = some g ∧ f.Reworked (m.IsPlace p name) r g
  tags : m'.registry.map (fun e => (e.1, e.2.tag)) = m.registry.map fun e => (e.1, e.2.tag)
  others : ∀ address, ¬ p address → m'.block? address = m.block? address

/-- An address has one place. -/
theorem Site.unique {address : String} {s s' : Snapshot} {file file' : SourceFile} {i j : Nat}
    (h : Site m address s file i) (h' : Site m address s' file' j) : s' = s ∧ file' = file ∧ j = i := by
  obtain rfl : s' = s := Option.some.inj (h'.found.symm.trans h.found)
  obtain rfl : file' = file := Option.some.inj (h'.stored.symm.trans h.stored)
  exact ⟨rfl, rfl, Option.some.inj (h'.placed.symm.trans h.placed)⟩

/-- A place belongs to one address. -/
theorem Placed.address_unique (h : m.Placed) {address address' : String} {s s' : Snapshot} {file file' : SourceFile}
    {i : Nat} (hsite : Site m address s file i) (hsite' : Site m address' s' file' i)
    (hname : s'.fileName = s.fileName) (hkind : s'.kind ≠ .local) : address' = address := by
  obtain rfl : file' = file := Option.some.inj (hsite'.stored.symm.trans ((congrArg m.file? hname).trans hsite.stored))
  obtain ⟨b, hb, hident, hlabels⟩ := Snapshot.index?_block_eq_some hkind hsite'.placed
  by_contra hne
  refine h.not_mem_headers hsite hb (mem_registry hsite'.found) hne ?_
  rw [Structure.headers, hident, hlabels]
  exact List.mem_singleton_self _

theorem Reworked.refl (hp : ∀ address, ¬ p address) (m : Module) : Reworked p r m m where
  names := rfl
  files name f hf := by
    refine ⟨f, hf, rfl, (Body.mk_self f.body).symm, rfl, fun i x y hplace => ?_, fun i _ => rfl⟩
    obtain ⟨address, s, file, haddress, -⟩ := hplace
    exact absurd haddress (hp address)
  tags := rfl
  others _ _ := rfl

theorem Reworked.mono {r' : Body → Body → Prop} (h : Reworked p r m m') (hr : ∀ b d, r b d → r' b d) :
    Reworked p r' m m' where
  names := h.names
  files name f hf := by
    obtain ⟨g, hg, hfile⟩ := h.files name f hf
    refine ⟨g, hg, hfile.stored, hfile.frame, hfile.length, fun i x y hplace hx hy => ?_, hfile.outside⟩
    obtain ⟨b, body, hb, hd, hbody⟩ := hfile.inside i x y hplace hx hy
    exact ⟨b, body, hb, hd, hr _ _ hbody⟩
  tags := h.tags
  others := h.others

/-- Every address has its entry in the same file and under the same kind and labels. -/
theorem Reworked.map_tag (h : Reworked p r m m') (address : String) :
    (m'.block? address).map Snapshot.tag = (m.block? address).map Snapshot.tag := by
  have hlookup : ∀ registry : List (String × Snapshot),
      (registry.map fun e => (e.1, e.2.tag)).lookup address = (registry.lookup address).map Snapshot.tag := by
    intro registry
    induction registry with
    | nil => rfl
    | cons e rest ih =>
      rw [List.map_cons, List.lookup_cons, List.lookup_cons, ih]
      split <;> rfl
  rw [block?, block?, ← hlookup, ← hlookup, h.tags]

/-- A block stays where it is. -/
theorem Reworked.exists_site (h : Reworked p r m m') {address : String} {s : Snapshot} {f : SourceFile} {i : Nat}
    (hsite : Site m address s f i) (hkind : s.kind ≠ .local) :
    ∃ s' g, Site m' address s' g i ∧ s'.tag = s.tag ∧ f.Reworked (m.IsPlace p s.fileName) r g := by
  obtain ⟨g, hg, hfile⟩ := h.files s.fileName f hsite.stored
  have htag := h.map_tag address
  rw [hsite.found, Option.map_some, Option.map_eq_some_iff] at htag
  obtain ⟨s', hs', htag⟩ := htag
  obtain ⟨hname, hsame, hlabels⟩ := Snapshot.tag_eq_iff.mp htag
  exact ⟨s', g, ⟨hs', hname ▸ hg, (hfile.index?_eq hkind hsame hlabels).trans hsite.placed⟩, htag, hfile⟩

theorem Reworked.isPlace_iff (h : Reworked p r m m') (hm : m.Placed) {name : String} {i : Nat} :
    m'.IsPlace q name i ↔ m.IsPlace q name i := by
  constructor
  · rintro ⟨address, s', g, haddress, hsite', hkind', hname'⟩
    have htag := h.map_tag address
    rw [hsite'.found, Option.map_some, eq_comm, Option.map_eq_some_iff] at htag
    obtain ⟨s, hs, htag⟩ := htag
    obtain ⟨hname, hkind, -⟩ := Snapshot.tag_eq_iff.mp htag
    obtain ⟨f, j, b, hsite, -⟩ := hm.exists_site hs (hkind ▸ hkind')
    obtain ⟨s'', g', hsite'', -⟩ := h.exists_site hsite (hkind ▸ hkind')
    obtain ⟨-, -, rfl⟩ := hsite'.unique hsite''
    exact ⟨address, s, f, haddress, hsite, hkind ▸ hkind', hname.trans hname'⟩
  · rintro ⟨address, s, f, haddress, hsite, hkind, hname⟩
    obtain ⟨s', g, hsite', htag, -⟩ := h.exists_site hsite hkind
    obtain ⟨hname', hkind', -⟩ := Snapshot.tag_eq_iff.mp htag
    exact ⟨address, s', g, haddress, hsite', hkind' ▸ hkind, hname'.trans hname⟩

/-- Changes of blocks that are not the same are one change of all of them. -/
theorem Reworked.trans (hm : m.Placed) (h : Reworked p r m m₁) (h₁ : Reworked q r m₁ m')
    (hapart : ∀ address, p address → ¬ q address) : Reworked (fun address => p address ∨ q address) r m m' where
  names := h₁.names.trans h.names
  files name f hf := by
    obtain ⟨g₁, hg₁, hfile⟩ := h.files name f hf
    obtain ⟨g, hg, hfile₁⟩ := h₁.files name g₁ hg₁
    have hplaces : ∀ i, m.IsPlace (fun address => p address ∨ q address) name i ↔
        m.IsPlace p name i ∨ m₁.IsPlace q name i := by
      intro i
      rw [h.isPlace_iff hm]
      constructor
      · rintro ⟨address, s, file, hp | hq, hrest⟩
        · exact .inl ⟨address, s, file, hp, hrest⟩
        · exact .inr ⟨address, s, file, hq, hrest⟩
      · rintro (⟨address, s, file, hp, hrest⟩ | ⟨address, s, file, hq, hrest⟩)
        · exact ⟨address, s, file, .inl hp, hrest⟩
        · exact ⟨address, s, file, .inr hq, hrest⟩
    have hdisjoint : ∀ i, m.IsPlace p name i → ¬ m₁.IsPlace q name i := by
      rintro i ⟨address, s, file, hp, hsite, hkind, hname⟩ hq
      obtain ⟨address', s', file', hq, hsite', hkind', hname'⟩ := (h.isPlace_iff hm).mp hq
      obtain rfl := hm.address_unique hsite hsite' (hname'.trans hname.symm) hkind'
      exact hapart _ hp hq
    refine ⟨g, hg, hfile₁.stored.trans hfile.stored, ?_, hfile₁.length.trans hfile.length, fun i x z hplace hx hz => ?_,
      fun i hplace => ?_⟩
    · rw [hfile₁.frame, hfile.frame]
    · by_cases hp : m.IsPlace p name i
      · rw [hfile₁.outside i (hdisjoint i hp)] at hz
        exact hfile.inside i x z hp hx hz
      · have hq := ((hplaces i).mp hplace).resolve_left hp
        rw [← hfile.outside i hp] at hx
        exact hfile₁.inside i x z hq hx hz
    · rw [hplaces, not_or] at hplace
      rw [hfile₁.outside i hplace.2, hfile.outside i hplace.1]
  tags := h₁.tags.trans h.tags
  others address haddress := by
    rw [not_or] at haddress
    rw [h₁.others address haddress.2, h.others address haddress.1]

/-- The update of one block. -/
theorem Site.reworked {address : String} {s : Snapshot} {file : SourceFile} {i : Nat} {b : Block} {body : Body}
    (hsite : Site m address s file i) (hlocal : s.kind ≠ .local) (hb : file.body.structures[i]? = some (.block b))
    (h : r b.body body) : Reworked (· = address) r m (m.rewritten address s file i b { b with body }) := by
  obtain ⟨changed, s', heq, hname, hkind, hlabels⟩ := rewritten_eq_setBlock hsite b { b with body }
  have hplace : ∀ name j, m.IsPlace (· = address) name j ↔ name = s.fileName ∧ j = i := by
    intro name j
    constructor
    · rintro ⟨address', s', file', rfl, hsite', -, rfl⟩
      obtain ⟨rfl, -, rfl⟩ := hsite.unique hsite'
      exact ⟨rfl, rfl⟩
    · rintro ⟨rfl, rfl⟩
      exact ⟨address, s, file, rfl, hsite, hlocal, rfl⟩
  have hlt : i < file.body.structures.length := (List.getElem?_eq_some_iff.mp hb).1
  rw [heq]
  refine ⟨fileNames_setFile hsite.stored _, fun name f hf => ?_, ?_, fun address' hne => ?_⟩
  · by_cases hfile : name = s.fileName
    · subst hfile
      obtain rfl : f = file := Option.some.inj (hf.symm.trans hsite.stored)
      refine ⟨_, file?_setFile_self .., rfl, rfl, List.length_set, fun j x y hj hx hy => ?_, fun j hj => ?_⟩
      · obtain ⟨-, rfl⟩ := (hplace _ j).mp hj
        obtain rfl : .block b = x := Option.some.inj (hb.symm.trans hx)
        rw [List.getElem?_set_self hlt] at hy
        exact ⟨b, body, rfl, (Option.some.inj hy).symm, h⟩
      · rw [hplace] at hj
        exact List.getElem?_set_ne fun hij => hj ⟨rfl, hij.symm⟩
    · refine ⟨f, (lookup_insertEntry_of_ne hfile _ m.files).trans hf, rfl, (Body.mk_self f.body).symm, rfl,
        fun j x y hj => ?_, fun j _ => rfl⟩
      exact absurd ((hplace name j).mp hj).1 hfile
  · obtain ⟨before, after, hregistry, hinsert, -⟩ := registry_around hsite.found
    have htag : s'.tag = s.tag := Snapshot.tag_eq_iff.mpr ⟨hname, hkind, hlabels⟩
    rw [Module.setBlock, Module.setFile, hinsert, hregistry]
    simp only [List.map_append, List.map_cons, htag]
  · exact lookup_insertEntry_of_ne hne s' m.registry

/-- Updates of different blocks, all of which succeed. -/
theorem Placed.reworked_forAll (h : m.Placed) (f : Body → Body) {addresses : List String} (hnodup : addresses.Nodup)
    (hknown : ∀ address ∈ addresses, ∃ s, m.block? address = some s ∧ s.kind ≠ .local) :
    ∃ m', Applied.forAll m addresses (fun address m =>
        .ofResult m (m.updateBlock address fun b => { b with body := f b.body })) = { module := m' } ∧
      m'.Placed ∧ Reworked (· ∈ addresses) (fun b d => d = f b) m m' := by
  induction addresses generalizing m with
  | nil => exact ⟨m, rfl, h, .refl (fun _ => List.not_mem_nil) m⟩
  | cons address rest ih =>
    rw [List.nodup_cons] at hnodup
    obtain ⟨s, hs, hkind⟩ := hknown address List.mem_cons_self
    obtain ⟨file, i, b, hsite, hb⟩ := h.exists_site hs hkind
    have hupdate := updateBlock_of_site hsite hkind hb fun b => { b with body := f b.body }
    have hfirst : Reworked (· = address) (fun b d => d = f b) m
        (m.rewritten address s file i b { b with body := f b.body }) := hsite.reworked hkind hb rfl
    have hnext : Placed (m.rewritten address s file i b { b with body := f b.body }) :=
      h.updateBlock (f := fun b => { b with body := f b.body }) (fun b => ⟨rfl, rfl⟩) hupdate
    obtain ⟨m', hrest, hplaced, hreworked⟩ := ih hnext hnodup.2 fun other hother => by
      obtain ⟨t, ht, htkind⟩ := hknown other (List.mem_cons_of_mem _ hother)
      have hne : other ≠ address := fun heq => hnodup.1 (heq ▸ hother)
      exact ⟨t, (hfirst.others other hne).trans ht, htkind⟩
    refine ⟨m', ?_, hplaced, ?_⟩
    · rw [Applied.forAll_cons, hupdate]
      exact hrest
    · have hall := hfirst.trans h hreworked fun other heq hmem => hnodup.1 (heq ▸ hmem)
      simpa only [List.mem_cons] using hall

/-- Updates that give every block the body that it has change nothing. -/
theorem forAll_updateBlock_self (f : Body → Body) {addresses : List String}
    (h : ∀ address ∈ addresses, ∃ s file i b, Site m address s file i ∧ s.kind ≠ .local ∧
      file.body.structures[i]? = some (.block b) ∧ f b.body = b.body) :
    Applied.forAll m addresses (fun address m =>
      .ofResult m (m.updateBlock address fun b => { b with body := f b.body })) = { module := m } := by
  induction addresses with
  | nil => rfl
  | cons address rest ih =>
    obtain ⟨s, file, i, b, hsite, hkind, hb, hself⟩ := h address List.mem_cons_self
    have hupdate := updateBlock_of_site hsite hkind hb fun b => { b with body := f b.body }
    rw [hself, Block.mk_self, rewritten_self hsite hb] at hupdate
    rw [Applied.forAll_cons, hupdate]
    exact ih fun other hother => h other (List.mem_cons_of_mem _ hother)

end Module

end Terrasmith
