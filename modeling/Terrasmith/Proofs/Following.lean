import Mathlib.Data.List.Find
import Terrasmith.Proofs.Consistency
import Terrasmith.Proofs.TerraformBlocks

/-!
Which of the `terraform` blocks the address `terraform` stands for. The block that is registered when a module is
loaded can be followed through the transforms: it goes when it is removed, it moves to the end of other files, and
another one takes its place when one is created. The locator finds this block as long as it enters only files that
have no other `terraform` block.
-/
namespace Terrasmith

open Source

/-- Where a `terraform` block is: its file, and how many others are in front of it there. -/
structure Place where
  fileName : String
  rank : Nat
  deriving Repr, DecidableEq

namespace Module

variable {m m' : Module}

/-- The place of the block that the locator of the address `terraform` finds. -/
def terraform? (m : Module) : Option Place := do
  let s ← m.block? "terraform"
  let file ← m.file? s.fileName
  let i ← s.index? file.body
  some ⟨s.fileName, rankAt file.body i⟩

/-- The `terraform` blocks of a file without the one at a place. -/
def others (m : Module) (p? : Option Place) (name : String) : List Block :=
  match p? with
  | none => m.terraforms name
  | some p => if p.fileName = name then (m.terraforms name).eraseIdx p.rank else m.terraforms name

/-- The registered block is found, and it is the first one of its file. -/
theorem Tracked.terraform?_eq (h : m.Tracked) : m.terraform? = m.terraformFile?.map (⟨·, 0⟩) := by
  cases hs : m.block? "terraform" with
  | none => simp [terraform?, terraformFile?, hs]
  | some s =>
    have hhome : m.terraformFile? = some s.fileName := by simp [terraformFile?, hs]
    obtain ⟨hsome, hne⟩ := h.present _ hhome
    obtain ⟨file, hfile⟩ := Option.isSome_iff_exists.mp hsome
    have hmem := mem_registry hs
    have hkind := (h.entered.kind_iff hmem).mp rfl
    have hlabels := h.entered.bare _ hmem hkind
    rw [terraforms_of_file? hfile] at hne
    obtain ⟨i, hi⟩ := Snapshot.exists_index?_terraform hkind hlabels hne
    obtain ⟨-, -, -, hfirst⟩ := Snapshot.index?_terraform hkind hlabels hi
    have hrank : rankAt file.body i = 0 := by rw [rankAt, hfirst, List.length_nil]
    simp [terraform?, hs, hfile, hi, hhome, hrank]

theorem Tracked.others_eq (h : m.Tracked) (name : String) : m.others m.terraform? name = m.strays name := by
  rw [h.terraform?_eq, strays]
  cases hfile : m.terraformFile? with
  | none => simp [others]
  | some other =>
    simp only [others, Option.map_some, Option.some.injEq]
    rw [List.eraseIdx_zero]

end Module

/-- What becomes of the block of the address `terraform`. -/
inductive Fate where
  | stays
  | goes
  | enters (fileName : String)
  deriving Repr, DecidableEq

namespace Fate

/-- What has become of it. -/
def Comes (m m' : Module) : Fate → Prop
  | .stays => m.Steady m'
  | .goes => m.Loses m'
  | .enters fileName => m.Enters m' fileName

/-- Where the block is after that: a block that enters a file comes behind all others. -/
def place? (m : Module) (p? : Option Place) : Fate → Option Place
  | .stays => p?
  | .goes => none
  | .enters fileName => some ⟨fileName, (m.terraforms fileName).length⟩

/-- The block enters only a file without `terraform` blocks. -/
def Clear (m : Module) : Fate → Prop
  | .enters fileName => m.terraforms fileName = []
  | _ => True

instance (m : Module) : (fate : Fate) → Decidable (fate.Clear m)
  | .enters fileName => inferInstanceAs (Decidable (m.terraforms fileName = []))
  | .stays => inferInstanceAs (Decidable True)
  | .goes => inferInstanceAs (Decidable True)

variable {m m' : Module} {fate : Fate}

theorem Comes.tracked (h : fate.Comes m m') : m'.Tracked := by
  cases fate with
  | stays => exact h.tracked
  | goes => exact h.tracked
  | enters fileName => exact h.tracked

/-- The locator finds the block again exactly if the block comes to a file of its own. -/
theorem Comes.terraform?_eq_iff (h : fate.Comes m m') (hm : m.Tracked) :
    m'.terraform? = fate.place? m m.terraform? ↔ fate.Clear m := by
  rw [h.tracked.terraform?_eq]
  cases fate with
  | stays =>
    have hplace : Option.map (⟨·, 0⟩) m'.terraformFile? = m.terraform? := by rw [hm.terraform?_eq, h.file]
    exact iff_of_true hplace trivial
  | goes =>
    have hplace : Option.map (⟨·, 0⟩) m'.terraformFile? = (none : Option Place) := by rw [h.file]; rfl
    exact iff_of_true hplace trivial
  | enters fileName =>
    rw [h.file, place?, Clear, Option.map_some, Option.some.injEq, Place.mk.injEq, eq_self, true_and, eq_comm,
      List.length_eq_zero_iff]

theorem Comes.others (h : fate.Comes m m') (hm : m.Tracked) (hclear : fate.Clear m) (name : String) :
    m'.others m'.terraform? name = m.others m.terraform? name := by
  rw [h.tracked.others_eq, hm.others_eq]
  cases fate with
  | stays => exact h.strays name
  | goes => exact h.strays name
  | enters fileName =>
    by_cases hname : name = fileName
    · subst hname
      obtain ⟨b, happended⟩ := h.appended
      have hnone : m.terraforms name = [] := hclear
      rw [Module.strays, Module.strays, if_pos h.file, if_neg h.outside, happended, hnone]
      rfl
    · exact h.strays name hname

end Fate

namespace Transform

/-- What a transform does to the block of the address `terraform`, which is at a place before it, if it succeeds. -/
def aim : Transform → Option Place → Fate
  | .removeBlock target, _ => if target = "terraform" then .goes else .stays
  | .moveBlock target fileName, p? =>
    if target = "terraform" ∧ p?.map Place.fileName ≠ some fileName then .enters fileName else .stays
  | .newBlock (some .terraform) _ fileName _, _ => .enters fileName
  | _, _ => .stays

/-- A transform that fails leaves the block where it is. -/
def fate (t : Transform) (m : Module) (p? : Option Place) : Fate :=
  match (t.apply m).error? with
  | some _ => .stays
  | none => t.aim p?

/-- Where the block of the address `terraform` is after a transform. -/
def follow (t : Transform) (m : Module) (p? : Option Place) : Option Place := (t.fate m p?).place? m p?

def followAll : List Transform → Module → Option Place → Option Place
  | [], _, p? => p?
  | t :: rest, m, p? => followAll rest (t.apply m).module (t.follow m p?)

/-- Wherever the block of the address `terraform` goes, there is no other `terraform` block. -/
def ClearAll : List Transform → Module → Option Place → Prop
  | [], _, _ => True
  | t :: rest, m, p? => (t.fate m p?).Clear m ∧ ClearAll rest (t.apply m).module (t.follow m p?)

instance decidableClearAll : (ts : List Transform) → (m : Module) → (p? : Option Place) → Decidable (ClearAll ts m p?)
  | [], _, _ => inferInstanceAs (Decidable True)
  | t :: rest, m, p? =>
    have := decidableClearAll rest (t.apply m).module (t.follow m p?)
    inferInstanceAs (Decidable (_ ∧ _))

/-- Whether a transform is about a `terraform` block as a whole. -/
def Shifts : Transform → Prop
  | .removeBlock target => target = "terraform"
  | .moveBlock target _ => target = "terraform"
  | .newBlock kind? _ _ _ => kind? = some .terraform
  | _ => False

theorem aim_of_not_shifts {t : Transform} (h : ¬ t.Shifts) (p? : Option Place) : t.aim p? = .stays := by
  cases t with
  | removeBlock target => exact if_neg h
  | moveBlock target fileName => exact if_neg fun hboth => h hboth.1
  | newBlock kind? labels fileName body =>
    rcases kind? with _ | kind
    · rfl
    · cases kind <;> first | rfl | exact absurd rfl h
  | _ => rfl

theorem steady_of_not_shifts {t : Transform} (hshifts : ¬ t.Shifts) (hname : t.name ≠ "regex_replace_expression")
    {m : Module} (h : m.Tracked) : m.Steady (t.apply m).module := by
  have hupdate : ∀ (m : Module) (address : String) (f : Block → Body), m.Tracked →
      m.Steady (Applied.ofResult m (m.updateBlock address fun b => { b with body := f b })).module :=
    fun m address f h => h.steady_ofResult fun m' hok =>
      h.updateBlock (f := fun b => { b with body := f b }) (fun b => ⟨rfl, rfl⟩) hok
  cases t with
  | updateInPlace target patch => exact hupdate m target _ h
  | removeElements target paths => exact hupdate m target _ h
  | removeNestedBlocks target paths => exact hupdate m target _ h
  | appendBody target body => exact hupdate m target _ h
  | renameElements rules =>
    exact h.steady_forAll (fun r m hm => hm.steady_forAll (fun address m hm => hupdate m address _ hm) _) rules
  | removeBlock target => exact h.steady_ofResult_map fun m' _ hok => h.removeBlock hshifts hok
  | moveBlock target fileName => exact h.steady_ofResult_map fun m' _ hok => h.moveBlock hshifts hok
  | replaceText regex replacement => exact absurd rfl hname
  | ensureLocal label fileName value =>
    simp only [apply]
    cases value.attribute label with
    | error e => exact h.steady_self
    | ok a =>
      dsimp only
      split
      · exact h.steady_ofResult fun m' hok => h.updateLocal hok
      · exact h.steady_ofResult_map fun m' _ hok => h.addLocal hok
  | newBlock kind? labels fileName body =>
    cases kind? with
    | none =>
      exact h.steady_forAll (fun a m hm => hm.steady_ofResult_map fun m' _ hok => hm.addLocal hok) _
    | some kind =>
      have hkind : kind ≠ .terraform := fun heq => hshifts (congrArg some heq)
      exact h.steady_ofResult_map fun m' _ hok => h.addBlock rfl hkind hok

theorem comes_ofResult {t : Transform} {m : Module} (h : m.Tracked) {r : Except ModuleError Module}
    (happly : t.apply m = .ofResult m r) {p? : Option Place} (hok : ∀ m', r = .ok m' → (t.aim p?).Comes m m') :
    (t.fate m p?).Comes m (t.apply m).module := by
  unfold fate
  rw [happly]
  cases r with
  | error e => exact h.steady_self
  | ok m' => exact hok m' rfl

theorem comes_ofResult_map {α : Type} {t : Transform} {m : Module} (h : m.Tracked)
    {r : Except ModuleError (Module × α)} (happly : t.apply m = .ofResult m (r.map (·.1))) {p? : Option Place}
    (hok : ∀ m' x, r = .ok (m', x) → (t.aim p?).Comes m m') : (t.fate m p?).Comes m (t.apply m).module := by
  refine comes_ofResult h happly fun m' hmap => ?_
  obtain ⟨⟨m'', x⟩, hr, rfl⟩ := map_eq_ok hmap
  exact hok _ x hr

/-- What is said to become of the block becomes of it. -/
theorem comes {t : Transform} (ht : t.Labelled) (hname : t.name ≠ "regex_replace_expression") {m : Module}
    (h : m.Tracked) : (t.fate m m.terraform?).Comes m (t.apply m).module := by
  by_cases hshifts : t.Shifts
  · cases t with
    | removeBlock target =>
      obtain rfl : target = "terraform" := hshifts
      exact comes_ofResult_map h rfl fun m' _ hok => h.removeTerraform hok
    | moveBlock target fileName =>
      obtain rfl : target = "terraform" := hshifts
      have hplace : m.terraform?.map Place.fileName = m.terraformFile? := by
        rw [h.terraform?_eq, Option.map_map]
        exact Option.map_id' ..
      refine comes_ofResult_map h rfl fun m' _ hok => ?_
      rw [aim, hplace]
      by_cases hinside : m.terraformFile? = some fileName
      · rw [if_neg fun hboth => hboth.2 hinside]
        exact h.moveTerraform_self hinside hok
      · rw [if_pos ⟨rfl, hinside⟩]
        exact h.moveTerraform hinside hok
    | newBlock kind? labels fileName body =>
      obtain rfl : kind? = some .terraform := hshifts
      obtain rfl : labels = [] := List.length_eq_zero_iff.mp ht.2
      exact comes_ofResult_map h rfl fun m' _ hok => h.addTerraform rfl rfl hok
    | _ => exact hshifts.elim
  · have hstays : t.fate m m.terraform? = .stays := by
      unfold fate
      split
      · rfl
      · exact aim_of_not_shifts hshifts _
    rw [hstays]
    exact steady_of_not_shifts hshifts hname h

/-- Through all transforms the locator finds the block that is followed, and the others are as they were, exactly if
that block comes to a file of its own wherever it goes. -/
theorem found_iff_clearAll {ts : List Transform} (hts : ∀ t ∈ ts, t.Labelled)
    (hnames : ∀ t ∈ ts, t.name ≠ "regex_replace_expression") {m : Module} (h : m.Tracked) :
    (∀ first, first <+: ts → (applyAll first m).terraform? = followAll first m m.terraform? ∧
      ∀ name, (applyAll first m).others (followAll first m m.terraform?) name = m.others m.terraform? name) ↔
    ClearAll ts m m.terraform? := by
  induction ts generalizing m with
  | nil =>
    refine iff_of_true (fun first hfirst => ?_) trivial
    rw [List.prefix_nil.mp hfirst]
    exact ⟨rfl, fun name => rfl⟩
  | cons t rest ih =>
    have hcomes := comes (hts t List.mem_cons_self) (hnames t List.mem_cons_self) h
    have hrest := ih (fun u hu => hts u (List.mem_cons_of_mem _ hu)) (fun u hu => hnames u (List.mem_cons_of_mem _ hu))
      hcomes.tracked
    rw [ClearAll]
    constructor
    · intro hall
      -- The course that ends with the first transform tells that this one is clear.
      have hclear : (t.fate m m.terraform?).Clear m :=
        (hcomes.terraform?_eq_iff h).mp (hall [t] (List.prefix_append [t] rest)).1
      have hfollow : (t.apply m).module.terraform? = t.follow m m.terraform? :=
        (hcomes.terraform?_eq_iff h).mpr hclear
      refine ⟨hclear, ?_⟩
      rw [← hfollow]
      refine hrest.mp fun first hfirst => ?_
      obtain ⟨hplace, hothers⟩ := hall (t :: first) (List.cons_prefix_cons.mpr ⟨rfl, hfirst⟩)
      rw [followAll, ← hfollow] at hplace hothers
      exact ⟨hplace, fun name => (hothers name).trans (hcomes.others h hclear name).symm⟩
    · rintro ⟨hclear, hclearRest⟩ first hfirst
      have hfollow : (t.apply m).module.terraform? = t.follow m m.terraform? :=
        (hcomes.terraform?_eq_iff h).mpr hclear
      rw [← hfollow] at hclearRest
      rcases List.prefix_cons_iff.mp hfirst with rfl | ⟨later, rfl, hlater⟩
      · exact ⟨rfl, fun name => rfl⟩
      · obtain ⟨hplace, hothers⟩ := hrest.mpr hclearRest later hlater
        rw [followAll, ← hfollow]
        exact ⟨hplace, fun name => (hothers name).trans (hcomes.others h hclear name)⟩

end Transform

namespace Source

/-- The `terraform` blocks of a tree are its nodes of that kind. -/
theorem Body.terraforms_ne_nil_iff {b : Body} : b.terraforms ≠ [] ↔ ∃ n ∈ b.nodes, n.kind = .terraform := by
  constructor
  · intro h
    obtain ⟨e, he⟩ := List.exists_mem_of_ne_nil _ h
    obtain ⟨x, hx, he⟩ := List.mem_flatMap.mp he
    rcases x with a | d
    · cases he
    · rw [Structure.terraforms] at he
      split at he
      · rename_i hd
        simp only [Block.isTerraform, Bool.and_eq_true, decide_eq_true_eq] at hd
        have hnodes : d.nodes = [.block .terraform d] :=
          Block.nodes_of_kind hd.1 (by decide) (by rw [hd.2]; rfl)
        exact ⟨.block .terraform d, Body.mem_nodes.mpr ⟨d, hx, by simp [hnodes]⟩, rfl⟩
      · cases he
  · rintro ⟨n, hn, hkind⟩
    obtain ⟨e, he, hn⟩ := Body.mem_nodes.mp hn
    cases n with
    | declaration a => cases hkind
    | block kind e' =>
      obtain rfl : kind = .terraform := hkind
      obtain ⟨-, hident, -, hcount⟩ := Block.mem_nodes_block hn
      have hterraform : e.isTerraform = true := by
        simp [Block.isTerraform, hident, BlockKind.name, List.length_eq_zero_iff.mp hcount]
      refine List.ne_nil_of_mem (a := e) (List.mem_flatMap.mpr ⟨.block e, he, ?_⟩)
      rw [Structure.terraforms_of_isTerraform hterraform]
      exact List.mem_singleton_self e

end Source

/-- A node of the kind has no labels, so its address is `terraform`. -/
theorem TreeNode.address_eq_iff {b : Body} {n : TreeNode} (hn : n ∈ b.nodes) :
    n.address = "terraform" ↔ n.kind = .terraform := by
  constructor
  · intro haddress
    exact BlockKind.kind_eq_of_address (haddress.trans BlockKind.address_terraform.symm)
  · intro hkind
    have hlabels : n.labels = [] := by
      rw [← List.length_eq_zero_iff, Body.length_labels_of_mem_nodes hn, hkind]
      rfl
    rw [address, hkind, hlabels, BlockKind.address_terraform]

/-- The first `terraform` block that is read from a tree, if there is one. -/
theorem find?_snapshotsOf (origin : Origin) (name : String) (lines : Text.LineIndex) (b : Body) :
    ((snapshotsOf origin name lines b).find? fun s => s.address = "terraform").map (·.fileName) =
      if b.terraforms ≠ [] then some name else none := by
  have haddress : ∀ n : TreeNode, (n.snapshotRead name origin lines).address = n.address := fun n => by
    cases n <;> rfl
  have hname : ∀ n : TreeNode, (n.snapshotRead name origin lines).fileName = name := fun n => by
    cases n <;> rfl
  rw [snapshotsOf_eq]
  split
  · rename_i hne
    obtain ⟨n, hn, hkind⟩ := Body.terraforms_ne_nil_iff.mp hne
    cases hfind : (b.nodes.map (·.snapshotRead name origin lines)).find? fun s => s.address = "terraform" with
    | none =>
      refine absurd ((TreeNode.address_eq_iff hn).mpr hkind) ?_
      simpa [haddress] using List.find?_eq_none.mp hfind _ (List.mem_map_of_mem hn)
    | some s =>
      obtain ⟨n', -, rfl⟩ := List.mem_map.mp (List.mem_of_find?_eq_some hfind)
      rw [Option.map_some, hname]
  · rename_i hnone
    rw [List.find?_eq_none.mpr, Option.map_none]
    intro s hs
    obtain ⟨n, hn, rfl⟩ := List.mem_map.mp hs
    rw [haddress, decide_eq_true_eq, TreeNode.address_eq_iff hn]
    exact fun hkind => hnone (Body.terraforms_ne_nil_iff.mpr ⟨n, hn, hkind⟩)

theorem bare_of_mem_snapshotsOf {origin : Origin} {name : String} {lines : Text.LineIndex} {b : Body} {s : Snapshot}
    (hs : s ∈ snapshotsOf origin name lines b) (hkind : s.kind = .terraform) : s.labels = [] := by
  rw [snapshotsOf_eq] at hs
  obtain ⟨n, hn, rfl⟩ := List.mem_map.mp hs
  have hcount := Body.length_labels_of_mem_nodes hn
  have hnode : n.kind = (n.snapshotRead name origin lines).kind ∧
      n.labels = (n.snapshotRead name origin lines).labels := by
    cases n <;> exact ⟨rfl, rfl⟩
  rw [hnode.1, hnode.2, hkind] at hcount
  exact List.length_eq_zero_iff.mp hcount

namespace Module

/-- Of the blocks that are entered, the first one of an address stays. -/
theorem entered_foldlM_register {snapshots : List Snapshot} {m m' : Module}
    (hbare : ∀ s ∈ snapshots, s.kind = .terraform → s.labels = []) (h : Entered m.registry)
    (hok : snapshots.foldlM register m = .ok m') :
    Entered m'.registry ∧ ∀ address, m'.block? address = (m.block? address).or
      (snapshots.find? fun s => s.address = address) := by
  induction snapshots generalizing m with
  | nil =>
    cases hok
    exact ⟨h, fun address => by simp⟩
  | cons s rest ih =>
    rw [List.foldlM_cons] at hok
    obtain ⟨m₁, hfirst, hrest⟩ := bind_eq_ok hok
    have hlater := fun h => ih (m := m₁) (fun s hs => hbare s (List.mem_cons_of_mem _ hs)) h hrest
    unfold register at hfirst
    split at hfirst
    · rename_i hnone
      cases hfirst
      have hinsert : m.registry ++ [(s.address, s)] = insertEntry s.address s m.registry :=
        (insertEntry_of_lookup_eq_none hnone s).symm
      obtain ⟨hentered, hblock⟩ := hlater (hinsert ▸ h.insert rfl (hbare s List.mem_cons_self))
      refine ⟨hentered, fun address => ?_⟩
      rw [hblock, block?, hinsert, List.find?_cons]
      by_cases haddress : s.address = address
      · subst haddress
        have hnone' : m.block? s.address = none := hnone
        simp [lookup_insertEntry_self, hnone']
      · rw [lookup_insertEntry_of_ne (Ne.symm haddress)]
        simp [haddress, block?]
    · rename_i existing hexisting
      split at hfirst
      · -- A further `terraform` block is passed over.
        cases hfirst
        obtain ⟨hentered, hblock⟩ := hlater h
        refine ⟨hentered, fun address => ?_⟩
        rw [hblock, List.find?_cons]
        by_cases haddress : s.address = address
        · subst haddress
          simp [hexisting]
        · simp [haddress]
      · cases hfirst

/-- Files are read with the first `terraform` block of all registered. -/
structure Read (m : Module) : Prop where
  entered : Entered m.registry
  first : m.terraformFile? = m.fileNames.find? fun name => m.terraforms name ≠ []

theorem Read.tracked {m : Module} (h : m.Read) : m.Tracked := by
  refine ⟨h.entered, fun name hname => ?_⟩
  rw [h.first] at hname
  refine ⟨?_, by simpa using List.find?_some hname⟩
  obtain ⟨⟨_, file⟩, hfile, rfl⟩ := List.mem_map.mp (List.mem_of_find?_eq_some hname)
  rw [file?, Option.isSome_iff_ne_none]
  intro hnone
  simpa using List.lookup_eq_none_iff.mp hnone _ hfile

theorem Read.addFile {m m' : Module} {name content : String} (h : m.Read) (hok : m.addFile name content = .ok m')
    (hnew : name ∉ m.fileNames) : m'.Read := by
  obtain ⟨-, -, -, hfileNames, -⟩ := addFile_frame hok hnew
  obtain ⟨body, m₁, -, hfold, rfl⟩ := addFile_eq_ok hok
  obtain ⟨hfiles, hdisk, -⟩ := foldlM_register_frame hfold
  obtain ⟨hentered, hblock⟩ := entered_foldlM_register (fun s hs => bare_of_mem_snapshotsOf hs) h.entered hfold
  have hsame : ∀ other, m₁.terraforms other = m.terraforms other := fun other => by
    simp [terraforms, fileOrDisk, file?, hfiles, hdisk]
  let file : SourceFile := { stored? := some content, body }
  have hothers : ∀ other ∈ m.fileNames, (m₁.setFile name file).terraforms other = m.terraforms other := by
    intro other hother
    have hne : other ≠ name := fun heq => hnew (heq ▸ hother)
    rw [terraforms_setFile, if_neg hne, hsame]
  have hold : (m.fileNames.find? fun other => (m₁.setFile name file).terraforms other ≠ []) = m.terraformFile? := by
    rw [h.first]
    exact List.find?_congr fun other hother => by rw [hothers other hother]
  have hfound := find?_snapshotsOf m.origin name (.ofText content) body
  refine ⟨hentered, ?_⟩
  rw [hfileNames, List.find?_append, hold, terraformFile?, block?_setFile, hblock, Option.map_or, hfound,
    List.find?_singleton, terraforms_setFile, if_pos rfl, terraformFile?]
  simp only [decide_eq_true_eq]

theorem read_ofSources {origin : Origin} {disk : String → Option String} {sources : List (String × String)}
    {m : Module} (hok : ofSources origin disk sources = .ok m) (hnames : (sources.map Prod.fst).Nodup) :
    m.Read ∧ m.fileNames = sources.map Prod.fst :=
  ⟨ofSources_keeps (fun h hok hnew => h.addFile hok hnew) ⟨⟨nofun, List.nodup_nil, nofun⟩, rfl⟩ hok hnames,
    (foldlM_addFile_frame hok hnames).2.1⟩

end Module

/-- The address `terraform` begins with the first `terraform` block of all files. Through all transforms that are
read from declarations and replace no text it stands for the block that is followed from there, and every other
`terraform` block keeps its file and its tree, exactly if the followed block never enters a file that has one. -/
theorem terraform_address_keeps_its_block_iff {origin : Origin} {disk : String → Option String}
    {sources : List (String × String)} {m : Module} (hload : Module.ofSources origin disk sources = .ok m)
    (hnames : (sources.map Prod.fst).Nodup) (ts : List Transform)
    (hdecoded : ∀ t ∈ ts, ∃ type body scope d, Transform.decode type body scope d = .ok t)
    (hregex : ∀ t ∈ ts, t.name ≠ "regex_replace_expression") :
    m.terraform? = ((sources.map Prod.fst).find? fun name => m.terraforms name ≠ []).map (⟨·, 0⟩) ∧
    ((∀ first, first <+: ts →
      (Transform.applyAll first m).terraform? = Transform.followAll first m m.terraform? ∧
      ∀ name, (Transform.applyAll first m).others (Transform.followAll first m m.terraform?) name =
        m.others m.terraform? name) ↔
      Transform.ClearAll ts m m.terraform?) := by
  obtain ⟨hread, hfileNames⟩ := Module.read_ofSources hload hnames
  have hlabelled : ∀ t ∈ ts, t.Labelled := by
    intro t ht
    obtain ⟨type, body, scope, d, hdecode⟩ := hdecoded t ht
    exact Transform.labelled_of_decode hdecode
  refine ⟨?_, Transform.found_iff_clearAll hlabelled hregex hread.tracked⟩
  rw [hread.tracked.terraform?_eq, hread.first, hfileNames]

/-- A module and transforms that are read from texts. -/
def readAll (sources declarations : List (String × String)) : Option (Module × List Transform) := do
  let m ← (Module.ofSources default (fun _ => none) sources).toOption
  let ts ← declarations.mapM fun (type, text) => do
    let body ← parse? text
    (Transform.decode type body [] m).toOption
  return (m, ts)

theorem exists_of_readAll {sources declarations : List (String × String)} {test : Module × List Transform → Bool}
    (h : (readAll sources declarations).any test = true) :
    ∃ m ts, Module.ofSources default (fun _ => none) sources = .ok m ∧
      (∀ t ∈ ts, ∃ type body scope d, Transform.decode type body scope d = .ok t) ∧ test (m, ts) = true := by
  cases hread : readAll sources declarations with
  | none => simp [hread] at h
  | some read =>
    rw [hread, Option.any_some] at h
    obtain ⟨m, hload, hread⟩ := Option.bind_eq_some_iff.mp hread
    obtain ⟨ts, hts, heq⟩ := Option.bind_eq_some_iff.mp hread
    cases heq
    refine ⟨m, ts, ok_of_toOption hload, fun t ht => ?_, h⟩
    obtain ⟨⟨type, text⟩, -, hdeclaration⟩ := exists_of_mem_mapM hts ht
    obtain ⟨body, -, hdecode⟩ := Option.bind_eq_some_iff.mp hdeclaration
    exact ⟨type, body, [], m, ok_of_toOption hdecode⟩

/-- Two `terraform` blocks in one file and a third one in another. -/
def threeBlocks : List (String × String) :=
  [("a.tf", "terraform \x7b\n  required_version = \">= 1.0\"\n\x7d\n\nterraform \x7b\n\x7d\n"),
    ("b.tf", "terraform \x7b\n\x7d\n")]

/-- The block is changed, moves to a file of its own and goes, and another one is created. -/
def roundTrip : List (String × String) :=
  [("update_in_place", "target_block_address = \"terraform\"\nasraw \x7b\n  x = 1\n\x7d\n"),
    ("move_block", "target_block_address = \"terraform\"\nfile_name = \"c.tf\"\n"),
    ("remove_block", "target_block_address = \"terraform\"\n"),
    ("new_block", "new_block_type = \"terraform\"\nfilename = \"d.tf\"\n")]

/-- The two blocks that are not registered stay as they are. -/
theorem terraform_address_keeps_its_block_iff_own_files :
    ∃ m ts, Module.ofSources default (fun _ => none) threeBlocks = .ok m ∧ ts.length = 4 ∧
      m.terraform? = some ⟨"a.tf", 0⟩ ∧ (Transform.applyAll ts m).terraform? = some ⟨"d.tf", 0⟩ ∧
      ∀ first, first <+: ts →
        (Transform.applyAll first m).terraform? = Transform.followAll first m m.terraform? ∧
        ∀ name, (Transform.applyAll first m).others (Transform.followAll first m m.terraform?) name =
          m.others m.terraform? name := by
  have hread : (readAll threeBlocks roundTrip).any (fun (m, ts) =>
      ts.length = 4 && m.terraform? = some ⟨"a.tf", 0⟩ &&
        (Transform.applyAll ts m).terraform? = some ⟨"d.tf", 0⟩ &&
        ts.all (fun t => t.name ≠ "regex_replace_expression") && Transform.ClearAll ts m m.terraform?) = true := by
    decide +kernel
  obtain ⟨m, ts, hload, hdecoded, htest⟩ := exists_of_readAll hread
  simp only [Bool.and_eq_true, decide_eq_true_eq, List.all_eq_true] at htest
  obtain ⟨⟨⟨⟨hlength, hbegin⟩, hend⟩, hregex⟩, hclear⟩ := htest
  have hnames : (threeBlocks.map Prod.fst).Nodup := by decide
  exact ⟨m, ts, hload, hlength, hbegin, hend,
    (terraform_address_keeps_its_block_iff hload hnames ts hdecoded hregex).2.mpr hclear⟩

/-- A `terraform` block in each of two files. -/
def twoBlocks : List (String × String) :=
  [("a.tf", "terraform \x7b\n  required_version = \">= 1.0\"\n\x7d\n"), ("b.tf", "terraform \x7b\n\x7d\n")]

/-- The first block moves to the file of the second one, and is then changed. -/
def crossing : List (String × String) :=
  [("move_block", "target_block_address = \"terraform\"\nfile_name = \"b.tf\"\n"),
    ("update_in_place", "target_block_address = \"terraform\"\nasraw \x7b\n  x = 1\n\x7d\n")]

/-- Behind the other block of the file the moved one is not found any more: the change is made to the other one. -/
theorem terraform_address_changes_its_block :
    ∃ m ts, Module.ofSources default (fun _ => none) twoBlocks = .ok m ∧
      (∀ t ∈ ts, ∃ type body scope d, Transform.decode type body scope d = .ok t) ∧
      (∀ t ∈ ts, t.name ≠ "regex_replace_expression") ∧
      (Transform.applyAll ts m).terraform? = some ⟨"b.tf", 0⟩ ∧
      Transform.followAll ts m m.terraform? = some ⟨"b.tf", 1⟩ ∧
      (Transform.applyAll ts m).others (Transform.followAll ts m m.terraform?) "b.tf" ≠
        m.others m.terraform? "b.tf" := by
  have hread : (readAll twoBlocks crossing).any (fun (m, ts) =>
      ts.all (fun t => t.name ≠ "regex_replace_expression") &&
        (Transform.applyAll ts m).terraform? = some ⟨"b.tf", 0⟩ &&
        Transform.followAll ts m m.terraform? = some ⟨"b.tf", 1⟩ &&
        (((Transform.applyAll ts m).others (Transform.followAll ts m m.terraform?) "b.tf").map Block.text ≠
          (m.others m.terraform? "b.tf").map Block.text)) = true := by
    decide +kernel
  obtain ⟨m, ts, hload, hdecoded, htest⟩ := exists_of_readAll hread
  simp only [Bool.and_eq_true, decide_eq_true_eq, List.all_eq_true] at htest
  obtain ⟨⟨⟨hregex, hfound⟩, hfollowed⟩, htexts⟩ := htest
  exact ⟨m, ts, hload, hdecoded, hregex, hfound, hfollowed, fun heq => htexts (congrArg _ heq)⟩

end Terrasmith
