import Terrasmith.Module.Edit
import Terrasmith.Proofs.Entries
import Terrasmith.Proofs.Merge
import Terrasmith.Proofs.Outcomes

/-!
What the operations on a module do when they succeed: which block they find, and which files and registry they
leave. Everything else about an operation follows from its equation here.
-/
namespace Terrasmith

open Source

namespace Module

@[simp] theorem file?_setFile_self (m : Module) (name : String) (file : SourceFile) :
    (m.setFile name file).file? name = some file :=
  lookup_insertEntry_self name file m.files

@[simp] theorem block?_setFile (m : Module) (name : String) (file : SourceFile) (address : String) :
    (m.setFile name file).block? address = m.block? address := rfl

@[simp] theorem block?_setBlock_self (m : Module) (address : String) (s : Snapshot) :
    (m.setBlock address s).block? address = some s :=
  lookup_insertEntry_self address s m.registry

@[simp] theorem file?_setBlock (m : Module) (address : String) (s : Snapshot) (name : String) :
    (m.setBlock address s).file? name = m.file? name := rfl

theorem setFile_self {m : Module} {name : String} {file : SourceFile} (h : m.file? name = some file) :
    m.setFile name file = m := by
  unfold setFile
  rw [insertEntry_self h]

theorem setBlock_self {m : Module} {address : String} {s : Snapshot} (h : m.block? address = some s) :
    m.setBlock address s = m := by
  unfold setBlock
  rw [insertEntry_self h]

/-- The snapshot that an address has, its file, and the place where the block is found in it. -/
structure Site (m : Module) (address : String) (s : Snapshot) (file : SourceFile) (index : Nat) : Prop where
  found : m.block? address = some s
  stored : m.file? s.fileName = some file
  placed : s.index? file.body = some index

theorem lookup_eq_ok {m : Module} {address : String} {s : Snapshot} {file : SourceFile}
    (h : m.lookup address = .ok (s, file)) : m.block? address = some s ∧ m.file? s.fileName = some file := by
  unfold lookup at h
  split at h
  · cases h
  · split at h
    · cases h
    · cases h
      exact ⟨‹_›, ‹_›⟩

theorem locate_eq_ok {s : Snapshot} {file : SourceFile} {place : Located} (h : locate s file = .ok place) :
    ∃ i, place = ⟨s, file, i⟩ ∧ s.index? file.body = some i := by
  unfold locate at h
  split at h
  · cases h
    exact ⟨_, rfl, ‹_›⟩
  · cases h

/-- A module in which a block of a file reads anew. -/
def rewritten (m : Module) (address : String) (s : Snapshot) (file : SourceFile) (i : Nat) (old new : Block) :
    Module :=
  let body := { file.body with structures := file.body.structures.set i (.block new) }
  if new.text = old.text then m.setFile s.fileName { file with body }
  else (m.setFile s.fileName { file with body, changed := true }).setBlock address (s.refreshBlock new)

theorem updateBlock_eq_ok {m m' : Module} {address : String} {f : Block → Block}
    (h : m.updateBlock address f = .ok m') :
    ∃ s file i old, Site m address s file i ∧ s.kind ≠ .local ∧ file.body.structures[i]? = some (.block old) ∧
      m' = m.rewritten address s file i old (f old) := by
  obtain ⟨⟨s, file⟩, hlookup, h⟩ := bind_eq_ok h
  obtain ⟨hfound, hstored⟩ := lookup_eq_ok hlookup
  dsimp only at h
  split at h
  · cases h
  · obtain ⟨place, hplace, h⟩ := bind_eq_ok h
    obtain ⟨i, rfl, hindex⟩ := locate_eq_ok hplace
    cases hold : file.body.structures[i]?.bind Structure.block? with
    | none => simp [hold] at h
    | some old =>
      obtain ⟨x, hx, hb⟩ := Option.bind_eq_some_iff.mp hold
      rcases x with a | b
      · cases hb
      · obtain rfl : b = old := by simpa [Structure.block?] using hb
        refine ⟨s, file, i, b, ⟨hfound, hstored, hindex⟩, ‹_›, hx, ?_⟩
        simp only [hold] at h
        unfold rewritten
        split at h <;> cases h
        · rw [if_pos ‹_›]
        · rw [if_neg ‹_›]

theorem updateBlock_of_site {m : Module} {address : String} {s : Snapshot} {file : SourceFile} {i : Nat}
    {old : Block} (hsite : Site m address s file i) (hkind : s.kind ≠ .local)
    (hold : file.body.structures[i]? = some (.block old)) (f : Block → Block) :
    m.updateBlock address f = .ok (m.rewritten address s file i old (f old)) := by
  have hlookup : m.lookup address = .ok (s, file) := by simp [lookup, hsite.found, hsite.stored]
  have hlocate : locate s file = .ok ⟨s, file, i⟩ := by simp [locate, hsite.placed]
  simp only [updateBlock, hlookup, hlocate, bind, Except.bind, if_neg hkind, hold, Option.bind_some,
    Structure.block?, rewritten, pure, Except.pure]
  split <;> rfl

/-- Writing a block as it stands changes nothing. -/
theorem rewritten_self {m : Module} {address : String} {s : Snapshot} {file : SourceFile} {i : Nat} {b : Block}
    (hsite : Site m address s file i) (hb : file.body.structures[i]? = some (.block b)) :
    m.rewritten address s file i b b = m := by
  unfold rewritten
  rw [if_pos rfl, set_of_getElem? hb, Body.mk_self]
  exact setFile_self hsite.stored

theorem index?_congr {s t : Snapshot} (hkind : s.kind = t.kind) (hlabels : s.labels = t.labels) (b : Body) :
    s.index? b = t.index? b := by
  have hblock : s.isBlock = t.isBlock := by
    funext x
    rcases x with a | e <;> simp [Snapshot.isBlock, hkind, hlabels]
  have hlocals : s.isLocals = t.isLocals := by
    funext x
    rcases x with a | e <;> simp [Snapshot.isLocals, hlabels]
  simp only [Snapshot.index?, hkind, hblock, hlocals]

theorem isBlock_congr (s : Snapshot) {old new : Block} (hident : new.ident = old.ident)
    (hlabels : new.labels = old.labels) : s.isBlock (.block new) = s.isBlock (.block old) := by
  have htexts : new.labelTexts = old.labelTexts := congrArg (·.map Label.text) hlabels
  simp only [Snapshot.isBlock, hident, htexts]

/-- A block that keeps its header is found again where it was. -/
theorem site_rewritten {m : Module} {address : String} {s : Snapshot} {file : SourceFile} {i : Nat}
    {old new : Block} (hsite : Site m address s file i) (hkind : s.kind ≠ .local)
    (hold : file.body.structures[i]? = some (.block old)) (hident : new.ident = old.ident)
    (hlabels : new.labels = old.labels) :
    ∃ s' file', Site (m.rewritten address s file i old new) address s' file' i ∧ s'.kind = s.kind ∧
      file'.body.structures[i]? = some (.block new) := by
  have hlt : i < file.body.structures.length := (List.getElem?_eq_some_iff.mp hold).1
  have hindex : s.index? { file.body with structures := file.body.structures.set i (.block new) } = some i := by
    have := hsite.placed
    simp only [Snapshot.index?, if_neg hkind] at this ⊢
    rw [← this]
    exact findIdx?_set hold (isBlock_congr s hident hlabels)
  unfold rewritten
  split
  · exact ⟨s, _, ⟨hsite.found, file?_setFile_self .., hindex⟩, rfl, by simp [hlt]⟩
  · refine ⟨s.refreshBlock new, _, ⟨block?_setBlock_self .., file?_setFile_self .., ?_⟩, rfl, by simp [hlt]⟩
    rw [← hindex]
    exact index?_congr rfl rfl _

/-- Whether the text changes or not, a snapshot for the same place is entered. -/
theorem rewritten_eq_setBlock {m : Module} {address : String} {s : Snapshot} {file : SourceFile} {i : Nat}
    (hsite : Site m address s file i) (old new : Block) :
    ∃ changed s', m.rewritten address s file i old new = (m.setFile s.fileName { file with
        body := { file.body with structures := file.body.structures.set i (.block new) }, changed }).setBlock address s' ∧
      s'.fileName = s.fileName ∧ s'.kind = s.kind ∧ s'.labels = s.labels := by
  unfold rewritten
  dsimp only
  split
  · refine ⟨file.changed, s, ?_, rfl, rfl, rfl⟩
    exact (setBlock_self (m := m.setFile s.fileName _) hsite.found).symm
  · exact ⟨true, s.refreshBlock new, rfl, rfl, rfl, rfl⟩

/-- The block of an address as it is written. -/
def written? (m : Module) (address : String) : Option Block := do
  let s ← m.block? address
  let file ← m.file? s.fileName
  let index ← s.index? file.body
  file.body.structures[index]?.bind Structure.block?

theorem Site.written? {m : Module} {address : String} {s : Snapshot} {file : SourceFile} {i : Nat} {b : Block}
    (hsite : Site m address s file i) (hb : file.body.structures[i]? = some (.block b)) :
    m.written? address = some b := by
  simp [Module.written?, hsite.found, hsite.stored, hsite.placed, hb, Structure.block?]

/-- The attribute that declares the local of an address, as it is written. -/
def declared? (m : Module) (address : String) : Option Attribute := do
  let s ← m.block? address
  let name ← s.labels.head?
  let b ← m.written? address
  let index ← b.body.attributeIndex? name
  b.body.structures[index]?.bind Structure.attribute?

theorem Site.declared? {m : Module} {address name : String} {s : Snapshot} {file : SourceFile} {i j : Nat} {e : Block}
    {a : Attribute} (hsite : Site m address s file i) (hlabels : s.labels = [name])
    (he : file.body.structures[i]? = some (.block e)) (hj : e.body.attributeIndex? name = some j)
    (ha : e.body.structures[j]? = some (.attribute a)) : m.declared? address = some a := by
  simp [Module.declared?, hsite.found, hlabels, hsite.written? he, hj, ha, Structure.attribute?]

/-- A change of a block that would change nothing the second time is made once. -/
theorem updateBlock_updateBlock {m m' : Module} {address : String} {f : Block → Block}
    (h : m.updateBlock address f = .ok m') (hheader : ∀ b, (f b).ident = b.ident ∧ (f b).labels = b.labels)
    (hf : ∀ b, m.written? address = some b → f (f b) = f b) : m'.updateBlock address f = .ok m' := by
  obtain ⟨s, file, i, old, hsite, hkind, hold, rfl⟩ := updateBlock_eq_ok h
  obtain ⟨s', file', hsite', hkind', hnew⟩ :=
    site_rewritten hsite hkind hold (hheader old).1 (hheader old).2
  rw [updateBlock_of_site hsite' (by rwa [hkind']) hnew, hf old (hsite.written? hold), rewritten_self hsite' hnew]

/-- A module in which the attribute that declares a local reads anew. -/
def revalued (m : Module) (address : String) (s : Snapshot) (file : SourceFile) (i : Nat) (e : Block) (j : Nat)
    (old new : Attribute) : Module :=
  let e := { e with body := { e.body with structures := e.body.structures.set j (.attribute new) } }
  let body := { file.body with structures := file.body.structures.set i (.block e) }
  if new.valueLead ++ new.value.text = old.valueLead ++ old.value.text then m.setFile s.fileName { file with body }
  else (m.setFile s.fileName { file with body, changed := true }).setBlock address (s.refreshLocal new)

theorem updateLocal_eq_ok {m m' : Module} {address : String} {f : Attribute → Attribute}
    (h : m.updateLocal address f = .ok m') :
    ∃ s file i name e j old, Site m address s file i ∧ s.kind = .local ∧ s.labels = [name] ∧
      file.body.structures[i]? = some (.block e) ∧ e.body.attributeIndex? name = some j ∧
      e.body.structures[j]? = some (.attribute old) ∧ m' = m.revalued address s file i e j old (f old) := by
  obtain ⟨⟨s, file⟩, hlookup, h⟩ := bind_eq_ok h
  obtain ⟨hfound, hstored⟩ := lookup_eq_ok hlookup
  dsimp only at h
  split at h
  · rename_i name hkind hlabels
    obtain ⟨place, hplace, h⟩ := bind_eq_ok h
    obtain ⟨i, rfl, hindex⟩ := locate_eq_ok hplace
    dsimp only at h
    split at h
    · cases h
    · rename_i e j old hold
      simp only [Option.bind_eq_bind, Option.bind_eq_some_iff, Option.some.injEq, Prod.mk.injEq] at hold
      obtain ⟨b, ⟨x, hx, hb⟩, k, hj, a, ⟨y, hy, ha⟩, rfl, rfl, rfl⟩ := hold
      rcases x with _ | _
      · cases hb
      · rcases y with _ | _
        · cases hb
          cases ha
          refine ⟨s, file, i, name, _, _, _, ⟨hfound, hstored, hindex⟩, hkind, hlabels, hx, hj, hy, ?_⟩
          unfold revalued
          split at h <;> cases h
          · rw [if_pos ‹_›]
          · rw [if_neg ‹_›]
        · cases ha
  · cases h

theorem updateLocal_of_site {m : Module} {address name : String} {s : Snapshot} {file : SourceFile} {i j : Nat}
    {e : Block} {old : Attribute} {f : Attribute → Attribute} (hsite : Site m address s file i)
    (hkind : s.kind = .local) (hlabels : s.labels = [name]) (he : file.body.structures[i]? = some (.block e))
    (hj : e.body.attributeIndex? name = some j) (hold : e.body.structures[j]? = some (.attribute old)) :
    m.updateLocal address f = .ok (m.revalued address s file i e j old (f old)) := by
  have hlookup : m.lookup address = .ok (s, file) := by simp [lookup, hsite.found, hsite.stored]
  have hlocate : locate s file = .ok ⟨s, file, i⟩ := by simp [locate, hsite.placed]
  simp only [updateLocal, hlookup, hlocate, bind, Except.bind, hkind, hlabels, he, hj, hold, Option.bind_some,
    Structure.block?, Structure.attribute?, revalued, pure, Except.pure]
  split <;> rfl

/-- Writing a local as it stands changes nothing. -/
theorem revalued_self {m : Module} {address : String} {s : Snapshot} {file : SourceFile} {i j : Nat} {e : Block}
    {a : Attribute} (hsite : Site m address s file i) (he : file.body.structures[i]? = some (.block e))
    (ha : e.body.structures[j]? = some (.attribute a)) : m.revalued address s file i e j a a = m := by
  unfold revalued
  rw [if_pos rfl, set_of_getElem? ha, Body.mk_self, Block.mk_self, set_of_getElem? he, Body.mk_self]
  exact setFile_self hsite.stored

/-- A local that reads anew, with its file, whose text may be the same, and its entry. -/
theorem revalued_eq {m : Module} {address : String} {s : Snapshot} {file : SourceFile} {i : Nat}
    (hsite : Site m address s file i) (e : Block) (j : Nat) (old new : Attribute) :
    m.revalued address s file i e j old new =
      (m.setFile s.fileName { file with
        body := { file.body with structures := file.body.structures.set i (.block
          { e with body := { e.body with structures := e.body.structures.set j (.attribute new) } }) }
        changed := file.changed || decide (new.valueLead ++ new.value.text ≠ old.valueLead ++ old.value.text) }).setBlock
        address (if new.valueLead ++ new.value.text = old.valueLead ++ old.value.text then s
          else s.refreshLocal new) := by
  unfold revalued
  by_cases hsame : new.valueLead ++ new.value.text = old.valueLead ++ old.value.text
  · simp only [hsame, if_true, ne_eq, not_true_eq_false, decide_false, Bool.or_false]
    exact (setBlock_self (m := m.setFile s.fileName _) hsite.found).symm
  · simp only [hsame, if_false, ne_eq, not_false_eq_true, decide_true, Bool.or_true]

theorem revalued_eq_setBlock {m : Module} {address : String} {s : Snapshot} {file : SourceFile} {i : Nat}
    (hsite : Site m address s file i) (e : Block) (j : Nat) (old new : Attribute) :
    ∃ file' e' s', m.revalued address s file i e j old new = (m.setFile s.fileName file').setBlock address s' ∧
      e'.ident = e.ident ∧ e'.labels = e.labels ∧ file'.body.structures = file.body.structures.set i (.block e') ∧
      s'.fileName = s.fileName ∧ s'.kind = s.kind ∧ s'.labels = s.labels := by
  refine ⟨_, { e with body := { e.body with structures := e.body.structures.set j (.attribute new) } }, _,
    revalued_eq hsite e j old new, rfl, rfl, rfl, ?_⟩
  split <;> exact ⟨rfl, rfl, rfl⟩

/-- The structures of a file without a block. A `locals` block goes with its last local. -/
def withoutBlock (s : Snapshot) (structures : List Structure) (i : Nat) : List Structure :=
  match s.kind, s.labels, structures[i]? with
  | .local, name :: _, some (.block b) =>
    let inner := match b.body.attributeIndex? name with
      | some j => b.body.structures.eraseIdx j
      | none => b.body.structures
    if inner.isEmpty then structures.eraseIdx i
    else structures.set i (.block { b with body := { b.body with structures := inner } })
  | _, _, _ => structures.eraseIdx i

/-- Either the block goes, or it is a `locals` block that keeps its header. -/
theorem withoutBlock_cases (s : Snapshot) (structures : List Structure) (i : Nat) :
    withoutBlock s structures i = structures.eraseIdx i ∨
      ∃ b body, structures[i]? = some (.block b) ∧
        withoutBlock s structures i = structures.set i (.block { b with body }) := by
  unfold withoutBlock
  split
  · next hb =>
    dsimp only
    split
    · split
      · exact .inl rfl
      · exact .inr ⟨_, _, hb, rfl⟩
    · split
      · exact .inl rfl
      · exact .inr ⟨_, _, hb, rfl⟩
  · exact .inl rfl

/-- A block that is not a local goes as a whole. -/
theorem withoutBlock_of_kind {s : Snapshot} (h : s.kind ≠ .local) (structures : List Structure) (i : Nat) :
    withoutBlock s structures i = structures.eraseIdx i := by
  unfold withoutBlock
  split
  · exact absurd ‹_› h
  · rfl

theorem removeBlock_eq_ok {m m' : Module} {address : String} {removed : Snapshot}
    (h : m.removeBlock address = .ok (m', removed)) :
    ∃ file i, Site m address removed file i ∧
      m' = { m.setFile removed.fileName { file with
          body := { file.body with structures := withoutBlock removed file.body.structures i }, changed := true } with
        registry := eraseEntry address m.registry } := by
  obtain ⟨⟨s, file⟩, hlookup, h⟩ := bind_eq_ok h
  obtain ⟨hfound, hstored⟩ := lookup_eq_ok hlookup
  obtain ⟨place, hplace, h⟩ := bind_eq_ok h
  obtain ⟨i, rfl, hindex⟩ := locate_eq_ok hplace
  cases h
  exact ⟨file, i, ⟨hfound, hstored, hindex⟩, rfl⟩

theorem moveBlock_eq_ok {m m' : Module} {address fileName : String} {moved : Bool}
    (h : m.moveBlock address fileName = .ok (m', moved)) :
    (m' = m ∧ (m.block? address).map (·.fileName) = some fileName) ∨
      ∃ s file i x, Site m address s file i ∧ s.kind ≠ .local ∧ s.fileName ≠ fileName ∧
      file.body.structures[i]? = some x ∧
      m' = ((m.setFile s.fileName { file with
          body := { file.body with structures := file.body.structures.eraseIdx i }, changed := true }).appendStructure
        fileName x).setBlock address (s.movedTo fileName) := by
  obtain ⟨⟨s, file⟩, hlookup, h⟩ := bind_eq_ok h
  obtain ⟨hfound, hstored⟩ := lookup_eq_ok hlookup
  dsimp only at h
  split at h
  · cases h
  · split at h
    · cases h
      exact .inl ⟨rfl, by rw [hfound, Option.map_some, ‹s.fileName = fileName›]⟩
    · obtain ⟨place, hplace, h⟩ := bind_eq_ok h
      obtain ⟨i, rfl, hindex⟩ := locate_eq_ok hplace
      dsimp only at h
      split at h
      · cases h
      · cases h
        exact .inr ⟨s, file, i, _, ⟨hfound, hstored, hindex⟩, ‹_›, ‹_›, ‹_›, rfl⟩

theorem addBlock_eq_ok {m m' : Module} {kind : BlockKind} {b : Block} {fileName address : String}
    (h : m.addBlock kind b fileName = .ok (m', address)) :
    address = kind.address b.labelTexts ∧ m.contains address = false ∧
      m' = (m.appendStructure fileName (.block b)).setBlock address (.ofNewBlock kind b fileName m.origin) := by
  unfold addBlock at h
  dsimp only at h
  split at h
  · cases h
  · cases h
    exact ⟨rfl, Bool.eq_false_iff.mpr ‹_›, rfl⟩

theorem addLocal_eq_ok {m m' : Module} {a : Attribute} {fileName address : String}
    (h : m.addLocal a fileName = .ok (m', address)) :
    address = BlockKind.local.address [a.key] ∧ m.contains address = false ∧
      m' = (m.appendStructure fileName (.block { ident := "locals", body := Body.setAttribute {} a })).setBlock
        address (.ofNewLocal a fileName m.origin) := by
  unfold addLocal at h
  dsimp only at h
  split at h
  · cases h
  · cases h
    exact ⟨rfl, Bool.eq_false_iff.mpr ‹_›, rfl⟩

end Module

end Terrasmith
