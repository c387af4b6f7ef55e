import Terrasmith.Proofs.Operations
import Terrasmith.Proofs.Printing

/-!
The operations on one block or local as they go: what they read, what they check, and what they write one after the
other. What has been written stays, also if something fails behind it. They check everything before they write, so they
come to what the operations of the module come to, and where they fail they leave the module as it was.
-/
namespace Terrasmith

open Source

/-- A course of reading, checking and writing. -/
abbrev Procedure (α : Type) := ExceptT ModuleError (StateM Module) α

namespace Procedure

variable {α β : Type}

/-- Reads or checks something in the module as it is by then. -/
def ask (question : Module → Except ModuleError α) : Procedure α := ExceptT.mk fun m => (question m, m)

def write (change : Module → Module) : Procedure Unit := ExceptT.mk fun m => (.ok (), change m)

@[simp] theorem run_write_bind (change : Module → Module) (f : Unit → Procedure β) (m : Module) :
    (write change >>= f).run.run m = (f ()).run.run (change m) := rfl

@[simp] theorem run_write (change : Module → Module) (m : Module) : (write change).run.run m = (.ok (), change m) := rfl

@[simp] theorem run_throw (e : ModuleError) (m : Module) : (throw e : Procedure α).run.run m = (.error e, m) := rfl

/-- The outcome of an operation that fails before it has changed anything. -/
def outcome (m : Module) : Except ModuleError Module → Except ModuleError Unit × Module
  | .ok m' => (.ok (), m')
  | .error e => (.error e, m)

/-- A question in front fails, or what follows it has the outcome. -/
theorem run_ask_bind {question : Module → Except ModuleError α} {f : α → Procedure Unit}
    {g : α → Except ModuleError Module} {m : Module}
    (h : ∀ a, question m = .ok a → (f a).run.run m = outcome m (g a)) :
    (ask question >>= f).run.run m = outcome m (question m >>= g) := by
  rw [ExceptT.run_bind, StateT.run_bind, ask, ExceptT.run_mk, StateT.run]
  cases hanswer : question m with
  | error e => rfl
  | ok a => exact h a hanswer

/-! ### The operations -/

def updateBlock (address : String) (f : Block → Block) : Procedure Unit := do
  let (s, file) ← ask (·.lookup address)
  if s.kind = .local then throw (.unsupported address "block updates")
  else
    let place ← ask fun _ => Module.locate s file
    match file.body.structures[place.index]?.bind Structure.block? with
    | none => throw (.detached s.address s.fileName)
    | some old =>
      let new := f old
      let file := { file with
        body := { file.body with structures := file.body.structures.set place.index (.block new) } }
      write (·.setFile s.fileName file)
      if new.text ≠ old.text then
        write (·.setFile s.fileName { file with changed := true })
        write (·.setBlock address (s.refreshBlock new))

def updateLocal (address : String) (f : Attribute → Attribute) : Procedure Unit := do
  let (s, file) ← ask (·.lookup address)
  match s.kind, s.labels with
  | .local, [name] =>
    let place ← ask fun _ => Module.locate s file
    let old? := do
      let b ← file.body.structures[place.index]?.bind Structure.block?
      let index ← b.body.attributeIndex? name
      let a ← b.body.structures[index]?.bind Structure.attribute?
      some (b, index, a)
    match old? with
    | none => throw (.detached s.address s.fileName)
    | some (b, index, old) =>
      let new := f old
      let b := { b with body := { b.body with structures := b.body.structures.set index (.attribute new) } }
      let file := { file with
        body := { file.body with structures := file.body.structures.set place.index (.block b) } }
      write (·.setFile s.fileName file)
      if new.valueText ≠ old.valueText then
        write (·.setFile s.fileName { file with changed := true })
        write (·.setBlock address (s.refreshLocal new))
  | _, _ => throw (.unsupported address "local updates")

def removeBlock (address : String) : Procedure Unit := do
  let (s, file) ← ask (·.lookup address)
  let place ← ask fun _ => Module.locate s file
  let file := { file with
    body := { file.body with structures := Module.withoutBlock s file.body.structures place.index } }
  write (·.setFile s.fileName file)
  write (·.setFile s.fileName { file with changed := true })
  write fun m => { m with registry := eraseEntry address m.registry }

def moveBlock (address fileName : String) : Procedure Unit := do
  let (s, file) ← ask (·.lookup address)
  if s.kind = .local then throw (.unsupported address "moving")
  else if s.fileName = fileName then return
  else
    let place ← ask fun _ => Module.locate s file
    match file.body.structures[place.index]? with
    | none => throw (.detached s.address s.fileName)
    | some moved =>
      let file := { file with changed := true }
      write (·.setFile s.fileName file)
      write (·.setFile s.fileName { file with
        body := { file.body with structures := file.body.structures.eraseIdx place.index } })
      write (·.appendStructure fileName moved)
      write (·.setBlock address (s.movedTo fileName))

/-- Appends a block or a `locals` block under an address that is not taken. -/
def add (address fileName : String) (s : Structure) (snapshot : Origin → Snapshot) : Procedure Unit := do
  let origin ← ask fun m => if m.contains address then .error (.alreadyExists address) else .ok m.origin
  write (·.appendStructure fileName s)
  write (·.setBlock address (snapshot origin))

def addBlock (kind : BlockKind) (b : Block) (fileName : String) : Procedure Unit :=
  add (kind.address b.labelTexts) fileName (.block b) (.ofNewBlock kind b fileName)

def addLocal (a : Attribute) (fileName : String) : Procedure Unit :=
  add (BlockKind.local.address [a.key]) fileName (.block { ident := "locals", body := Body.setAttribute {} a })
    (.ofNewLocal a fileName)

/-! ### Their outcomes -/

theorem except_map_bind {γ : Type} (x : Except ModuleError α) (g : α → Except ModuleError (Module × γ)) :
    (x >>= g).map (·.1) = x >>= fun a => (g a).map (·.1) := by
  cases x <;> rfl

theorem setFile_setFile (m : Module) (name : String) (first second : SourceFile) :
    (m.setFile name first).setFile name second = m.setFile name second := by
  simp only [Module.setFile, insertEntry_insertEntry]

theorem run_updateBlock (address : String) (f : Block → Block) (m : Module) :
    (updateBlock address f).run.run m = outcome m (m.updateBlock address f) := by
  refine run_ask_bind fun ⟨s, file⟩ _ => ?_
  dsimp only
  split
  · rfl
  · refine run_ask_bind fun place _ => ?_
    cases file.body.structures[place.index]?.bind Structure.block? with
    | none => rfl
    | some old =>
      dsimp only
      by_cases htext : (f old).text = old.text
      · rw [if_pos htext, if_neg (not_not.mpr htext)]
        rfl
      · rw [if_neg htext, if_pos htext]
        simp only [run_write_bind, run_write, setFile_setFile]
        rfl

theorem run_updateLocal (address : String) (f : Attribute → Attribute) (m : Module) :
    (updateLocal address f).run.run m = outcome m (m.updateLocal address f) := by
  refine run_ask_bind fun ⟨s, file⟩ _ => ?_
  dsimp only
  by_cases hlocal : ∃ name, s.kind = .local ∧ s.labels = [name]
  · obtain ⟨name, hkind, hlabels⟩ := hlocal
    rw [hkind, hlabels]
    refine run_ask_bind fun place _ => ?_
    generalize (do
      let b ← file.body.structures[place.index]?.bind Structure.block?
      let index ← b.body.attributeIndex? name
      let a ← b.body.structures[index]?.bind Structure.attribute?
      some (b, index, a)) = old?
    cases old? with
    | none => rfl
    | some found =>
      obtain ⟨b, index, old⟩ := found
      simp only [Attribute.valueText]
      by_cases hvalue : (f old).valueLead ++ (f old).value.text = old.valueLead ++ old.value.text
      · simp only [hvalue, ne_eq, not_true_eq_false, if_false, if_true]
        rfl
      · simp only [hvalue, ne_eq, not_false_eq_true, if_true, if_false, run_write_bind, run_write, setFile_setFile]
        rfl
  · -- Neither side takes the snapshot for that of a local.
    repeat' split
    all_goals first | rfl | exact absurd ⟨_, ‹_›, ‹_›⟩ hlocal

theorem run_removeBlock (address : String) (m : Module) :
    (removeBlock address).run.run m = outcome m ((m.removeBlock address).map (·.1)) := by
  rw [Module.removeBlock, except_map_bind]
  refine run_ask_bind fun ⟨s, file⟩ _ => ?_
  dsimp only
  rw [except_map_bind]
  refine run_ask_bind fun place _ => ?_
  simp only [run_write_bind, run_write, setFile_setFile]
  rfl

theorem run_moveBlock (address fileName : String) (m : Module) :
    (moveBlock address fileName).run.run m = outcome m ((m.moveBlock address fileName).map (·.1)) := by
  rw [Module.moveBlock, except_map_bind]
  refine run_ask_bind fun ⟨s, file⟩ _ => ?_
  dsimp only
  split
  · rfl
  · split
    · rfl
    · rw [except_map_bind]
      refine run_ask_bind fun place _ => ?_
      cases file.body.structures[place.index]? with
      | none => rfl
      | some moved =>
        simp only [run_write_bind, run_write, setFile_setFile]
        rfl

theorem run_add (address fileName : String) (s : Structure) (snapshot : Origin → Snapshot) (m : Module) :
    (add address fileName s snapshot).run.run m = outcome m (if m.contains address then .error (.alreadyExists address)
      else .ok ((m.appendStructure fileName s).setBlock address (snapshot m.origin))) := by
  refine (run_ask_bind (g := fun origin => .ok ((m.appendStructure fileName s).setBlock address (snapshot origin)))
    fun origin _ => rfl).trans ?_
  split <;> rfl

theorem run_addBlock (kind : BlockKind) (b : Block) (fileName : String) (m : Module) :
    (addBlock kind b fileName).run.run m = outcome m ((m.addBlock kind b fileName).map (·.1)) := by
  rw [addBlock, run_add, Module.addBlock]
  split <;> rfl

theorem run_addLocal (a : Attribute) (fileName : String) (m : Module) :
    (addLocal a fileName).run.run m = outcome m ((m.addLocal a fileName).map (·.1)) := by
  rw [addLocal, run_add, Module.addLocal]
  split <;> rfl

end Procedure

/-- An operation of a module on one block or local. -/
inductive BlockOperation where
  | updateBlock (address : String) (f : Block → Block)
  | updateLocal (address : String) (f : Attribute → Attribute)
  | removeBlock (address : String)
  | moveBlock (address fileName : String)
  | addBlock (kind : BlockKind) (b : Block) (fileName : String)
  | addLocal (a : Attribute) (fileName : String)

namespace BlockOperation

/-- The operation step by step. -/
def procedure : BlockOperation → Procedure Unit
  | .updateBlock address f => .updateBlock address f
  | .updateLocal address f => .updateLocal address f
  | .removeBlock address => .removeBlock address
  | .moveBlock address fileName => .moveBlock address fileName
  | .addBlock kind b fileName => .addBlock kind b fileName
  | .addLocal a fileName => .addLocal a fileName

/-- The module that an operation comes to, or why it fails. -/
def result : BlockOperation → Module → Except ModuleError Module
  | .updateBlock address f, m => m.updateBlock address f
  | .updateLocal address f, m => m.updateLocal address f
  | .removeBlock address, m => (m.removeBlock address).map (·.1)
  | .moveBlock address fileName, m => (m.moveBlock address fileName).map (·.1)
  | .addBlock kind b fileName, m => (m.addBlock kind b fileName).map (·.1)
  | .addLocal a fileName, m => (m.addLocal a fileName).map (·.1)

theorem run_procedure (op : BlockOperation) (m : Module) :
    op.procedure.run.run m = Procedure.outcome m (op.result m) := by
  cases op with
  | updateBlock address f => exact Procedure.run_updateBlock address f m
  | updateLocal address f => exact Procedure.run_updateLocal address f m
  | removeBlock address => exact Procedure.run_removeBlock address m
  | moveBlock address fileName => exact Procedure.run_moveBlock address fileName m
  | addBlock kind b fileName => exact Procedure.run_addBlock kind b fileName m
  | addLocal a fileName => exact Procedure.run_addLocal a fileName m

/-- Steps that fail leave the module as it was. -/
theorem run_procedure_of_error {op : BlockOperation} {m m' : Module} {e : ModuleError}
    (h : op.procedure.run.run m = (.error e, m')) : m' = m ∧ op.result m = .error e := by
  rw [run_procedure] at h
  cases hresult : op.result m with
  | ok after =>
    rw [hresult] at h
    cases h
  | error e' =>
    rw [hresult] at h
    cases h
    exact ⟨rfl, rfl⟩

end BlockOperation

end Terrasmith
