import Terrasmith.Proofs.Consistency
import Terrasmith.Proofs.Filling

/-!
Adding blocks. A block with an address is added as a whole or not at all. The attributes of a `locals` block are added
one after the other, each as a local with an address of its own, so that the failure at one that exists already leaves
those in front of it in the module.
-/
namespace Terrasmith

open Source

/-- The attribute that declares a local has its name. -/
theorem LocalValue.key_attribute {value : LocalValue} {name : String} {a : Attribute}
    (h : value.attribute name = .ok a) : a.key = name := by
  cases value with
  | text s => exact (parseAttribute_eq_ok h).1
  | raw e =>
    cases h
    rfl

namespace Module

variable {m : Module} {a d : Attribute} {fileName address : String}

/-- Whether there is a local of the name of an attribute. -/
def hasLocal (m : Module) (a : Attribute) : Bool :=
  m.contains (BlockKind.local.address [a.key])

/-- A module with one more local, in a `locals` block of its own at the end of a file. -/
def withLocal (fileName : String) (m : Module) (a : Attribute) : Module :=
  (m.appendStructure fileName (.block { ident := "locals", body := Body.setAttribute {} a })).setBlock
    (BlockKind.local.address [a.key]) (.ofNewLocal a fileName m.origin)

theorem addLocal_of_hasLocal (h : m.hasLocal a = true) (fileName : String) :
    m.addLocal a fileName = .error (.alreadyExists (BlockKind.local.address [a.key])) :=
  if_pos h

theorem addLocal_of_not_hasLocal (h : m.hasLocal a = false) (fileName : String) :
    m.addLocal a fileName = .ok (m.withLocal fileName a, BlockKind.local.address [a.key]) :=
  if_neg (Bool.eq_false_iff.mp h)

theorem hasLocal_withLocal_self (m : Module) (fileName : String) (a : Attribute) :
    (m.withLocal fileName a).hasLocal a = true := by
  simp [hasLocal, contains, withLocal]

/-- Locals that are there stay there. -/
theorem hasLocal_withLocal (h : m.hasLocal d = true) (fileName : String) (a : Attribute) :
    (m.withLocal fileName a).hasLocal d = true := by
  by_cases haddress : BlockKind.local.address [d.key] = BlockKind.local.address [a.key]
  · rw [hasLocal, haddress]
    exact hasLocal_withLocal_self m fileName a
  · rw [hasLocal, contains, withLocal, block?, setBlock, lookup_insertEntry_of_ne haddress]
    exact h

theorem hasLocal_foldl_withLocal (done : List Attribute) (h : m.hasLocal d = true) :
    (done.foldl (withLocal fileName) m).hasLocal d = true := by
  induction done generalizing m with
  | nil => exact h
  | cons a rest ih => exact ih (hasLocal_withLocal h fileName a)

end Module

/-- What is left when the locals of a body cannot all be added: those in front of the first that exists are there. -/
structure Interrupted (m : Module) (fileName : String) (attributes : List Attribute) (done : List Attribute)
    (a : Attribute) (after : Module) : Prop where
  split : ∃ rest, attributes = done ++ a :: rest
  added : after = done.foldl (Module.withLocal fileName) m
  new : ∀ d ∈ done, m.hasLocal d = false
  taken : after.hasLocal a = true

/-- Locals are added one by one, up to one that exists. -/
theorem addLocals_cases (fileName : String) (attributes : List Attribute) (m : Module) :
    let applied := Applied.forAll m attributes fun a m => .ofResult m ((m.addLocal a fileName).map (·.1))
    (applied.error? = none ∧ applied.module = attributes.foldl (Module.withLocal fileName) m) ∨
    ∃ done a, applied.error? = some (.module (.alreadyExists (BlockKind.local.address [a.key]))) ∧
      Interrupted m fileName attributes done a applied.module := by
  induction attributes generalizing m with
  | nil => exact .inl ⟨rfl, rfl⟩
  | cons d attributes ih =>
    rw [Applied.forAll_cons]
    cases htaken : m.hasLocal d with
    | true =>
      rw [Module.addLocal_of_hasLocal htaken]
      exact .inr ⟨[], d, rfl, ⟨attributes, rfl⟩, rfl, by simp, htaken⟩
    | false =>
      rw [Module.addLocal_of_not_hasLocal htaken]
      rcases ih (m.withLocal fileName d) with h | ⟨done, a, herror, ⟨rest, hsplit⟩, hadded, hnew, htaken'⟩
      · exact .inl h
      · refine .inr ⟨d :: done, a, herror, ⟨rest, by rw [hsplit, List.cons_append]⟩, hadded, ?_, htaken'⟩
        rw [List.forall_mem_cons]
        refine ⟨htaken, fun e he => Bool.eq_false_iff.mpr fun h => ?_⟩
        exact Bool.eq_false_iff.mp (hnew e he) (Module.hasLocal_withLocal h fileName d)

/-- An interrupted addition has changed nothing exactly if it stopped at the first local. -/
theorem Interrupted.unchanged_iff {m after : Module} {fileName : String} {attributes done : List Attribute}
    {a : Attribute} (h : Interrupted m fileName attributes done a after) :
    after = m ↔ ∃ first, attributes.head? = some first ∧ m.hasLocal first = true := by
  obtain ⟨⟨rest, rfl⟩, hadded, hnew, htaken⟩ := h
  cases done with
  | nil =>
    subst hadded
    exact iff_of_true rfl ⟨a, rfl, htaken⟩
  | cons d done =>
    have hd := hnew d List.mem_cons_self
    refine iff_of_false (fun hsame => ?_) ?_
    · have hafter : after.hasLocal d = true := by
        rw [hadded, List.foldl_cons]
        exact Module.hasLocal_foldl_withLocal done (Module.hasLocal_withLocal_self m fileName d)
      rw [hsame, hd] at hafter
      cases hafter
    · rintro ⟨first, hfirst, htaken⟩
      cases hfirst
      rw [hd] at htaken
      cases htaken

theorem Applied.module_of_error {m : Module} {r : Except ModuleError Module} {e : TransformError}
    (h : (ofResult m r).error? = some e) : (ofResult m r).module = m := by
  cases r with
  | error cause => rfl
  | ok m' => cases h

theorem Applied.eq_ok_of_error?_eq_none {m : Module} {r : Except ModuleError Module}
    (h : (ofResult m r).error? = none) : r = .ok (ofResult m r).module := by
  cases r with
  | error cause => cases h
  | ok m' => rfl

/-- What a failed addition leaves. A block with an address of its own leaves the module as it was. The locals of a
`locals` block stay in the module as far as they were added, each in a block of its own at the end of the file, up to
the first that exists already; the module is as it was exactly if that is the first of all. -/
theorem newBlock_failure {kind? : Option BlockKind} {labels : List String} {fileName : String} {body : Body}
    {m : Module} {e : TransformError} (h : ((Transform.newBlock kind? labels fileName body).apply m).error? = some e) :
    let after := ((Transform.newBlock kind? labels fileName body).apply m).module
    (after = m ↔ kind?.isSome ∨ ∃ first, body.attributes.head? = some first ∧ m.hasLocal first = true) ∧
    (kind? = none → ∃ done a, Interrupted m fileName body.attributes done a after ∧
      e = .module (.alreadyExists (BlockKind.local.address [a.key]))) := by
  intro after
  cases kind? with
  | some kind => exact ⟨iff_of_true (Applied.module_of_error h) (.inl rfl), fun hkind => nomatch hkind⟩
  | none =>
    rcases addLocals_cases fileName body.attributes m with ⟨hnone, -⟩ | ⟨done, a, herror, hinterrupted⟩
    · exact absurd (h.symm.trans hnone) (by simp)
    · refine ⟨?_, fun _ => ⟨done, a, hinterrupted, Option.some.inj (h.symm.trans herror)⟩⟩
      rw [Option.isSome_none, Bool.false_eq_true, false_or]
      exact hinterrupted.unchanged_iff

/-- Two locals for a module that has one of them. -/
def twoLocals : String :=
  "new_block_type = \"locals\"\nfilename = \"locals.tf\"\nasraw \x7b\n  a = 1\n  b = 2\n\x7d\n"

/-- Whether the addition of locals fails at the first. -/
def failsFirst (m : Module) : Transform → Bool
  | .newBlock none labels fileName body =>
    ((Transform.newBlock none labels fileName body).apply m).error?.isSome && body.attributes.head?.any m.hasLocal
  | _ => false

/-- The first of the two exists: nothing is left. -/
theorem newBlock_failure_first : ∃ m labels fileName body e,
    Module.ofSources default (fun _ => none) [("main.tf", "locals \x7b\n  a = 0\n\x7d\n")] = .ok m ∧
    (∃ declaration, Transform.decode "new_block" declaration [] m = .ok (.newBlock none labels fileName body)) ∧
    ((Transform.newBlock none labels fileName body).apply m).error? = some e ∧
    ((Transform.newBlock none labels fileName body).apply m).module = m := by
  have hread : (readPair "locals \x7b\n  a = 0\n\x7d\n" "new_block" twoLocals).any
      (fun (m, t) => failsFirst m t) = true := by
    decide +kernel
  obtain ⟨m, t, hload, hdecode, htest⟩ := exists_of_readPair hread
  dsimp only at htest
  unfold failsFirst at htest
  split at htest
  · rename_i labels fileName body
    simp only [Bool.and_eq_true, Option.isSome_iff_exists, Option.any_eq_true] at htest
    obtain ⟨⟨e, herror⟩, first, hfirst, htaken⟩ := htest
    exact ⟨m, labels, fileName, body, e, hload, hdecode, herror,
      (newBlock_failure herror).1.mpr (.inr ⟨first, hfirst, htaken⟩)⟩
  · cases htest

/-- The second of the two exists: the addition fails, but the first is left behind, in a new file. -/
theorem newBlock_leaves_first_local : ∃ m t,
    Module.ofSources default (fun _ => none) [("main.tf", "locals \x7b\n  b = 1\n\x7d\n")] = .ok m ∧
    (∃ declaration, Transform.decode "new_block" declaration [] m = .ok t) ∧
    (t.apply m).error?.isSome ∧ (t.apply m).module ≠ m ∧
    (t.apply m).module.fileNames = ["main.tf", "locals.tf"] ∧ (t.apply m).module.contains "local.a" = true := by
  have hread : (readPair "locals \x7b\n  b = 1\n\x7d\n" "new_block" twoLocals).any (fun (m, t) =>
      (t.apply m).error?.isSome && m.fileNames = ["main.tf"] &&
        (t.apply m).module.fileNames = ["main.tf", "locals.tf"] && (t.apply m).module.contains "local.a") = true := by
    decide +kernel
  obtain ⟨m, t, hload, hdecode, htest⟩ := exists_of_readPair hread
  simp only [Bool.and_eq_true, decide_eq_true_eq] at htest
  obtain ⟨⟨⟨herror, hbefore⟩, hafter⟩, hcontains⟩ := htest
  refine ⟨m, t, hload, hdecode, herror, fun hsame => ?_, hafter, hcontains⟩
  rw [hsame, hbefore] at hafter
  cases hafter

end Terrasmith
