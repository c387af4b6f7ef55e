import Mathlib.Data.List.Induction
import Mathlib.Data.List.Nodup
import Mathlib.Data.List.Perm.Basic
import Mathlib.Order.Nat
import Terrasmith.Config.Basic
import Terrasmith.Proofs.Parts

/-!
What becomes of the root blocks of a configuration. Each of them is accepted as a declaration or reported once, with the
first thing that is wrong with it; a block whose address is taken is reported beside the first block that declares it.
One bad block hides no other, as blocks are judged one after the other and only accepted ones take an address.
-/
namespace Terrasmith

open Source

namespace Declaration

theorem Kind.ofIdent?_eq_some_iff {ident : String} {kind : Kind} : Kind.ofIdent? ident = some kind ↔ ident = kind.name := by
  constructor
  · intro h
    unfold Kind.ofIdent? at h
    split at h <;> cases h <;> rfl
  · rintro rfl
    cases kind <;> rfl

theorem Kind.ofIdent?_eq_none_iff {ident : String} : Kind.ofIdent? ident = none ↔ ∀ kind : Kind, ident ≠ kind.name := by
  constructor
  · intro h kind hkind
    rw [Kind.ofIdent?_eq_some_iff.mpr hkind] at h
    cases h
  · intro h
    cases hident : Kind.ofIdent? ident with
    | none => rfl
    | some kind => exact absurd (Kind.ofIdent?_eq_some_iff.mp hident) (h kind)

end Declaration

/-- A block that declares `d` in a file. -/
structure Source.Block.Declares (b : Block) (source : String) (d : Declaration) : Prop where
  kind : b.ident = d.kind.name
  labels : b.labelTexts = [d.type, d.name]
  type : d.type ∈ d.kind.types
  name : Text.isIdentifier d.name = true
  body : d.body = b.body
  source : d.source = source

/-- The first thing that is wrong with a block by itself. -/
inductive Source.Block.Faulty (b : Block) (index : Nat) : Issue → Prop
  | unknownBlockType (unknown : ∀ kind : Declaration.Kind, b.ident ≠ kind.name) :
      Faulty b index (.unknownBlockType index)
  | labelCount {kind : Declaration.Kind} (ident : b.ident = kind.name) (count : b.labelTexts.length ≠ 2) :
      Faulty b index (.labelCount index b.labelTexts.length)
  | unknownType {kind : Declaration.Kind} {type name : String} (ident : b.ident = kind.name)
      (labels : b.labelTexts = [type, name]) (unknown : type ∉ kind.types) :
      Faulty b index (.unknownType index (kind.name ++ "." ++ type))
  | invalidName {kind : Declaration.Kind} {type name : String} (ident : b.ident = kind.name)
      (labels : b.labelTexts = [type, name]) (known : type ∈ kind.types) (invalid : Text.isIdentifier name = false) :
      Faulty b index (.invalidName index name)

namespace Declaration

variable {index : Nat} {source : String} {b : Block} {d : Declaration} {issue : Issue}

theorem ofBlock_eq_ok_iff : ofBlock index source b = .ok d ↔ b.Declares source d := by
  constructor
  · intro h
    unfold ofBlock at h
    split at h
    · cases h
    · rename_i kind hkind
      split at h
      · rename_i type name hlabels
        split at h
        · cases h
        · rename_i htype
          split at h
          · cases h
          · rename_i hname
            cases h
            exact ⟨Kind.ofIdent?_eq_some_iff.mp hkind, hlabels, by simpa using htype, by simpa using hname, rfl, rfl⟩
      · cases h
  · obtain ⟨kind, type, name, body, source'⟩ := d
    rintro ⟨hkind, hlabels, htype, hname, rfl, rfl⟩
    have hident := Kind.ofIdent?_eq_some_iff.mpr hkind
    simp only at hident hlabels htype hname
    simp [ofBlock, hident, hlabels, htype, hname]

theorem ofBlock_eq_error_iff : ofBlock index source b = .error issue ↔ b.Faulty index issue := by
  constructor
  · intro h
    unfold ofBlock at h
    split at h
    · rename_i hkind
      cases h
      exact .unknownBlockType (Kind.ofIdent?_eq_none_iff.mp hkind)
    · rename_i kind hkind
      have hident := Kind.ofIdent?_eq_some_iff.mp hkind
      split at h
      · rename_i type name hlabels
        split at h
        · rename_i htype
          cases h
          exact .unknownType hident hlabels (by simpa using htype)
        · rename_i htype
          split at h
          · rename_i hname
            cases h
            exact .invalidName hident hlabels (by simpa using htype) (by simpa using hname)
          · cases h
      · rename_i hcount
        cases h
        refine .labelCount hident fun hlength => ?_
        obtain ⟨type, name, hlabels⟩ := List.length_eq_two.mp hlength
        exact hcount type name hlabels
  · rintro (hkind | ⟨hident, hcount⟩ | ⟨hident, hlabels, htype⟩ | ⟨hident, hlabels, htype, hname⟩)
    · simp [ofBlock, Kind.ofIdent?_eq_none_iff.mpr hkind]
    · simp only [ofBlock, Kind.ofIdent?_eq_some_iff.mpr hident]
      split
      · rename_i hlabels
        exact absurd (by rw [hlabels]; rfl) hcount
      · rfl
    · simp [ofBlock, Kind.ofIdent?_eq_some_iff.mpr hident, hlabels, htype]
    · simp [ofBlock, Kind.ofIdent?_eq_some_iff.mpr hident, hlabels, htype, hname]

end Declaration

/-- The root block that an issue reports. -/
def Issue.block? : Issue → Option Nat
  | .unreadable _ => none
  | .rootAttribute _ => none
  | .unknownBlockType index => some index
  | .labelCount index _ => some index
  | .unknownType index _ => some index
  | .invalidName index _ => some index
  | .duplicateAddress _ new => some new

theorem Source.Block.Faulty.block? {b : Block} {index : Nat} {issue : Issue} (h : b.Faulty index issue) :
    issue.block? = some index := by
  cases h <;> rfl

namespace Config

variable {blocks : List (String × Block)} {index : Nat} {d e : Declaration} {issue : Issue}

/-- What the block of a number declares. -/
def DeclaresAt (blocks : List (String × Block)) (index : Nat) (d : Declaration) : Prop :=
  ∃ source b, blocks[index]? = some (source, b) ∧ b.Declares source d

/-- The block of a number declares `d`, and no block before it has the same address. -/
structure Accepts (blocks : List (String × Block)) (index : Nat) (d : Declaration) : Prop where
  declares : DeclaresAt blocks index d
  first : ∀ earlier < index, ∀ e, DeclaresAt blocks earlier e → e.address ≠ d.address

/-- What is wrong with the block of a number among all blocks. -/
inductive Offends (blocks : List (String × Block)) (index : Nat) : Issue → Prop
  | faulty {source : String} {b : Block} {issue : Issue} (block : blocks[index]? = some (source, b))
      (fault : b.Faulty index issue) : Offends blocks index issue
  | duplicate {d e : Declaration} {existing : Nat} (declares : DeclaresAt blocks index d)
      (before : existing < index) (accepts : Accepts blocks existing e) (address : e.address = d.address) :
      Offends blocks index (.duplicateAddress existing index)

theorem DeclaresAt.lt (h : DeclaresAt blocks index d) : index < blocks.length := by
  obtain ⟨source, b, hblock, -⟩ := h
  exact (List.getElem?_eq_some_iff.mp hblock).1

theorem DeclaresAt.unique (h : DeclaresAt blocks index d) (h' : DeclaresAt blocks index e) : d = e := by
  obtain ⟨source, b, hblock, hd⟩ := h
  obtain ⟨source', b', hblock', he⟩ := h'
  cases hblock.symm.trans hblock'
  have hok : Declaration.ofBlock index source b = .ok d := Declaration.ofBlock_eq_ok_iff.mpr hd
  exact Except.ok.inj (hok.symm.trans (Declaration.ofBlock_eq_ok_iff.mpr he))

theorem declaresAt_append (hindex : index < blocks.length) (more : List (String × Block)) :
    DeclaresAt (blocks ++ more) index d ↔ DeclaresAt blocks index d := by
  unfold DeclaresAt
  rw [List.getElem?_append_left hindex]

theorem Accepts.append (h : Accepts blocks index d) (more : List (String × Block)) : Accepts (blocks ++ more) index d := by
  refine ⟨(declaresAt_append h.declares.lt more).mpr h.declares, fun earlier hearlier e he => ?_⟩
  exact h.first earlier hearlier e ((declaresAt_append (hearlier.trans h.declares.lt) more).mp he)

theorem Offends.append (h : Offends blocks index issue) (more : List (String × Block)) :
    Offends (blocks ++ more) index issue := by
  cases h with
  | faulty block fault =>
    exact .faulty (by rw [List.getElem?_append_left (List.getElem?_eq_some_iff.mp block).1, block]) fault
  | duplicate declares before accepts address =>
    exact .duplicate ((declaresAt_append declares.lt more).mpr declares) before (accepts.append more) address

theorem Offends.lt (h : Offends blocks index issue) : index < blocks.length := by
  cases h with
  | faulty block _ => exact (List.getElem?_eq_some_iff.mp block).1
  | duplicate declares _ _ _ => exact declares.lt

theorem Accepts.not_offends (h : Accepts blocks index d) : ¬Offends blocks index issue := by
  rintro (⟨hblock, hfault⟩ | ⟨hdeclares, hbefore, haccepts, haddress⟩)
  · obtain ⟨source, b, hblock', hdeclares⟩ := h.declares
    cases hblock.symm.trans hblock'
    have hboth := (Declaration.ofBlock_eq_ok_iff.mpr hdeclares).symm.trans (Declaration.ofBlock_eq_error_iff.mpr hfault)
    cases hboth
  · obtain rfl := h.declares.unique hdeclares
    exact h.first _ hbefore _ haccepts.declares haddress

/-- An address that is declared is declared for a first time. -/
theorem DeclaresAt.exists_accepts (h : DeclaresAt blocks index d) :
    ∃ first ≤ index, ∃ e, Accepts blocks first e ∧ e.address = d.address := by
  classical
  have hsome : ∃ i e, DeclaresAt blocks i e ∧ e.address = d.address := ⟨index, d, h, rfl⟩
  obtain ⟨e, he, haddress⟩ := Nat.find_spec hsome
  refine ⟨Nat.find hsome, Nat.find_min' hsome ⟨d, h, rfl⟩, e, ⟨he, fun earlier hearlier e' he' hsame => ?_⟩, haddress⟩
  exact Nat.find_min hsome hearlier ⟨e', he', hsame.trans haddress⟩

/-- How the blocks of a configuration have been judged: each of them is accepted or reported, in load order. -/
structure Judged (blocks : List (String × Block)) (accepted : List (Nat × Declaration)) (offences : List Issue) :
    Prop where
  once : (accepted.map Prod.fst ++ offences.filterMap Issue.block?).Perm (List.range blocks.length)
  accepted_inOrder : (accepted.map Prod.fst).Pairwise (· < ·)
  offences_inOrder : (offences.filterMap Issue.block?).Pairwise (· < ·)
  accepts : ∀ p ∈ accepted, Accepts blocks p.1 p.2
  offends : ∀ issue ∈ offences, ∃ index, issue.block? = some index ∧ Offends blocks index issue

namespace Judged

variable {accepted : List (Nat × Declaration)} {offences : List Issue} {source : String} {b : Block}

theorem inOrder_concat {indices : List Nat} {n : Nat} (h : indices.Pairwise (· < ·)) (hlt : ∀ i ∈ indices, i < n) :
    (indices ++ [n]).Pairwise (· < ·) := by
  rw [List.pairwise_append]
  exact ⟨h, List.pairwise_singleton _ _, fun i hi j hj => List.mem_singleton.mp hj ▸ hlt i hi⟩

/-- The accepted declarations are all that no earlier block declares. -/
theorem mem_accepted (h : Judged blocks accepted offences) (haccepts : Accepts blocks index d) : (index, d) ∈ accepted := by
  have hmem := h.once.mem_iff.mpr (List.mem_range.mpr haccepts.declares.lt)
  rcases List.mem_append.mp hmem with hmem | hmem
  · obtain ⟨⟨i, e⟩, hp, rfl⟩ := List.mem_map.mp hmem
    obtain rfl := (h.accepts _ hp).declares.unique haccepts.declares
    exact hp
  · obtain ⟨issue, hissue, hblock⟩ := List.mem_filterMap.mp hmem
    obtain ⟨i, hi, hoffends⟩ := h.offends issue hissue
    obtain rfl := Option.some.inj (hi.symm.trans hblock)
    exact absurd hoffends haccepts.not_offends

/-- One more block that declares something under an address of its own. -/
theorem accept (h : Judged blocks accepted offences) (hdeclares : b.Declares source d)
    (hnew : ∀ p ∈ accepted, p.2.address ≠ d.address) :
    Judged (blocks ++ [(source, b)]) (accepted ++ [(blocks.length, d)]) offences := by
  have hlt : ∀ i ∈ accepted.map Prod.fst, i < blocks.length := fun i hi =>
    List.mem_range.mp (h.once.subset (List.mem_append_left _ hi))
  have hlast : DeclaresAt (blocks ++ [(source, b)]) blocks.length d := ⟨source, b, by simp, hdeclares⟩
  refine ⟨?_, ?_, h.offences_inOrder, fun p hp => ?_, fun issue hissue => ?_⟩
  · rw [List.map_append, List.length_append, List.length_singleton, List.range_succ, List.append_assoc]
    exact ((List.perm_append_comm.append_left _).trans (by simp)).trans (h.once.append_right [blocks.length])
  · rw [List.map_append]
    exact inOrder_concat h.accepted_inOrder hlt
  · rcases List.mem_append.mp hp with hp | hp
    · exact (h.accepts p hp).append _
    · obtain rfl := List.mem_singleton.mp hp
      refine ⟨hlast, fun earlier hearlier e he hsame => ?_⟩
      obtain ⟨first, -, e', haccepts, haddress⟩ := ((declaresAt_append hearlier _).mp he).exists_accepts
      exact hnew _ (h.mem_accepted haccepts) (haddress.trans hsame)
  · obtain ⟨index, hindex, hoffends⟩ := h.offends issue hissue
    exact ⟨index, hindex, hoffends.append _⟩

/-- One more block that is reported. -/
theorem offend (h : Judged blocks accepted offences) {more : String × Block}
    (hoffends : Offends (blocks ++ [more]) blocks.length issue) (hblock : issue.block? = some blocks.length) :
    Judged (blocks ++ [more]) accepted (offences ++ [issue]) := by
  have hlt : ∀ i ∈ offences.filterMap Issue.block?, i < blocks.length := fun i hi =>
    List.mem_range.mp (h.once.subset (List.mem_append_right _ hi))
  have hfilter : (offences ++ [issue]).filterMap Issue.block? = offences.filterMap Issue.block? ++ [blocks.length] := by
    simp [hblock]
  refine ⟨?_, h.accepted_inOrder, ?_, fun p hp => (h.accepts p hp).append _, fun issue' hissue => ?_⟩
  · rw [hfilter, List.length_append, List.length_singleton, List.range_succ, ← List.append_assoc]
    exact h.once.append_right [blocks.length]
  · rw [hfilter]
    exact inOrder_concat h.offences_inOrder hlt
  · rcases List.mem_append.mp hissue with hissue | hissue
    · obtain ⟨index, hindex, hoffends⟩ := h.offends issue' hissue
      exact ⟨index, hindex, hoffends.append _⟩
    · obtain rfl := List.mem_singleton.mp hissue
      exact ⟨blocks.length, hblock, hoffends⟩

/-- Checking a block judges it. -/
theorem block (h : Judged blocks accepted offences) (outer : List Issue) (source : String) (b : Block) :
    ∃ accepted' offences', Checked.block ⟨accepted, outer ++ offences⟩ blocks.length source b =
      ⟨accepted', outer ++ offences'⟩ ∧ Judged (blocks ++ [(source, b)]) accepted' offences' := by
  have hlast : (blocks ++ [(source, b)])[blocks.length]? = some (source, b) := by simp
  unfold Checked.block
  cases hblock : Declaration.ofBlock blocks.length source b with
  | error issue =>
    have hfaulty := Declaration.ofBlock_eq_error_iff.mp hblock
    exact ⟨accepted, offences ++ [issue], by simp, h.offend (.faulty hlast hfaulty) hfaulty.block?⟩
  | ok d =>
    have hdeclares := Declaration.ofBlock_eq_ok_iff.mp hblock
    cases hfind : accepted.find? (fun p => p.2.address = d.address) with
    | none =>
      refine ⟨accepted ++ [(blocks.length, d)], offences, by simp [hfind], h.accept hdeclares fun p hp => ?_⟩
      simpa using List.find?_eq_none.mp hfind p hp
    | some p =>
      obtain ⟨existing, e⟩ := p
      have haccepts := h.accepts _ (List.mem_of_find?_eq_some hfind)
      have haddress : e.address = d.address := by simpa using List.find?_some hfind
      refine ⟨accepted, offences ++ [.duplicateAddress existing blocks.length], by simp [hfind], h.offend ?_ rfl⟩
      exact .duplicate ⟨source, b, hlast, hdeclares⟩ haccepts.declares.lt (haccepts.append _) haddress

end Judged

/-- Checking blocks one after the other judges all of them. -/
theorem judged_blocks (outer : List Issue) (blocks : List (String × Block)) :
    ∃ accepted offences, blocks.zipIdx.foldl (fun c b => Checked.block c b.2 b.1.1 b.1.2) ⟨[], outer⟩ =
      ⟨accepted, outer ++ offences⟩ ∧ Judged blocks accepted offences := by
  induction blocks using List.reverseRecOn with
  | nil => exact ⟨[], [], by simp, ⟨.nil, .nil, .nil, by simp, by simp⟩⟩
  | append_singleton blocks b ih =>
    obtain ⟨accepted, offences, hrun, hjudged⟩ := ih
    obtain ⟨accepted', offences', hstep, hjudged'⟩ := hjudged.block outer b.1 b.2
    exact ⟨accepted', offences', by rw [List.zipIdx_append, List.foldl_append, hrun]; simpa using hstep, hjudged'⟩

/-- Nothing is wrong with the files of a configuration. -/
structure Flawless (documents : List Document) : Prop where
  readable : ∀ document ∈ documents, document.body?.isSome
  attributes : rootAttributes documents = []
  blocks : ∀ index issue, ¬Offends (rootBlocks documents) index issue

section Outcome

variable {documents : List Document} {accepted : List (Nat × Declaration)} {offences : List Issue}

theorem outerIssues_eq_nil_iff :
    outerIssues documents = [] ↔ (∀ document ∈ documents, document.body?.isSome) ∧ rootAttributes documents = [] := by
  simp [outerIssues, List.filter_eq_nil_iff, Option.isSome_iff_ne_none]

theorem Judged.offences_eq_nil_iff (h : Judged blocks accepted offences) :
    offences = [] ↔ ∀ index issue, ¬Offends blocks index issue := by
  constructor
  · rintro rfl index issue hoffends
    have hmem := h.once.mem_iff.mpr (List.mem_range.mpr hoffends.lt)
    rw [List.filterMap_nil, List.append_nil] at hmem
    obtain ⟨p, hp, rfl⟩ := List.mem_map.mp hmem
    exact (h.accepts p hp).not_offends hoffends
  · intro hnone
    refine List.eq_nil_iff_forall_not_mem.mpr fun issue hissue => ?_
    obtain ⟨index, -, hoffends⟩ := h.offends issue hissue
    exact hnone index issue hoffends

theorem Judged.flawless_iff (h : Judged (rootBlocks documents) accepted offences) :
    Flawless documents ↔ outerIssues documents ++ offences = [] := by
  rw [List.append_eq_nil_iff, outerIssues_eq_nil_iff, h.offences_eq_nil_iff, and_assoc]
  exact ⟨fun ⟨hreadable, hattributes, hblocks⟩ => ⟨hreadable, hattributes, hblocks⟩,
    fun ⟨hreadable, hattributes, hblocks⟩ => ⟨hreadable, hattributes, hblocks⟩⟩

theorem Judged.nodup_addresses (h : Judged blocks accepted offences) : (accepted.map (·.2.address)).Nodup := by
  refine List.pairwise_map.mpr (List.Pairwise.imp_of_mem ?_ (List.pairwise_map.mp h.accepted_inOrder))
  exact fun {p q} hp hq hlt => (h.accepts q hq).first p.1 hlt p.2 (h.accepts p hp).declares

/-- Where nothing is reported, the declarations are those of the blocks in load order. -/
theorem Judged.forall₂_declares (h : Judged blocks accepted []) :
    List.Forall₂ (fun b d => b.2.Declares b.1 d) blocks (accepted.map (·.2)) := by
  have hindices : accepted.map Prod.fst = List.range blocks.length := by
    have hperm : (accepted.map Prod.fst).Perm (List.range blocks.length) := by simpa using h.once
    exact hperm.eq_of_pairwise (fun a b _ _ hab hba => absurd (hab.trans hba) (Nat.lt_irrefl a)) h.accepted_inOrder
      List.pairwise_lt_range
  have hlength : accepted.length = blocks.length := by simpa using congrArg List.length hindices
  refine List.forall₂_iff_get.mpr ⟨by simp [hlength], fun i hblock haccepted => ?_⟩
  have hi : i < accepted.length := by simpa using haccepted
  have hfst : (accepted[i]).1 = i := by
    have := congrArg (·[i]?) hindices
    simpa [hi, hblock] using this
  obtain ⟨source, b, hat, hdeclares⟩ := (h.accepts _ (List.getElem_mem hi)).declares
  rw [hfst, List.getElem?_eq_getElem hblock] at hat
  simpa [Option.some.inj hat] using hdeclares

theorem exists_judged (documents : List Document) : ∃ accepted offences, Judged (rootBlocks documents) accepted offences ∧
    ofDocuments documents = if outerIssues documents ++ offences = [] then .ok ⟨accepted.map (·.2)⟩
      else .error (outerIssues documents ++ offences) := by
  obtain ⟨accepted, offences, hrun, hjudged⟩ := judged_blocks (outerIssues documents) (rootBlocks documents)
  refine ⟨accepted, offences, hjudged, ?_⟩
  unfold ofDocuments
  simp only [hrun, List.isEmpty_iff]

/-- The declarations of a configuration have addresses of their own. -/
theorem nodup_ofDocuments {c : Config} (h : ofDocuments documents = .ok c) :
    (c.declarations.map Declaration.address).Nodup := by
  obtain ⟨accepted, offences, hjudged, hresult⟩ := exists_judged documents
  rw [h] at hresult
  split at hresult
  · cases hresult
    rw [List.map_map]
    exact hjudged.nodup_addresses
  · cases hresult

end Outcome

end Config

/-! Addresses -/

namespace Declaration

theorem splitOn_dot (text : String) : Text.splitOn text "." = (Text.partsAt '.' [] text.toList).map String.ofList := rfl

theorem splitOn_addressOf (kind type name : String) : Text.splitOn (addressOf kind type name) "." =
    Text.splitOn kind "." ++ Text.splitOn type "." ++ Text.splitOn name "." := by
  have hchars : (addressOf kind type name).toList =
      kind.toList ++ '.' :: type.toList ++ '.' :: name.toList := by simp [addressOf]
  simp only [splitOn_dot, hchars, Text.partsAt_append_separator, List.map_append]

theorem splitOn_of_not_mem {text : String} (h : '.' ∉ text.toList) : Text.splitOn text "." = [text] := by
  rw [splitOn_dot, Text.partsAt_of_not_mem h]
  simp

theorem exists_splitOn (text : String) : ∃ init last, Text.splitOn text "." = init ++ [last] := by
  obtain ⟨init, last, htext⟩ := Text.exists_partsAt '.' [] text.toList
  exact ⟨init.map String.ofList, String.ofList last, by rw [splitOn_dot, htext]; simp⟩

theorem eq_of_splitOn_eq_singleton {text part : String} (h : Text.splitOn text "." = [part]) : text = part := by
  rw [splitOn_dot] at h
  obtain ⟨chars, hchars, rfl⟩ := List.map_eq_singleton_iff.mp h
  rw [Text.eq_of_partsAt_eq_singleton hchars, String.ofList_toList]

/-- Only one kind, type and name go with the address of a declaration: it is cut into them at its dots, and no other
texts, whatever dots are in them, give it. -/
def SplitsUniquely (d : Declaration) : Prop :=
  Text.splitOn d.address "." = [d.kind.name, d.type, d.name] ∧
    ∀ kind type name, addressOf kind type name = d.address → kind = d.kind.name ∧ type = d.type ∧ name = d.name

theorem dot_not_mem_types (kind : Kind) : '.' ∉ kind.name.toList ∧ ∀ type ∈ kind.types, '.' ∉ type.toList := by
  cases kind <;> decide

theorem splitsUniquely {b : Block} {source : String} {d : Declaration} (h : b.Declares source d) : d.SplitsUniquely := by
  obtain ⟨hkind, htypes⟩ := dot_not_mem_types d.kind
  have hname := Text.not_mem_of_isIdentifier h.name (c := '.') (by decide) (by decide)
  have hsplit : Text.splitOn d.address "." = [d.kind.name, d.type, d.name] := by
    rw [address, splitOn_addressOf, splitOn_of_not_mem hkind, splitOn_of_not_mem (htypes d.type h.type),
      splitOn_of_not_mem hname]
    rfl
  refine ⟨hsplit, fun kind type name haddress => ?_⟩
  obtain ⟨kinds, kind', hkinds⟩ := exists_splitOn kind
  obtain ⟨types, type', htypes⟩ := exists_splitOn type
  obtain ⟨names, name', hnames⟩ := exists_splitOn name
  rw [← haddress, splitOn_addressOf, hkinds, htypes, hnames] at hsplit
  have hlength := congrArg List.length hsplit
  simp only [List.length_append, List.length_cons, List.length_nil] at hlength
  obtain rfl := List.length_eq_zero_iff.mp (show kinds.length = 0 by omega)
  obtain rfl := List.length_eq_zero_iff.mp (show types.length = 0 by omega)
  obtain rfl := List.length_eq_zero_iff.mp (show names.length = 0 by omega)
  obtain ⟨hkind', htype', hname'⟩ : kind' = d.kind.name ∧ type' = d.type ∧ name' = d.name := by simpa using hsplit
  exact ⟨(eq_of_splitOn_eq_singleton hkinds).trans hkind', (eq_of_splitOn_eq_singleton htypes).trans htype',
    (eq_of_splitOn_eq_singleton hnames).trans hname'⟩

end Declaration

namespace Config

/-- Every root block is accepted as one declaration or reported once, whatever else is wrong. A configuration comes out
exactly if nothing is wrong, with what its blocks declare in load order; otherwise the unreadable files are reported,
then the attributes outside of blocks and then the blocks, each by its number. -/
theorem blocks_accepted_or_reported (documents : List Document) :
    ∃ (accepted : List (Nat × Declaration)) (offences : List Issue),
      Judged (rootBlocks documents) accepted offences ∧ (accepted.map (·.2.address)).Nodup ∧
      (∀ p ∈ accepted, p.2.SplitsUniquely) ∧
      (∀ c, ofDocuments documents = .ok c ↔ Flawless documents ∧ c.declarations = accepted.map (·.2)) ∧
      (∀ issues, ofDocuments documents = .error issues ↔ ¬Flawless documents ∧
        issues = ((documents.filter (·.body?.isNone)).map fun document => .unreadable document.source) ++
          (List.range (rootAttributes documents).length).map .rootAttribute ++ offences) ∧
      (Flawless documents →
        List.Forall₂ (fun b d => b.2.Declares b.1 d) (rootBlocks documents) (accepted.map (·.2))) := by
  obtain ⟨accepted, offences, hjudged, hresult⟩ := exists_judged documents
  refine ⟨accepted, offences, hjudged, hjudged.nodup_addresses, fun p hp => ?_, fun c => ?_, fun issues => ?_, fun h => ?_⟩
  · obtain ⟨source, b, -, hdeclares⟩ := (hjudged.accepts p hp).declares
    exact Declaration.splitsUniquely hdeclares
  · rw [hjudged.flawless_iff, hresult]
    split
    · rename_i hnone
      refine ⟨fun h => ⟨hnone, congrArg declarations (Except.ok.inj h).symm⟩, fun ⟨_, hc⟩ => ?_⟩
      rw [← hc]
    · rename_i hsome
      exact iff_of_false (fun h => nomatch h) fun h => hsome h.1
  · rw [hjudged.flawless_iff, hresult]
    split
    · rename_i hnone
      exact iff_of_false (fun h => nomatch h) fun h => h.1 hnone
    · rename_i hsome
      refine ⟨fun h => ⟨hsome, (Except.error.inj h).symm⟩, fun ⟨_, hissues⟩ => ?_⟩
      rw [hissues]
      rfl
  · obtain rfl := (List.append_eq_nil_iff.mp (hjudged.flawless_iff.mp h)).2
    exact hjudged.forall₂_declares

/-- The second file holds an attribute, a block of unknown type, and two blocks of one address. -/
def faultyText : String :=
  "x = 1\ndata \"y\" \"z\" \x7b\x7d\ndata \"local\" \"z\" \x7b\x7d\ndata \"local\" \"z\" \x7b\x7d\n"

example : (match ofDocuments [⟨"a.mptf.hcl", none⟩, ⟨"b.mptf.hcl", parse? faultyText⟩] with
      | .ok _ => []
      | .error issues => issues) =
    [.unreadable "a.mptf.hcl", .rootAttribute 0, .unknownType 0 "data.y", .duplicateAddress 1 2] := by decide +kernel

end Config

end Terrasmith
