import Mathlib.Data.List.Nodup
import Terrasmith.Proofs.Parts
import Terrasmith.Workspace.Basic

/-!
Where paths lead. The last part of a path names a file in the directory that the parts before it lead to, so that a path
with something behind it leads to the file of the longer name in the same directory. Paths lead to the same places in
all workspaces with the same directories.
-/
namespace Terrasmith

namespace Text

/-- A text that ends in another one. -/
theorem afterStart?_isSome {start chars : List Char} (h : (afterStart? start chars).isSome = true) :
    ∃ rest, chars = start ++ rest := by
  induction start generalizing chars with
  | nil => exact ⟨chars, rfl⟩
  | cons s start ih =>
    cases chars with
    | nil => simp [afterStart?] at h
    | cons c chars =>
      by_cases hs : s = c
      · subst hs
        obtain ⟨rest, rfl⟩ := ih (by simpa [afterStart?] using h)
        exact ⟨rest, rfl⟩
      · simp [afterStart?, hs] at h

theorem afterStart?_append (start rest : List Char) : afterStart? start (start ++ rest) = some rest := by
  induction start with
  | nil => rfl
  | cons s start ih => simp [afterStart?, ih]

theorem exists_of_endsWith {text stop : String} (h : endsWith text stop = true) : ∃ rest, text = rest ++ stop := by
  obtain ⟨rest, hrest⟩ := afterStart?_isSome h
  refine ⟨String.ofList rest.reverse, String.toList_inj.mp ?_⟩
  have hchars := congrArg List.reverse hrest
  simpa using hchars

end Text

namespace Path

theorem components_eq (path : String) :
    components path = (Text.partsAt '/' [] path.toList).map String.ofList := rfl

theorem components_append (path : String) {tail : String} (htail : '/' ∉ tail.toList) :
    ∃ init last, components path = init ++ [last] ∧ components (path ++ tail) = init ++ [last ++ tail] := by
  obtain ⟨init, last, hpath, hboth⟩ := Text.partsAt_append htail [] path.toList
  refine ⟨init.map String.ofList, String.ofList last, ?_, ?_⟩
  · rw [components_eq, hpath]
    simp
  · rw [components_eq, String.toList_append, hboth]
    simp

theorem components_slash (path rest : String) : components (path ++ "/" ++ rest) = components path ++ components rest := by
  have hchars : (path ++ "/" ++ rest).toList = path.toList ++ '/' :: rest.toList := by simp
  rw [components_eq, hchars, Text.partsAt_append_separator]
  simp [components_eq]

theorem mem_components {path part : String} (h : part ∈ components path) :
    ∀ c ∈ part.toList, c ≠ '/' ∧ c ∈ path.toList := by
  obtain ⟨chars, hchars, rfl⟩ := List.mem_map.mp h
  intro c hc
  obtain ⟨hne, hmem⟩ := Text.mem_partsAt List.not_mem_nil hchars c (by simpa using hc)
  exact ⟨hne, by simpa using hmem⟩

theorem components_of_not_mem {name : String} (h : '/' ∉ name.toList) : components name = [name] := by
  obtain ⟨init, last, hempty, hname⟩ := components_append "" h
  have hnil : components "" = [""] := rfl
  rw [hnil] at hempty
  obtain ⟨rfl, rfl⟩ : init = [] ∧ last = "" := by
    cases init with
    | nil => exact ⟨rfl, by simpa using hempty.symm⟩
    | cons part rest => simp at hempty
  simpa using hname

end Path

namespace Workspace

/-- A name that a directory can have for a file. -/
structure IsName (name : String) : Prop where
  ne_empty : name ≠ ""
  ne_dot : name ≠ "."
  ne_dots : name ≠ ".."
  no_slash : '/' ∉ name.toList
  no_nul : Char.ofNat 0 ∉ name.toList
  short : name.utf8ByteSize ≤ nameLimit

/-- Every location is told about once, and every node stands in a directory. -/
structure Sound (w : Workspace) : Prop where
  nodup : (w.nodes.map Prod.fst).Nodup
  parents : ∀ e ∈ w.nodes, e.1 ≠ [] ∧ w.node? e.1.dropLast = some .directory

instance (w : Workspace) : Decidable w.Sound :=
  decidable_of_iff ((w.nodes.map Prod.fst).Nodup ∧
      ∀ e ∈ w.nodes, e.1 ≠ [] ∧ w.node? e.1.dropLast = some .directory)
    ⟨fun h => ⟨h.1, h.2⟩, fun h => ⟨h.nodup, h.parents⟩⟩

theorem node?_eq_some_mem {w : Workspace} {l : Location} {n : Node} (hl : l ≠ []) (h : w.node? l = some n) :
    (l, n) ∈ w.nodes := by
  unfold node? at h
  rw [if_neg hl] at h
  obtain ⟨e, he, rfl⟩ := Option.map_eq_some_iff.mp h
  obtain rfl : e.1 = l := by simpa using List.find?_some he
  exact List.mem_of_find?_eq_some he

theorem Sound.node?_of_mem {w : Workspace} (h : w.Sound) {l : Location} {n : Node} (hmem : (l, n) ∈ w.nodes) :
    w.node? l = some n := by
  have hl : l ≠ [] := (h.parents _ hmem).1
  unfold node?
  rw [if_neg hl, Option.map_eq_some_iff]
  refine ⟨(l, n), ?_, rfl⟩
  cases hfind : w.nodes.find? (·.1 = l) with
  | none => simpa using List.find?_eq_none.mp hfind _ hmem
  | some e =>
    have hkey : e.1 = l := by simpa using List.find?_some hfind
    have hunique := List.inj_on_of_nodup_map h.nodup (List.mem_of_find?_eq_some hfind) hmem hkey
    rw [hunique]

/-- The directory around something that is there. -/
theorem Sound.parent {w : Workspace} (h : w.Sound) {l : Location} (hl : (w.node? l).isSome) :
    w.node? l.dropLast = some .directory := by
  obtain ⟨n, hn⟩ := Option.isSome_iff_exists.mp hl
  by_cases hnil : l = []
  · rw [hnil]
    rfl
  · exact (h.parents _ (node?_eq_some_mem hnil hn)).2

theorem walk_append (w : Workspace) (l : Location) (first second : List String) :
    w.walk l (first ++ second) = w.walk l first >>= fun k => w.walk k second := by
  induction first generalizing l with
  | nil => rfl
  | cons name rest ih =>
    rw [List.cons_append, walk, walk]
    cases w.node? l with
    | none => rfl
    | some n =>
      cases n with
      | file content => rfl
      | directory =>
        dsimp only
        split
        · exact ih l
        · split
          · exact ih _
          · split
            · rfl
            · exact ih _

/-- Two workspaces with the same directories. -/
structure SameDirectories (w w' : Workspace) : Prop where
  cwd : w'.cwd = w.cwd
  iff : ∀ l, w'.node? l = some .directory ↔ w.node? l = some .directory

theorem SameDirectories.walk {w w' : Workspace} (h : SameDirectories w w') {l k : Location} {names : List String}
    (hwalk : w.walk l names = .ok k) : w'.walk l names = .ok k := by
  induction names generalizing l with
  | nil => exact hwalk
  | cons name rest ih =>
    rw [Workspace.walk] at hwalk ⊢
    cases hnode : w.node? l with
    | none => simp [hnode] at hwalk
    | some n =>
      cases n with
      | file content => simp [hnode] at hwalk
      | directory =>
        rw [(h.iff l).mpr hnode]
        simp only [hnode] at hwalk
        dsimp only
        split at hwalk
        · rw [if_pos ‹_›]
          exact ih hwalk
        · rw [if_neg ‹_›]
          split at hwalk
          · rw [if_pos ‹_›]
            exact ih hwalk
          · rw [if_neg ‹_›]
            split at hwalk
            · cases hwalk
            · rw [if_neg ‹_›]
              exact ih hwalk

theorem locate_eq_ok {w : Workspace} {path : String} {k : Location} (h : w.locate path = .ok k) :
    Char.ofNat 0 ∉ path.toList ∧ path.isEmpty = false ∧
      w.walk (if Path.isAbsolute path then [] else w.cwd) (Path.components path) = .ok k := by
  unfold locate at h
  split at h
  · cases h
  · split at h
    · cases h
    · rename_i hnul hempty
      exact ⟨by simpa using hnul, by simpa using hempty, h⟩

theorem locate_of_walk {w : Workspace} {path : String} (hnul : Char.ofNat 0 ∉ path.toList)
    (hempty : path.isEmpty = false) :
    w.locate path = w.walk (if Path.isAbsolute path then [] else w.cwd) (Path.components path) := by
  unfold locate
  rw [if_neg (by simpa using hnul), if_neg (by simp [hempty])]

theorem SameDirectories.locate {w w' : Workspace} (h : SameDirectories w w') {path : String} {k : Location}
    (hlocate : w.locate path = .ok k) : w'.locate path = .ok k := by
  obtain ⟨hnul, hempty, hwalk⟩ := locate_eq_ok hlocate
  rw [locate_of_walk hnul hempty, h.cwd]
  exact h.walk hwalk

theorem walk_name {w : Workspace} {l : Location} (hl : w.node? l = some .directory) {name : String}
    (h : IsName name) : w.walk l [name] = .ok (l ++ [name]) := by
  simp [walk, hl, h.ne_empty, h.ne_dot, h.ne_dots, h.short]

theorem isAbsolute_append {path : String} (h : path.isEmpty = false) (tail : String) :
    Path.isAbsolute (path ++ tail) = Path.isAbsolute path := by
  unfold Path.isAbsolute Text.startsWith
  rw [String.toList_append]
  cases hchars : path.toList with
  | nil =>
    have : path = "" := String.toList_inj.mp (by simpa using hchars)
    simp [this] at h
  | cons c rest =>
    rw [List.cons_append, show "/".toList = ['/'] from rfl]
    simp only [Text.afterStart?]
    split <;> rfl

theorem isEmpty_append {path : String} (h : path.isEmpty = false) (tail : String) : (path ++ tail).isEmpty = false := by
  rw [String.isEmpty_eq_false_iff] at h ⊢
  simp [h]

/-- What a path leads to, unless it is a directory, is in the directory that the path without its last part leads to,
and something behind the path goes to its name. -/
theorem Sound.locate_file {w : Workspace} (hw : w.Sound) {path : String} {k : Location} (h : w.locate path = .ok k)
    (hfile : w.node? k ≠ some .directory) :
    ∃ l name, k = l ++ [name] ∧ IsName name ∧ w.node? l = some .directory ∧
      ∀ tail : String, '/' ∉ tail.toList → Char.ofNat 0 ∉ tail.toList → 2 < tail.length →
        w.locate (path ++ tail) = if nameLimit < (name ++ tail).utf8ByteSize then .error .nameTooLong
          else .ok (l ++ [name ++ tail]) := by
  obtain ⟨hnul, hempty, hwalk⟩ := locate_eq_ok h
  obtain ⟨init, last, hcomponents, -⟩ := Path.components_append path (show '/' ∉ "".toList by simp)
  rw [hcomponents, walk_append] at hwalk
  generalize hstart : (if Path.isAbsolute path then [] else w.cwd) = start at hwalk
  cases hinit : w.walk start init with
  | error e => simp [hinit, bind, Except.bind] at hwalk
  | ok l =>
    simp only [hinit, bind, Except.bind, walk] at hwalk
    cases hnode : w.node? l with
    | none => simp [hnode] at hwalk
    | some n =>
      cases n with
      | file content => simp [hnode] at hwalk
      | directory =>
        simp only [hnode] at hwalk
        split at hwalk
        · cases hwalk
          exact absurd hnode hfile
        · split at hwalk
          · cases hwalk
            exact absurd (hw.parent (by simp [hnode])) hfile
          · split at hwalk
            · cases hwalk
            · rename_i hdot hdots hshort
              cases hwalk
              obtain ⟨hne, hnedot⟩ := not_or.mp (by simpa using hdot)
              have hlast : last ∈ Path.components path := by simp [hcomponents]
              have hchars := Path.mem_components hlast
              have hname : IsName last := ⟨hne, hnedot, hdots, fun hc => (hchars _ hc).1 rfl,
                fun hc => hnul (hchars _ hc).2, Nat.le_of_not_lt hshort⟩
              refine ⟨l, last, rfl, hname, hnode, fun tail hslash htail hlength => ?_⟩
              obtain ⟨init', last', hcomponents', hboth⟩ := Path.components_append path hslash
              obtain ⟨rfl, hlasts⟩ := List.append_inj' (hcomponents.symm.trans hcomponents') (by simp)
              obtain rfl : last = last' := by simpa using hlasts
              have hlong : 2 < (last ++ tail).length := by
                rw [String.length_append]
                omega
              have hne' : last ++ tail ≠ "" := fun he => by simp [he] at hlong
              have hdot' : last ++ tail ≠ "." := fun he => by
                rw [he] at hlong
                exact absurd hlong (by decide)
              have hdots' : last ++ tail ≠ ".." := fun he => by
                rw [he] at hlong
                exact absurd hlong (by decide)
              rw [locate_of_walk (by simp [hnul, htail]) (isEmpty_append hempty _), isAbsolute_append hempty, hstart, hboth,
                walk_append, hinit]
              simp [bind, Except.bind, walk, hnode, hne', hdot', hdots']

theorem endsWith_append {name : String} (hname : IsName name) (path : String) :
    Text.endsWith (path ++ name) "/" = false := by
  by_contra h
  obtain ⟨rest, hrest⟩ := Text.exists_of_endsWith (Bool.not_eq_false _ ▸ h)
  have hne : name.toList ≠ [] := by simpa using hname.ne_empty
  have hlast := congrArg (fun s => s.toList.getLast?) hrest
  simp only [String.toList_append, List.getLast?_append_of_ne_nil _ hne] at hlast
  have hslash : name.toList.getLast? = some '/' := by simpa using hlast
  exact hname.no_slash (List.mem_of_getLast? hslash)

theorem endsWith_join {name : String} (hname : IsName name) (dir : String) :
    Text.endsWith (Path.join dir name) "/" = false := by
  unfold Path.join
  split
  · simpa using endsWith_append hname ""
  · split <;> exact endsWith_append hname _

/-- A name behind the path of a directory leads to the file of the name in it. -/
theorem locate_join {w : Workspace} {dir : String} {l : Location} (h : w.locate dir = .ok l)
    (hl : w.node? l = some .directory) {name : String} (hname : IsName name) :
    w.locate (Path.join dir name) = .ok (l ++ [name]) := by
  obtain ⟨hnul, hempty, hwalk⟩ := locate_eq_ok h
  have hrelative : Path.isAbsolute name = false := by
    by_contra habsolute
    obtain ⟨rest, hrest⟩ := Text.afterStart?_isSome (Bool.not_eq_false _ ▸ habsolute)
    exact hname.no_slash (by rw [hrest]; simp)
  unfold Path.join
  rw [if_neg (by simp [hrelative])]
  split
  · -- The path of the directory ends in a slash, whose empty part gives way to the name.
    have hslash : Text.endsWith dir "/" = true := by
      have hcase := ‹(dir.isEmpty || Text.endsWith dir "/") = true›
      rwa [hempty, Bool.false_or] at hcase
    obtain ⟨rest, rfl⟩ := Text.exists_of_endsWith hslash
    have hdir : Path.components (rest ++ "/") = Path.components rest ++ [""] := by
      rw [show [""] = Path.components "" from rfl, ← Path.components_slash, String.append_empty]
    rw [locate_of_walk (by simpa using ⟨by simpa using hnul, hname.no_nul⟩) (isEmpty_append hempty _),
      isAbsolute_append hempty, Path.components_slash, Path.components_of_not_mem hname.no_slash, walk_append]
    rw [hdir, walk_append] at hwalk
    cases hrest : w.walk (if Path.isAbsolute (rest ++ "/") then [] else w.cwd) (Path.components rest) with
    | error e => simp [hrest, bind, Except.bind] at hwalk
    | ok k =>
      simp only [hrest, bind, Except.bind, walk] at hwalk ⊢
      cases hnode : w.node? k with
      | none => simp [hnode] at hwalk
      | some n =>
        cases n with
        | file content => simp [hnode] at hwalk
        | directory =>
          obtain rfl : k = l := by simpa [hnode] using hwalk
          simpa [walk, hnode] using walk_name hl hname
  · rw [String.append_assoc, locate_of_walk (by simpa using ⟨hnul, hname.no_nul⟩) (isEmpty_append hempty _),
      isAbsolute_append hempty, ← String.append_assoc, Path.components_slash,
      Path.components_of_not_mem hname.no_slash, walk_append, hwalk]
    exact walk_name hl hname

end Workspace

end Terrasmith
