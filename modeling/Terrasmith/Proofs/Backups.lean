import Terrasmith.Proofs.Locations
import Terrasmith.Workspace.Backup
import Terrasmith.Workspace.Transform

/-!
Saving files and putting them back. While files of a directory are saved, each of them has a backup with the text it
had at first (`Backed`); restoring a file from its backup takes the file out of those that were written. A view tells
what stands at each location, as a workspace does.
-/
namespace Terrasmith

open Source

namespace Backup

theorem target?_append {name : String} (h : name ≠ "") : target? (name ++ suffix) = some name := by
  have hstrip : Text.stripEnd? (name ++ suffix) suffix = some name := by
    simp [Text.stripEnd?, Text.afterStart?_append]
  simp [target?, hstrip, h]

theorem target?_eq_some {name target : String} (h : target? name = some target) :
    name = target ++ suffix ∧ target ≠ "" := by
  unfold target? at h
  cases hstrip : Text.stripEnd? name suffix with
  | none => simp [hstrip] at h
  | some found =>
    simp only [hstrip] at h
    split at h
    · cases h
    · rename_i hfound
      cases h
      refine ⟨?_, by simpa using hfound⟩
      obtain ⟨chars, hchars, rfl⟩ := Option.map_eq_some_iff.mp hstrip
      obtain ⟨rest, hrest⟩ := Text.afterStart?_isSome (Option.isSome_iff_exists.mpr ⟨chars, hchars⟩)
      obtain rfl : rest = chars := by
        rw [hrest, Text.afterStart?_append] at hchars
        exact Option.some.inj hchars
      have htext := congrArg List.reverse hrest
      exact String.toList_inj.mp (by simpa using htext)

/-- A name that is none of a backup differs from those of backups. -/
theorem ne_append {name target : String} (hname : target? name = none) (htarget : target ≠ "") :
    name ≠ target ++ suffix := by
  rintro rfl
  rw [target?_append htarget] at hname
  cases hname

theorem append_inj {name target : String} (h : name ++ suffix = target ++ suffix) : name = target := by
  have hchars := congrArg String.toList h
  rw [String.toList_append, String.toList_append] at hchars
  exact String.toList_inj.mp (List.append_cancel_right hchars)

end Backup

namespace Workspace

open Backup

variable {w w' : Workspace} {k l : Location}

theorem ne_nil_of_not_directory (h : w.node? k ≠ some .directory) : k ≠ [] := by
  rintro rfl
  exact h rfl

theorem SameDirectories.refl (w : Workspace) : SameDirectories w w := ⟨rfl, fun _ => Iff.rfl⟩

theorem SameDirectories.trans {w'' : Workspace} (h : SameDirectories w w') (h' : SameDirectories w' w'') :
    SameDirectories w w'' := ⟨h'.cwd.trans h.cwd, fun l => (h'.iff l).trans (h.iff l)⟩

theorem SameDirectories.put (h : w.node? k ≠ some .directory) (c : Content) :
    SameDirectories w (w.put k (.file c)) := by
  refine ⟨rfl, fun l => ?_⟩
  by_cases hl : l = k
  · subst hl
    rw [node?_put_self w (ne_nil_of_not_directory h)]
    exact ⟨nofun, fun hdirectory => absurd hdirectory h⟩
  · rw [node?_put_of_ne w hl]

theorem SameDirectories.erase (h : w.node? k ≠ some .directory) : SameDirectories w (w.erase k) := by
  refine ⟨rfl, fun l => ?_⟩
  by_cases hl : l = k
  · subst hl
    rw [node?_erase_self w (ne_nil_of_not_directory h)]
    exact ⟨nofun, fun hdirectory => absurd hdirectory h⟩
  · rw [node?_erase_of_ne w hl]

theorem nodup_filter (h : (w.nodes.map Prod.fst).Nodup) (k : Location) :
    ((w.nodes.filter (·.1 ≠ k)).map Prod.fst).Nodup :=
  h.sublist (List.filter_sublist.map Prod.fst)

theorem Sound.put (hw : w.Sound) (h : w.node? k ≠ some .directory) (hparent : w.node? k.dropLast = some .directory)
    (c : Content) : (w.put k (.file c)).Sound := by
  have hsame := SameDirectories.put h c
  refine ⟨?_, fun e he => ?_⟩
  · refine List.nodup_cons.mpr ⟨?_, nodup_filter hw.nodup k⟩
    intro hmem
    obtain ⟨e, he, hkey⟩ := List.mem_map.mp hmem
    simpa [hkey] using (List.mem_filter.mp he).2
  · rcases List.mem_cons.mp he with rfl | he
    · exact ⟨ne_nil_of_not_directory h, (hsame.iff _).mpr hparent⟩
    · obtain ⟨hne, hdirectory⟩ := hw.parents e (List.mem_of_mem_filter he)
      exact ⟨hne, (hsame.iff _).mpr hdirectory⟩

theorem Sound.erase (hw : w.Sound) (h : w.node? k ≠ some .directory) : (w.erase k).Sound := by
  refine ⟨nodup_filter hw.nodup k, fun e he => ?_⟩
  obtain ⟨hne, hdirectory⟩ := hw.parents e (List.mem_of_mem_filter he)
  exact ⟨hne, ((SameDirectories.erase h).iff _).mpr hdirectory⟩

/-! Reading, writing and removing by location -/

theorem write_eq_ok {path text : String} (h : w.write path text = .ok w') :
    ∃ k, w.locate path = .ok k ∧ w.node? k ≠ some .directory ∧ w' = w.put k (.file (.text text)) := by
  unfold write at h
  split at h
  · cases hlocate : w.locate (Path.withoutEndSlashes path) <;> simp [hlocate, bind, Except.bind] at h
  · cases hlocate : w.locate path with
    | error e => simp [hlocate, bind, Except.bind] at h
    | ok k =>
      simp only [hlocate, bind, Except.bind] at h
      refine ⟨k, rfl, ?_⟩
      cases hnode : w.node? k with
      | none => simpa [hnode, pure, Except.pure, eq_comm] using h
      | some n =>
        cases n with
        | directory => simp [hnode] at h
        | file c => simpa [hnode, pure, Except.pure, eq_comm] using h

theorem write_of_locate {path : String} (hlocate : w.locate path = .ok k) (hnode : w.node? k ≠ some .directory)
    (hpath : Text.endsWith path "/" = false) (text : String) :
    w.write path text = .ok (w.put k (.file (.text text))) := by
  unfold write
  rw [if_neg (by simp [hpath])]
  simp only [hlocate, bind, Except.bind]
  cases hn : w.node? k with
  | none => rfl
  | some n =>
    cases n with
    | directory => exact absurd hn hnode
    | file c => rfl

theorem find_of_locate {path : String} {n : Node} (hlocate : w.locate path = .ok k) (hnode : w.node? k = some n) :
    w.find path = .ok n := by
  simp [find, hlocate, hnode, bind, Except.bind, pure, Except.pure]

theorem read_of_locate {path text : String} (hlocate : w.locate path = .ok k)
    (hnode : w.node? k = some (.file (.text text))) : w.read path = .ok text := by
  simp [read, find_of_locate hlocate hnode, bind, Except.bind, pure, Except.pure]

theorem remove_of_locate {path : String} {c : Content} (hlocate : w.locate path = .ok k)
    (hnode : w.node? k = some (.file c)) : w.remove path = .ok (w.erase k) := by
  simp [remove, hlocate, hnode, bind, Except.bind, pure, Except.pure]

theorem writeBackup_eq_ok {path : String} {content? : Option String} {fresh : Bool}
    (h : w.writeBackup path content? = .ok (w', fresh)) :
    w.hasPath (pathOf path) = true ∧ w' = w ∨
      w.hasPath (pathOf path) = false ∧ w.write (pathOf path) (content?.getD "") = .ok w' := by
  unfold writeBackup at h
  dsimp only at h
  cases hthere : w.hasPath (pathOf path) with
  | true =>
    rw [if_pos hthere] at h
    cases h
    exact .inl ⟨rfl, rfl⟩
  | false =>
    rw [if_neg (by simp [hthere])] at h
    cases hwrite : w.write (pathOf path) (content?.getD "") with
    | error e => simp [hwrite] at h
    | ok w₁ =>
      simp only [hwrite] at h
      cases h
      exact .inr ⟨rfl, rfl⟩

/-- What stands where a path leads. -/
theorem hasPath_of_locate {path : String} {k : Location} (h : w.locate path = .ok k) :
    w.hasPath path = (w.node? k).isSome := by
  unfold hasPath find
  cases hnode : w.node? k <;>
    simp [h, hnode, bind, Except.bind, pure, Except.pure, throw, throwThe, MonadExceptOf.throw, Except.isOk,
      Except.toBool]

/-- The text at a location, nothing if there is none. -/
def initialText : Option Node → String
  | some (.file (.text s)) => s
  | _ => ""

theorem read_getD {path : String} (hlocate : w.locate path = .ok k) :
    (w.read path).toOption.getD "" = initialText (w.node? k) := by
  cases hnode : w.node? k with
  | none => simp [read, find, hlocate, hnode, bind, Except.bind, Except.toOption, initialText, throw, throwThe,
      MonadExceptOf.throw]
  | some n =>
    have hfind := find_of_locate hlocate hnode
    cases n with
    | directory => simp [read, hfind, bind, Except.bind, Except.toOption, initialText, throw, throwThe,
        MonadExceptOf.throw]
    | file c =>
      cases c <;> simp [read, hfind, bind, Except.bind, Except.toOption, initialText, pure, Except.pure, throw,
        throwThe, MonadExceptOf.throw]

/-- The names of the files directly in a directory. -/
theorem Sound.fileNames {dir : String} (hw : w.Sound) (hlocate : w.locate dir = .ok l)
    (hl : w.node? l = some .directory) :
    ∃ names, w.fileNames dir = .ok names ∧ names.Nodup ∧
      ∀ n, n ∈ names ↔ ∃ c, w.node? (l ++ [n]) = some (.file c) := by
  have hin : ∀ {e : Location × Node} {n : String}, fileIn? l e = some n ↔ ∃ c, e = (l ++ [n], .file c) := by
    intro e n
    obtain ⟨k, node⟩ := e
    cases node with
    | directory => simp [fileIn?]
    | file c =>
      simp only [fileIn?, Prod.mk.injEq, Node.file.injEq, exists_and_left, exists_eq', and_true]
      constructor
      · intro h
        split at h
        · rename_i hdrop
          rw [← List.dropLast_append_getLast? n h, hdrop]
        · cases h
      · rintro rfl
        simp
  refine ⟨(w.nodes.filterMap (fileIn? l)).mergeSort fun a b => !(b < a),
    by simp [Workspace.fileNames, hlocate, hl, bind, Except.bind, pure, Except.pure], ?_, fun n => ?_⟩
  · rw [(List.mergeSort_perm _ _).nodup_iff]
    refine List.pairwise_filterMap.mpr ((List.pairwise_map.mp hw.nodup).imp fun {e e'} hne n hn n' hn' => ?_)
    obtain ⟨c, rfl⟩ := hin.mp hn
    obtain ⟨c', rfl⟩ := hin.mp hn'
    rintro rfl
    exact hne rfl
  · rw [(List.mergeSort_perm _ _).mem_iff, List.mem_filterMap]
    constructor
    · rintro ⟨e, he, hfile⟩
      obtain ⟨c, rfl⟩ := hin.mp hfile
      exact ⟨c, hw.node?_of_mem he⟩
    · rintro ⟨c, hnode⟩
      exact ⟨(l ++ [n], .file c), node?_eq_some_mem (by simp) hnode, hin.mpr ⟨c, rfl⟩⟩

end Workspace

end Terrasmith
