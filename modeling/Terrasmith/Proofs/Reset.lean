import Terrasmith.Proofs.Backups
import Terrasmith.Proofs.Saving

/-!
Resetting a directory after any number of runs. Each run keeps the files of the directory backed up, and a reset takes
the written files back one by one. A backup without text stands for a file that was not there, so of the files that were
written those that were empty at first are gone afterwards; all else is as it was.
-/
namespace Terrasmith

open Backup

/-- No name of a backup is taken in a directory, and its files are texts. -/
structure Clean (l : Location) (v : Location → Option Node) : Prop where
  noBackup : ∀ name, (target? name).isSome → v (l ++ [name]) = none
  texts : ∀ name b, v (l ++ [name]) ≠ some (.file (.bytes b))

/-- Names that can be written in a directory beside their backups. -/
structure Writable (l : Location) (v : Location → Option Node) (name : String) : Prop where
  isName : Workspace.IsName name
  short : (name ++ suffix).utf8ByteSize ≤ Workspace.nameLimit
  own : target? name = none
  file : v (l ++ [name]) ≠ some .directory

/-- Some files of a directory were written, and their backups hold the texts of the view. All else is as in the view. -/
structure Backed (l : Location) (v : Location → Option Node) (written : List String) (w : Workspace) : Prop where
  sound : w.Sound
  directory : w.node? l = some .directory
  writable : ∀ name ∈ written, Writable l v name
  file : ∀ name ∈ written, ∃ text, w.node? (l ++ [name]) = some (.file (.text text))
  backup : ∀ name ∈ written,
    w.node? (l ++ [name ++ suffix]) = some (.file (.text (Workspace.initialText (v (l ++ [name])))))
  others : ∀ k, (∀ name ∈ written, k ≠ l ++ [name] ∧ k ≠ l ++ [name ++ suffix]) → w.node? k = v k

namespace Backed

open Workspace

variable {l : Location} {v : Location → Option Node} {written : List String} {w w' : Workspace} {name : String}

theorem start (hsound : w.Sound) (hl : w.node? l = some .directory) : Backed l w.node? [] w where
  sound := hsound
  directory := hl
  writable := by simp
  file := by simp
  backup := by simp
  others k _ := rfl

/-- Only the names count, not their order. -/
theorem congr {others : List String} (h : Backed l v written w) (hsame : ∀ name, name ∈ others ↔ name ∈ written) :
    Backed l v others w where
  sound := h.sound
  directory := h.directory
  writable name hname := h.writable name ((hsame name).mp hname)
  file name hname := h.file name ((hsame name).mp hname)
  backup name hname := h.backup name ((hsame name).mp hname)
  others k hk := h.others k fun name hname => hk name ((hsame name).mpr hname)

theorem nodes_ne (h : Backed l v written w) (hname : name ∈ written) {other : String} (hother : other ∈ written) :
    l ++ [other] ≠ l ++ [name ++ suffix] := by
  intro heq
  have hnames : other = name ++ suffix := by simpa using heq
  exact ne_append (h.writable other hother).own (h.writable name hname).isName.ne_empty hnames

/-- A file that has not been written is as in the view. -/
theorem node?_new (h : Backed l v written w) (hown : target? name = none) (hnew : name ∉ written) :
    w.node? (l ++ [name]) = v (l ++ [name]) := by
  refine h.others _ fun n hn => ⟨fun heq => hnew ?_, fun heq => ?_⟩
  · obtain rfl : name = n := by simpa using heq
    exact hn
  · exact ne_append hown (h.writable n hn).isName.ne_empty (by simpa using heq)

/-- A file that has not been written has no backup. -/
theorem backup_new (h : Backed l v written w) (hclean : Clean l v) (hname : name ≠ "") (hnew : name ∉ written) :
    w.node? (l ++ [name ++ suffix]) = none := by
  rw [← hclean.noBackup (name ++ suffix) (by rw [target?_append hname]; rfl)]
  refine h.others _ fun n hn => ⟨fun heq => ?_, fun heq => hnew ?_⟩
  · exact ne_append (h.writable n hn).own hname (by simpa using heq.symm)
  · obtain rfl : name = n := append_inj (by simpa using heq)
    exact hn

/-- Writes a file once more. -/
theorem rewrite (h : Backed l v written w) (hname : name ∈ written) (text : String) :
    Backed l v written (w.put (l ++ [name]) (.file (.text text))) := by
  have hne : l ++ [name] ≠ [] := by simp
  obtain ⟨old, hold⟩ := h.file name hname
  have hfile : w.node? (l ++ [name]) ≠ some .directory := by simp [hold]
  refine ⟨h.sound.put hfile (by simpa using h.directory) _, ?_, h.writable, fun n hn => ?_, fun n hn => ?_,
    fun k hk => ?_⟩
  · exact ((SameDirectories.put hfile _).iff l).mpr h.directory
  · by_cases heq : n = name
    · subst heq
      exact ⟨text, node?_put_self w hne _⟩
    · rw [node?_put_of_ne w (by simpa using heq)]
      exact h.file n hn
  · rw [node?_put_of_ne w (h.nodes_ne hn hname).symm]
    exact h.backup n hn
  · rw [node?_put_of_ne w (hk name hname).1]
    exact h.others k hk

/-- Writes a file that has not been written yet, and its backup before. -/
theorem write (h : Backed l v written w) (hclean : Clean l v) (hname : Writable l v name) (hnew : name ∉ written)
    (text : String) :
    Backed l v (name :: written)
      ((w.put (l ++ [name ++ suffix]) (.file (.text (initialText (v (l ++ [name])))))).put (l ++ [name])
        (.file (.text text))) := by
  have hapart : ∀ n ∈ written, l ++ [n] ≠ l ++ [name ++ suffix] := by
    intro n hn heq
    exact ne_append (h.writable n hn).own hname.isName.ne_empty (by simpa using heq)
  have hapart' : ∀ n ∈ name :: written, l ++ [n ++ suffix] ≠ l ++ [name] := by
    intro n hn heq
    have hne : n ≠ "" := by
      rcases List.mem_cons.mp hn with rfl | hn
      · exact hname.isName.ne_empty
      · exact (h.writable n hn).isName.ne_empty
    exact ne_append hname.own hne (by simpa using heq.symm)
  have hwritten : ∀ n ∈ written, n ≠ name := fun n hn heq => hnew (heq ▸ hn)
  have hfile : w.node? (l ++ [name]) ≠ some .directory := by
    rw [h.node?_new hname.own hnew]
    exact hname.file
  have hfree : w.node? (l ++ [name ++ suffix]) ≠ some .directory := by
    rw [h.backup_new hclean hname.isName.ne_empty hnew]
    simp
  generalize hw₁ : w.put (l ++ [name ++ suffix]) (.file (.text (initialText (v (l ++ [name]))))) = w₁
  have hsame : SameDirectories w w₁ := hw₁ ▸ SameDirectories.put hfree _
  have hsound : w₁.Sound := hw₁ ▸ h.sound.put hfree (by simpa using h.directory) _
  have hfile₁ : w₁.node? (l ++ [name]) ≠ some .directory := fun hd => hfile ((hsame.iff _).mp hd)
  have hdirectory : w₁.node? l = some .directory := (hsame.iff l).mpr h.directory
  refine ⟨hsound.put hfile₁ (by simpa using hdirectory) _, ((SameDirectories.put hfile₁ _).iff l).mpr hdirectory,
    fun n hn => ?_, fun n hn => ?_, fun n hn => ?_, fun k hk => ?_⟩
  · rcases List.mem_cons.mp hn with rfl | hn
    · exact hname
    · exact h.writable n hn
  · rcases List.mem_cons.mp hn with rfl | hn
    · exact ⟨text, node?_put_self _ (by simp) _⟩
    · rw [node?_put_of_ne _ (by simpa using hwritten n hn), ← hw₁, node?_put_of_ne _ (hapart n hn)]
      exact h.file n hn
  · rw [node?_put_of_ne _ (hapart' n hn), ← hw₁]
    rcases List.mem_cons.mp hn with rfl | hn
    · exact node?_put_self _ (by simp) _
    · rw [node?_put_of_ne _ fun heq => hwritten n hn (append_inj (by simpa using heq))]
      exact h.backup n hn
  · obtain ⟨hk₁, hk₂⟩ := hk name List.mem_cons_self
    rw [node?_put_of_ne _ hk₁, ← hw₁, node?_put_of_ne _ hk₂]
    exact h.others k fun n hn => hk n (.tail _ hn)

/-- Puts the file of the view back, and takes its backup away. -/
theorem putBack (h : Backed l v (name :: written) w) (hclean : Clean l v) (hnew : name ∉ written)
    (hsound : w'.Sound) (hsame : SameDirectories w w') (hrestored : w'.node? (l ++ [name]) = v (l ++ [name]))
    (hothers : ∀ k, k ≠ l ++ [name] → w'.node? k = w.node? k) :
    Backed l v written (w'.erase (l ++ [name ++ suffix])) := by
  have hmem : name ∈ name :: written := List.mem_cons_self
  have hbackup : w'.node? (l ++ [name ++ suffix]) ≠ some .directory := by
    rw [hothers _ fun heq => h.nodes_ne hmem hmem heq.symm, h.backup name hmem]
    simp
  have hwritten : ∀ n ∈ written, n ≠ name := fun n hn heq => hnew (heq ▸ hn)
  refine ⟨hsound.erase hbackup, ?_, fun n hn => h.writable n (.tail _ hn), fun n hn => ?_, fun n hn => ?_,
    fun k hk => ?_⟩
  · exact ((SameDirectories.erase hbackup).iff l).mpr ((hsame.iff l).mpr h.directory)
  · rw [node?_erase_of_ne _ (h.nodes_ne hmem (.tail _ hn)), hothers _ (by simpa using hwritten n hn)]
    exact h.file n (.tail _ hn)
  · rw [node?_erase_of_ne _ fun heq => hwritten n hn (append_inj (by simpa using heq)),
      hothers _ (h.nodes_ne (.tail _ hn) hmem).symm]
    exact h.backup n (.tail _ hn)
  · by_cases hk₂ : k = l ++ [name ++ suffix]
    · rw [hk₂, node?_erase_self _ (by simp)]
      exact (hclean.noBackup _ (by rw [target?_append (h.writable name hmem).isName.ne_empty]; rfl)).symm
    · rw [node?_erase_of_ne _ hk₂]
      by_cases hk₁ : k = l ++ [name]
      · rw [hk₁, hrestored]
      · rw [hothers k hk₁]
        refine h.others k fun n hn => ?_
        rcases List.mem_cons.mp hn with rfl | hn
        · exact ⟨hk₁, hk₂⟩
        · exact hk n hn

/-- Where the backup of a file is. -/
theorem locate_pathOf (hw : w.Sound) {path : String} (hlocate : w.locate path = .ok (l ++ [name]))
    (hfile : w.node? (l ++ [name]) ≠ some .directory) :
    IsName name ∧ w.locate (pathOf path) = if nameLimit < (name ++ suffix).utf8ByteSize then .error .nameTooLong
      else .ok (l ++ [name ++ suffix]) := by
  obtain ⟨l', name', hk, hname, -, htail⟩ := hw.locate_file hlocate hfile
  obtain ⟨rfl, hnames⟩ := List.append_inj' hk rfl
  obtain rfl : name = name' := by simpa using hnames
  exact ⟨hname, htail suffix (by decide) (by decide) (by decide)⟩

/-- Saving a file that knows its text in the view keeps all backed up. -/
theorem saveFile (h : Backed l v written w) (hclean : Clean l v) {path : String} {f : SourceFile}
    (hlocate : w.locate path = .ok (l ++ [name])) (hown : target? name = none)
    (hstored : name ∉ written → f.stored?.getD "" = initialText (v (l ++ [name])))
    (hsave : w.saveFile path f = (w', .ok ())) : SameDirectories w w' ∧ Backed l v (name :: written) w' := by
  unfold Workspace.saveFile at hsave
  cases hbackup : w.writeBackup path f.stored? with
  | error e => simp [hbackup] at hsave
  | ok result =>
    obtain ⟨w₁, fresh⟩ := result
    simp only [hbackup] at hsave
    cases hwrite : w₁.write path f.render with
    | error e => simp [hwrite] at hsave
    | ok w₂ =>
      simp only [hwrite, Prod.mk.injEq, and_true] at hsave
      subst hsave
      have hcases := writeBackup_eq_ok hbackup
      have hsame : SameDirectories w w₁ := by
        rcases hcases with ⟨-, rfl⟩ | ⟨-, hfresh⟩
        · exact .refl _
        · obtain ⟨k, -, hk, rfl⟩ := write_eq_ok hfresh
          exact .put hk _
      obtain ⟨k, hk, hfile₁, rfl⟩ := write_eq_ok hwrite
      obtain rfl : l ++ [name] = k := Except.ok.inj ((hsame.locate hlocate).symm.trans hk)
      have hfile : w.node? (l ++ [name]) ≠ some .directory := fun hd => hfile₁ ((hsame.iff _).mpr hd)
      refine ⟨hsame.trans (.put hfile₁ _), ?_⟩
      obtain ⟨hname, hpath⟩ := locate_pathOf h.sound hlocate hfile
      by_cases hwritten : name ∈ written
      · have hshort := (h.writable name hwritten).short
        rw [if_neg (Nat.not_lt.mpr hshort)] at hpath
        have hthere : w.hasPath (pathOf path) = true := by
          rw [hasPath_of_locate hpath, h.backup name hwritten]
          rfl
        rcases hcases with ⟨-, rfl⟩ | ⟨hmissing, -⟩
        · refine (h.rewrite hwritten f.render).congr fun n => ?_
          rw [List.mem_cons, or_iff_right_of_imp]
          rintro rfl
          exact hwritten
        · simp [hthere] at hmissing
      · rcases hcases with ⟨hthere, -⟩ | ⟨-, hfresh⟩
        · split at hpath
          · simp [hasPath, find, hpath, bind, Except.bind, Except.isOk, Except.toBool] at hthere
          · rw [hasPath_of_locate hpath, h.backup_new hclean hname.ne_empty hwritten] at hthere
            cases hthere
        · obtain ⟨b, hb, -, rfl⟩ := write_eq_ok hfresh
          split at hpath
          · simp [hpath] at hb
          · rename_i hshort
            obtain rfl : l ++ [name ++ suffix] = b := Except.ok.inj (hpath.symm.trans hb)
            rw [hstored hwritten]
            have hview := h.node?_new hown hwritten
            exact h.write hclean ⟨hname, Nat.le_of_not_lt hshort, hown, hview ▸ hfile⟩ hwritten _

/-- Saving files keeps all backed up. -/
theorem saveFiles {files : List (String × SourceFile)} {names paths : List String}
    (h : Backed l v written w) (hclean : Clean l v)
    (hnames : List.Forall₂ (fun file name => w.locate file.1 = .ok (l ++ [name]) ∧ target? name = none ∧
      (name ∉ written → file.2.stored?.getD "" = initialText (v (l ++ [name])))) files names)
    (hsave : Workspace.saveFiles files w = (w', .ok paths)) :
    SameDirectories w w' ∧ Backed l v (names ++ written) w' := by
  induction files generalizing written w names paths with
  | nil =>
    cases hnames
    cases hsave
    exact ⟨.refl _, h⟩
  | cons file files ih =>
    obtain ⟨name, names, ⟨hlocate, hown, hstored⟩, hrest, rfl⟩ := List.forall₂_cons_left_iff.mp hnames
    rcases saveFiles_cons_cases hsave with ⟨e, -, he⟩ | ⟨w₁, saved, hfile, hfiles, hsaved⟩
    · cases he
    · obtain ⟨others, rfl, -⟩ := map_eq_ok hsaved.symm
      obtain ⟨hsame, hbacked⟩ := h.saveFile hclean hlocate hown hstored hfile
      have hrest' : List.Forall₂ (fun file n => w₁.locate file.1 = .ok (l ++ [n]) ∧ target? n = none ∧
          (n ∉ name :: written → file.2.stored?.getD "" = initialText (v (l ++ [n])))) files names :=
        hrest.imp fun file n hn => ⟨hsame.locate hn.1, hn.2.1, fun hnew => hn.2.2 fun hm => hnew (.tail _ hm)⟩
      obtain ⟨hsame', hbacked'⟩ := ih hbacked hrest' hfiles
      refine ⟨hsame.trans hsame', hbacked'.congr fun n => ?_⟩
      simp only [List.cons_append, List.mem_cons, List.mem_append]
      tauto

/-- Restores one file from its backup, unless the view holds an empty file there. -/
theorem restore (h : Backed l v (name :: written) w) (hclean : Clean l v) (hnew : name ∉ written) {dir : String}
    (hdir : w.locate dir = .ok l) (htext : v (l ++ [name]) ≠ some (.file (.text ""))) :
    ∃ w', w.restore (Path.join dir name) = .ok w' ∧ SameDirectories w w' ∧ Backed l v written w' := by
  have hmem : name ∈ name :: written := List.mem_cons_self
  have hname := h.writable name hmem
  obtain ⟨old, hold⟩ := h.file name hmem
  have hfile : w.node? (l ++ [name]) ≠ some .directory := by simp [hold]
  have hlocate := locate_join hdir h.directory hname.isName
  obtain ⟨-, hpath⟩ := locate_pathOf h.sound hlocate hfile
  rw [if_neg (Nat.not_lt.mpr hname.short)] at hpath
  have hread := read_of_locate hpath (h.backup name hmem)
  -- What the file is given back, and the workspace with it.
  obtain ⟨w₁, hcontent, hsame, hsound, hrestored, hothers⟩ : ∃ w₁,
      w.restoreContent (Path.join dir name) (initialText (v (l ++ [name]))) = .ok w₁ ∧ SameDirectories w w₁ ∧ w₁.Sound ∧
        w₁.node? (l ++ [name]) = v (l ++ [name]) ∧ ∀ k, k ≠ l ++ [name] → w₁.node? k = w.node? k := by
    unfold restoreContent
    cases hview : v (l ++ [name]) with
    | none =>
      refine ⟨w.erase (l ++ [name]), ?_, .erase hfile, h.sound.erase hfile, node?_erase_self w (by simp),
        fun k hk => node?_erase_of_ne w hk⟩
      rw [if_pos (by decide), if_pos (by rw [hasPath_of_locate hlocate, hold]; rfl), remove_of_locate hlocate hold]
      rfl
    | some n =>
      cases n with
      | directory => exact absurd hview hname.file
      | file c =>
        cases c with
        | bytes b => exact absurd hview (hclean.texts name b)
        | text s =>
          have hs : s ≠ "" := fun hs => htext (hs ▸ hview)
          refine ⟨w.put (l ++ [name]) (.file (.text s)), ?_, .put hfile _,
            h.sound.put hfile (by simpa using h.directory) _, node?_put_self w (by simp) _,
            fun k hk => node?_put_of_ne w hk _⟩
          rw [if_neg (by simpa [initialText] using hs),
            write_of_locate hlocate hfile (endsWith_join hname.isName dir)]
          rfl
  refine ⟨w₁.erase (l ++ [name ++ suffix]), ?_, ?_, h.putBack hclean hnew hsound hsame hrestored hothers⟩
  · have hbackup : w₁.node? (l ++ [name ++ suffix]) = some (.file (.text (initialText (v (l ++ [name]))))) := by
      rw [hothers _ fun heq => h.nodes_ne hmem hmem heq.symm]
      exact h.backup name hmem
    simp only [Workspace.restore, hread, Except.mapError, bind, Except.bind, hcontent,
      remove_of_locate (hsame.locate hpath) hbackup]
  · refine hsame.trans (.erase ?_)
    rw [hothers _ fun heq => h.nodes_ne hmem hmem heq.symm, h.backup name hmem]
    simp

/-- Restores all files that were written. -/
theorem restoreAll {names : List String} (h : Backed l v names w) (hclean : Clean l v) (hnodup : names.Nodup)
    {dir : String} (hdir : w.locate dir = .ok l) (htexts : ∀ name ∈ names, v (l ++ [name]) ≠ some (.file (.text ""))) :
    ∃ w', Workspace.restoreAll (names.map (Path.join dir)) w = (w', .ok (names.map (Path.join dir))) ∧
      ∀ k, w'.node? k = v k := by
  induction names generalizing w with
  | nil => exact ⟨w, rfl, fun k => h.others k (by simp)⟩
  | cons name rest ih =>
    obtain ⟨hnew, hrest⟩ := List.nodup_cons.mp hnodup
    obtain ⟨w₁, hrestore, hsame, hbacked⟩ := h.restore hclean hnew hdir (htexts name List.mem_cons_self)
    obtain ⟨w', hall, hview⟩ := ih hbacked hrest (hsame.locate hdir) fun n hn => htexts n (.tail _ hn)
    refine ⟨w', ?_, hview⟩
    simp only [List.map_cons, Workspace.restoreAll, hrestore, hall, Except.map]

end Backed

open Workspace

/-- Any number of runs that succeed and write only files that stand directly in a directory, none of them under a name
of a backup. `written` holds the names of the files. -/
inductive Runs (l : Location) (w₀ : Workspace) : List String → Workspace → Prop where
  | start : Runs l w₀ [] w₀
  | run {written names paths : List String} {w : Workspace} (tool? : Option Provider.Tool) (dir configDir : String)
      (recursive : Bool) (before : Runs l w₀ written w)
      (success : (w.transform tool? dir configDir recursive).2.result = .ok paths)
      (inside : List.Forall₂ (fun path name => w.locate path = .ok (l ++ [name]) ∧ target? name = none) paths names) :
      Runs l w₀ (names ++ written) (w.transform tool? dir configDir recursive).1

/-- Runs keep all backed up, and leave the directories as they are. -/
theorem Runs.backed {l : Location} {w₀ w : Workspace} {written : List String} (hruns : Runs l w₀ written w)
    (hsound : w₀.Sound) (hl : w₀.node? l = some .directory) (hclean : Clean l w₀.node?) :
    SameDirectories w₀ w ∧ Backed l w₀.node? written w := by
  induction hruns with
  | start => exact ⟨.refl w₀, .start hsound hl⟩
  | @run written names paths w tool? dir configDir recursive before success inside ih =>
    obtain ⟨hsame, hbacked⟩ := ih
    obtain ⟨modules, hmodules, hsave⟩ := transform_eq_ok success
    have hstored := unsaved_stored hmodules
    generalize modules.flatMap Module.unsaved = files at hsave hstored
    obtain rfl := saveFiles_paths hsave
    have hnames : List.Forall₂ (fun file name => w.locate file.1 = .ok (l ++ [name]) ∧ target? name = none ∧
        (name ∉ written → file.2.stored?.getD "" = initialText (w₀.node? (l ++ [name])))) files names := by
      refine ((List.forall₂_and_left files names).mpr ⟨hstored, List.forall₂_map_left_iff.mp inside⟩).imp ?_
      rintro file name ⟨hfile, hlocate, hown⟩
      refine ⟨hlocate, hown, fun hnew => ?_⟩
      rw [hfile, read_getD hlocate, hbacked.node?_new hown hnew]
    obtain ⟨hsame', hbacked'⟩ := hbacked.saveFiles hclean hnames hsave
    exact ⟨hsame.trans hsame', hbacked'⟩

/-- The view without the empty files of some names in a directory. -/
def withoutEmpty (l : Location) (names : List String) (v : Location → Option Node) (k : Location) : Option Node :=
  if (∃ name ∈ names, k = l ++ [name]) ∧ v k = some (.file (.text "")) then none else v k

theorem withoutEmpty_of_ne {l k : Location} {names : List String} {v : Location → Option Node}
    (h : v k ≠ some (.file (.text ""))) : withoutEmpty l names v k = v k := by
  simp [withoutEmpty, h]

theorem initialText_withoutEmpty (l k : Location) (names : List String) (v : Location → Option Node) :
    initialText (withoutEmpty l names v k) = initialText (v k) := by
  unfold withoutEmpty
  split
  · rename_i h
    rw [h.2]
    rfl
  · rfl

theorem clean_withoutEmpty {l : Location} {v : Location → Option Node} (h : Clean l v) (names : List String) :
    Clean l (withoutEmpty l names v) where
  noBackup name hname := by
    rw [withoutEmpty_of_ne (by simp [h.noBackup name hname])]
    exact h.noBackup name hname
  texts name b hb := by
    unfold withoutEmpty at hb
    split at hb
    · cases hb
    · exact h.texts name b hb

/-- A backup cannot tell an empty file from none. -/
theorem backed_withoutEmpty {l : Location} {v : Location → Option Node} {written : List String} {w : Workspace}
    (h : Backed l v written w) : Backed l (withoutEmpty l written v) written w where
  sound := h.sound
  directory := h.directory
  writable name hname := by
    obtain ⟨hisName, hshort, hown, hfile⟩ := h.writable name hname
    refine ⟨hisName, hshort, hown, fun hdirectory => hfile ?_⟩
    unfold withoutEmpty at hdirectory
    split at hdirectory
    · cases hdirectory
    · exact hdirectory
  file := h.file
  backup name hname := by
    rw [initialText_withoutEmpty]
    exact h.backup name hname
  others k hk := by
    rw [h.others k hk, withoutEmpty, if_neg]
    rintro ⟨⟨name, hname, rfl⟩, -⟩
    exact (hk name hname).1 rfl

/-- Resets a directory whose written files are backed up. -/
theorem Backed.reset {l : Location} {v : Location → Option Node} {written : List String} {w : Workspace} {dir : String}
    (h : Backed l v written w) (hclean : Clean l v) (hdir : w.locate dir = .ok l) :
    ∃ (w' : Workspace) (names : List String), w.reset dir = (w', .ok (names.map (Path.join dir))) ∧
      (∀ name, name ∈ names ↔ name ∈ written) ∧ ∀ k, w'.node? k = withoutEmpty l written v k := by
  obtain ⟨names, hnames, hnodup, hmem⟩ := h.sound.fileNames hdir h.directory
  have htargets : ∀ name, name ∈ names.filterMap target? ↔ name ∈ written := by
    intro name
    rw [List.mem_filterMap]
    constructor
    · rintro ⟨backup, hbackup, htarget⟩
      obtain ⟨rfl, hne⟩ := target?_eq_some htarget
      obtain ⟨c, hc⟩ := (hmem _).mp hbackup
      by_contra hnew
      rw [h.backup_new hclean hne hnew] at hc
      cases hc
    · intro hname
      exact ⟨name ++ suffix, (hmem _).mpr ⟨_, h.backup name hname⟩,
        target?_append (h.writable name hname).isName.ne_empty⟩
  have hdistinct : (names.filterMap target?).Nodup := by
    refine hnodup.filterMap fun a a' target ha ha' => ?_
    rw [(target?_eq_some ha).1, (target?_eq_some ha').1]
  obtain ⟨w', hrestore, hview⟩ := ((backed_withoutEmpty h).congr htargets).restoreAll
    (clean_withoutEmpty hclean written) hdistinct hdir fun name hname hempty => by
      rw [withoutEmpty] at hempty
      split at hempty
      · cases hempty
      · rename_i hrest
        exact hrest ⟨⟨name, (htargets name).mp hname, rfl⟩, hempty⟩
  exact ⟨w', names.filterMap target?, by simp only [Workspace.reset, hnames, hrestore], htargets, hview⟩

/-- After any number of runs, a reset of the directory that they wrote in succeeds. It leaves every file and directory
as it was before the first run, but for the files that were written and had been empty, which are gone. So nothing is
lost exactly if no empty file was written. -/
theorem reset_undoes_runs {w₀ w : Workspace} {dir : String} {l : Location} {written : List String}
    (hsound : w₀.Sound) (hdir : w₀.locate dir = .ok l) (hl : w₀.node? l = some .directory)
    (hclean : Clean l w₀.node?) (hruns : Runs l w₀ written w) :
    ∃ w' restored, w.reset dir = (w', .ok restored) ∧
      (∀ k, w'.node? k =
        if (∃ name ∈ written, k = l ++ [name]) ∧ w₀.node? k = some (.file (.text "")) then none else w₀.node? k) ∧
      ((∀ k, w'.node? k = w₀.node? k) ↔ ∀ name ∈ written, w₀.node? (l ++ [name]) ≠ some (.file (.text ""))) := by
  obtain ⟨hsame, hbacked⟩ := hruns.backed hsound hl hclean
  obtain ⟨w', names, hreset, -, hview⟩ := hbacked.reset hclean (hsame.locate hdir)
  refine ⟨w', _, hreset, hview, ?_, ?_⟩
  · intro hall name hname hempty
    have hgone := hview (l ++ [name])
    rw [withoutEmpty, if_pos ⟨⟨name, hname, rfl⟩, hempty⟩, hall, hempty] at hgone
    cases hgone
  · intro htexts k
    rw [hview, withoutEmpty, if_neg]
    rintro ⟨⟨name, hname, rfl⟩, hempty⟩
    exact htexts name hname hempty

/-- A configuration in one file. -/
theorem loadConfig_of_single {w : Workspace} {dir name text : String} (hnames : w.fileNames dir = .ok [name])
    (hname : Text.endsWith name Config.fileSuffix = true) (hread : w.read (Path.join dir name) = .ok text) :
    w.loadConfig dir = (Config.ofDocuments [⟨Path.join dir name, Source.parse? text⟩]).mapError .issues := by
  simp only [loadConfig, loadDocument, hnames, hread, hname, Except.mapError, bind, Except.bind, List.filter, pure,
    Except.pure, List.isEmpty_cons, List.mapM_cons, List.mapM_nil, if_false, Bool.false_eq_true]

/-- A declaration that adds a variable to a file. -/
def additionTo (fileName label : String) : String :=
  "transform \"new_block\" \"" ++ label ++ "\" \x7b\n  new_block_type = \"variable\"\n  labels = [\"" ++ label
    ++ "\"]\n  filename = \"" ++ fileName ++ "\"\n\x7d\n"

/-- The characters of the declaration. To read them off the bytes of the text takes longer than to run it. -/
def additionChars (fileName label : String) : { chars : List Char // (additionTo fileName label).toList = chars } :=
  ⟨_, String.toList_append.trans (congrArg₂ (· ++ ·) (String.toList_append.trans (congrArg₂ (· ++ ·)
    (String.toList_append.trans (congrArg₂ (· ++ ·) (String.toList_append.trans (congrArg₂ (· ++ ·)
      (String.toList_append.trans (congrArg₂ (· ++ ·) (String.toList_append.trans (congrArg₂ (· ++ ·)
        String.toList_ofList rfl)) String.toList_ofList)) rfl)) String.toList_ofList)) rfl)) String.toList_ofList)⟩

/-- A configuration that adds variables to `main.tf`, which has the given text, and to `new.tf`, which is missing. -/
def twoAdditions (text : String) : Workspace where
  nodes := [
    (["conf"], .directory),
    (["conf", "main.mptf.hcl"], .file (.text (additionTo "main.tf" "a" ++ additionTo "new.tf" "b"))),
    (["main.tf"], .file (.text text))]

theorem clean_twoAdditions (text : String) : Clean [] (twoAdditions text).node? := by
  have hnodes : ∀ {name : String} {n : Node}, (twoAdditions text).node? ([] ++ [name]) = some n →
      name = "conf" ∧ n = .directory ∨ name = "main.tf" ∧ n = .file (.text text) := by
    intro name n hn
    simpa [twoAdditions] using node?_eq_some_mem (by simp) hn
  refine ⟨fun name hname => ?_, fun name b hb => ?_⟩
  · by_contra hnode
    obtain ⟨n, hn⟩ := Option.ne_none_iff_exists'.mp hnode
    rcases hnodes hn with ⟨rfl, -⟩ | ⟨rfl, -⟩ <;> exact absurd hname (by decide)
  · rcases hnodes hb with ⟨-, hnode⟩ | ⟨-, hnode⟩ <;> cases hnode

/-- One run that writes both files. -/
theorem runs_twoAdditions (text : String)
    (h : ((twoAdditions text).transform none "." "conf" false).2.result.toOption = some ["/main.tf", "/new.tf"]) :
    Runs [] (twoAdditions text) ["main.tf", "new.tf"] ((twoAdditions text).transform none "." "conf" false).1 := by
  have hinside : List.Forall₂ (fun path name => (twoAdditions text).locate path = .ok ([] ++ [name]) ∧
      target? name = none) ["/main.tf", "/new.tf"] ["main.tf", "new.tf"] :=
    .cons ⟨rfl, by decide⟩ (.cons ⟨rfl, by decide⟩ .nil)
  exact .run none "." "conf" false .start (ok_of_toOption h) hinside

theorem transform_twoAdditions : ∀ text ∈ ["", "locals \x7b\n\x7d\n"],
    ((twoAdditions text).transform none "." "conf" false).2.result.toOption = some ["/main.tf", "/new.tf"] := by
  have hdisk : ∀ text ∈ ["", "locals \x7b\n\x7d\n"],
      ((twoAdditions text).fileNames "conf").toOption = some ["main.mptf.hcl"] ∧
        ((twoAdditions text).read (Path.join "conf" "main.mptf.hcl")).toOption =
          some (additionTo "main.tf" "a" ++ additionTo "new.tf" "b") := by decide +kernel
  intro text htext
  have hchars : (additionTo "main.tf" "a" ++ additionTo "new.tf" "b").toList = _ :=
    String.toList_append.trans (congrArg₂ (· ++ ·) (additionChars _ _).2 (additionChars _ _).2)
  have hconfig := loadConfig_of_single (ok_of_toOption (hdisk text htext).1) (by decide +kernel)
    (ok_of_toOption (hdisk text htext).2)
  rw [transform, changedModules, hconfig, Source.parse?, hchars]
  clear hconfig hchars
  revert text
  decide +kernel

/-- The text of `main.tf` comes back, and `new.tf` goes. -/
theorem reset_undoes_two_additions :
    ∃ w' restored, ((twoAdditions "locals \x7b\n\x7d\n").transform none "." "conf" false).1.reset "." = (w', .ok restored) ∧
      ∀ k, w'.node? k = (twoAdditions "locals \x7b\n\x7d\n").node? k := by
  have hruns := runs_twoAdditions "locals \x7b\n\x7d\n" (transform_twoAdditions _ (by simp))
  have hdir : (twoAdditions "locals \x7b\n\x7d\n").locate "." = .ok [] := by decide +kernel
  obtain ⟨w', restored, hreset, -, hall⟩ :=
    reset_undoes_runs (by decide +kernel) hdir rfl (clean_twoAdditions _) hruns
  exact ⟨w', restored, hreset, hall.mpr (by decide +kernel)⟩

/-- An empty `main.tf` does not come back. -/
theorem reset_removes_empty_file :
    (twoAdditions "").node? ["main.tf"] = some (.file (.text "")) ∧
      ∃ w' restored, ((twoAdditions "").transform none "." "conf" false).1.reset "." = (w', .ok restored) ∧
        w'.node? ["main.tf"] = none := by
  have hruns : Runs [] (twoAdditions "") ["main.tf", "new.tf"] _ := runs_twoAdditions "" (transform_twoAdditions _ (by simp))
  obtain ⟨hsame, hbacked⟩ := hruns.backed (by decide +kernel) rfl (clean_twoAdditions _)
  have hdir : (twoAdditions "").locate "." = .ok [] := by decide +kernel
  obtain ⟨w', names, hreset, -, hview⟩ := hbacked.reset (clean_twoAdditions _) (hsame.locate hdir)
  refine ⟨rfl, w', _, hreset, ?_⟩
  rw [hview, withoutEmpty, if_pos ⟨⟨"main.tf", by simp, rfl⟩, rfl⟩]

end Terrasmith
