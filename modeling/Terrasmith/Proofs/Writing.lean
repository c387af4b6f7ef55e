import Terrasmith.Proofs.Backups
import Terrasmith.Proofs.Saving

/-!
What saving leaves. A backup is only written where nothing stands, of the files that lead to one location the last
decides what stands there, and all other locations are as they were.
-/
namespace Terrasmith

open Source Backup

namespace Workspace

variable {w w' : Workspace} {k : Location} {path : String} {f : SourceFile}

theorem SameDirectories.symm (h : SameDirectories w w') : SameDirectories w' w :=
  ⟨h.cwd.symm, fun l => (h.iff l).symm⟩

theorem SameDirectories.locate_iff (h : SameDirectories w w') : w'.locate path = .ok k ↔ w.locate path = .ok k :=
  ⟨h.symm.locate, h.locate⟩

/-- A backup goes where nothing stands, if anywhere. -/
theorem writeBackup_frame {content? : Option String} {fresh : Bool}
    (h : w.writeBackup path content? = .ok (w', fresh)) :
    SameDirectories w w' ∧ ∀ k, (w.locate (pathOf path) = .ok k → w.node? k ≠ none) → w'.node? k = w.node? k := by
  rcases writeBackup_eq_ok h with ⟨-, rfl⟩ | ⟨hmissing, hwrite⟩
  · exact ⟨.refl _, fun k _ => rfl⟩
  · obtain ⟨b, hlocate, hb, rfl⟩ := write_eq_ok hwrite
    rw [hasPath_of_locate hlocate, Option.isSome_eq_false_iff, Option.isNone_iff_eq_none] at hmissing
    refine ⟨.put hb _, fun k hk => node?_put_of_ne w ?_ _⟩
    rintro rfl
    exact hk hlocate hmissing

/-- Saving a file backs it up and then writes it, unless that fails. -/
theorem saveFile_cases {result : Except SaveError Unit} (h : w.saveFile path f = (w', result)) :
    ∃ w₁, SameDirectories w w₁ ∧
      (∀ k, (w.locate (pathOf path) = .ok k → w.node? k ≠ none) → w₁.node? k = w.node? k) ∧
      (w' = w₁ ∧ (∃ e, result = .error e) ∨
        ∃ l, w.locate path = .ok l ∧ w₁.node? l ≠ some .directory ∧ w' = w₁.put l (.file (.text f.render))) := by
  unfold saveFile at h
  cases hbackup : w.writeBackup path f.stored? with
  | error e =>
    simp only [hbackup, Prod.mk.injEq] at h
    exact ⟨w, .refl w, fun k _ => rfl, .inl ⟨h.1.symm, _, h.2.symm⟩⟩
  | ok backed =>
    obtain ⟨w₁, fresh⟩ := backed
    obtain ⟨hsame, hframe⟩ := writeBackup_frame hbackup
    refine ⟨w₁, hsame, hframe, ?_⟩
    simp only [hbackup] at h
    cases hwrite : w₁.write path f.render with
    | error e =>
      simp only [hwrite, Prod.mk.injEq] at h
      exact .inl ⟨h.1.symm, _, h.2.symm⟩
    | ok w₂ =>
      simp only [hwrite, Prod.mk.injEq] at h
      obtain ⟨l, hlocate, hl, rfl⟩ := write_eq_ok hwrite
      exact .inr ⟨l, hsame.locate_iff.mp hlocate, hl, h.1.symm⟩

theorem saveFile_sameDirectories {result : Except SaveError Unit} (h : w.saveFile path f = (w', result)) :
    SameDirectories w w' := by
  obtain ⟨w₁, hsame, -, ⟨rfl, -⟩ | ⟨l, -, hl, rfl⟩⟩ := saveFile_cases h
  · exact hsame
  · exact hsame.trans (.put hl _)

/-- Where the path of a file does not lead stays what stands there, and nothing comes to stand there but its backup. -/
theorem saveFile_elsewhere {result : Except SaveError Unit} (h : w.saveFile path f = (w', result))
    (hpath : w.locate path ≠ .ok k) (hbackup : w.locate (pathOf path) = .ok k → w.node? k ≠ none) :
    w'.node? k = w.node? k := by
  obtain ⟨w₁, -, hframe, ⟨rfl, -⟩ | ⟨l, hlocate, -, rfl⟩⟩ := saveFile_cases h
  · exact hframe k hbackup
  · rw [node?_put_of_ne w₁ ?_, hframe k hbackup]
    rintro rfl
    exact hpath hlocate

/-- A file that was saved holds what it prints as. -/
theorem saveFile_written {u : Unit} (h : w.saveFile path f = (w', .ok u)) :
    ∃ l, w.locate path = .ok l ∧ w'.node? l = some (.file (.text f.render)) := by
  obtain ⟨w₁, -, -, ⟨-, e, he⟩ | ⟨l, hlocate, hl, rfl⟩⟩ := saveFile_cases h
  · cases he
  · exact ⟨l, hlocate, node?_put_self w₁ (ne_nil_of_not_directory hl) _⟩

variable {files : List (String × SourceFile)} {paths : List String}

theorem saveFiles_sameDirectories {result : Except SaveError (List String)} (h : saveFiles files w = (w', result)) :
    SameDirectories w w' := by
  induction files generalizing w result with
  | nil =>
    cases h
    exact .refl _
  | cons p rest ih =>
    rcases saveFiles_cons_cases h with ⟨e, hfirst, -⟩ | ⟨w₁, saved, hfirst, hrest, -⟩
    · exact saveFile_sameDirectories hfirst
    · exact (saveFile_sameDirectories hfirst).trans (ih hrest)

/-- Where no path leads stays what stands there, and nothing comes to stand there but backups. -/
theorem saveFiles_elsewhere {result : Except SaveError (List String)} (h : saveFiles files w = (w', result))
    (hk : ∀ p ∈ files, w.locate p.1 ≠ .ok k ∧ (w.locate (pathOf p.1) = .ok k → w.node? k ≠ none)) :
    w'.node? k = w.node? k := by
  induction files generalizing w result with
  | nil =>
    cases h
    rfl
  | cons p rest ih =>
    obtain ⟨hpath, hbackup⟩ := hk p List.mem_cons_self
    rcases saveFiles_cons_cases h with ⟨e, hfirst, -⟩ | ⟨w₁, saved, hfirst, hrest, -⟩
    · exact saveFile_elsewhere hfirst hpath hbackup
    · have hsame := saveFile_sameDirectories hfirst
      have hnode := saveFile_elsewhere hfirst hpath hbackup
      rw [← hnode]
      refine ih hrest fun q hq => ?_
      rw [hnode, ne_eq, hsame.locate_iff, hsame.locate_iff]
      exact hk q (List.mem_cons_of_mem p hq)

/-- Where something stands it stays, or what one of the files prints as takes its place. -/
theorem saveFiles_kept_or_written {result : Except SaveError (List String)} (h : saveFiles files w = (w', result))
    (hk : w.node? k ≠ none) :
    w'.node? k = w.node? k ∨ ∃ p ∈ files, w.locate p.1 = .ok k ∧ w'.node? k = some (.file (.text p.2.render)) := by
  induction files generalizing w result with
  | nil =>
    cases h
    exact .inl rfl
  | cons p rest ih =>
    have hone : ∀ {w₁ : Workspace} {r : Except SaveError Unit}, w.saveFile p.1 p.2 = (w₁, r) →
        w₁.node? k = w.node? k ∨ w.locate p.1 = .ok k ∧ w₁.node? k = some (.file (.text p.2.render)) := by
      intro w₁ r hfirst
      obtain ⟨w₂, -, hframe, ⟨rfl, -⟩ | ⟨l, hlocate, hl, rfl⟩⟩ := saveFile_cases hfirst
      · exact .inl (hframe k fun _ => hk)
      · by_cases heq : k = l
        · subst heq
          exact .inr ⟨hlocate, node?_put_self w₂ (ne_nil_of_not_directory hl) _⟩
        · rw [node?_put_of_ne w₂ heq]
          exact .inl (hframe k fun _ => hk)
    rcases saveFiles_cons_cases h with ⟨e, hfirst, -⟩ | ⟨w₁, saved, hfirst, hrest, -⟩
    · exact (hone hfirst).imp_right fun hp => ⟨p, List.mem_cons_self, hp⟩
    · have hsame := saveFile_sameDirectories hfirst
      have hk₁ : w₁.node? k ≠ none := by
        rcases hone hfirst with hnode | ⟨-, hnode⟩
        · rwa [hnode]
        · simp [hnode]
      rcases ih hrest hk₁ with hnode | ⟨q, hq, hlocate, hnode⟩
      · rw [hnode]
        exact (hone hfirst).imp_right fun hp => ⟨p, List.mem_cons_self, hp⟩
      · exact .inr ⟨q, List.mem_cons_of_mem p hq, hsame.locate_iff.mp hlocate, hnode⟩

/-- Every path of files that were saved leads somewhere. -/
theorem saveFiles_located (h : saveFiles files w = (w', .ok paths)) : ∀ p ∈ files, ∃ k, w.locate p.1 = .ok k := by
  induction files generalizing w paths with
  | nil => simp
  | cons p rest ih =>
    rcases saveFiles_cons_cases h with ⟨e, -, he⟩ | ⟨w₁, saved, hfirst, hrest, hsaved⟩
    · cases he
    · obtain ⟨others, rfl, -⟩ := map_eq_ok hsaved.symm
      intro q hq
      rcases List.mem_cons.mp hq with rfl | hq
      · obtain ⟨l, hlocate, -⟩ := saveFile_written hfirst
        exact ⟨l, hlocate⟩
      · obtain ⟨k, hk⟩ := ih hrest q hq
        exact ⟨k, (saveFile_sameDirectories hfirst).locate_iff.mp hk⟩

/-- Of the files that lead to a location the last decides what it holds. -/
theorem saveFiles_last {before after : List (String × SourceFile)} {p : String × SourceFile}
    (h : saveFiles (before ++ p :: after) w = (w', .ok paths)) (hp : w.locate p.1 = .ok k)
    (hafter : ∀ q ∈ after, w.locate q.1 ≠ .ok k) : w'.node? k = some (.file (.text p.2.render)) := by
  induction before generalizing w paths with
  | nil =>
    rcases saveFiles_cons_cases h with ⟨e, -, he⟩ | ⟨w₁, saved, hfirst, hrest, -⟩
    · cases he
    · have hsame := saveFile_sameDirectories hfirst
      obtain ⟨l, hlocate, hnode⟩ := saveFile_written hfirst
      obtain rfl : k = l := by simpa [hp] using hlocate
      rw [saveFiles_elsewhere hrest fun q hq => ⟨?_, fun _ => by simp [hnode]⟩, hnode]
      rw [ne_eq, hsame.locate_iff]
      exact hafter q hq
  | cons q before ih =>
    rcases saveFiles_cons_cases h with ⟨e, -, he⟩ | ⟨w₁, saved, hfirst, hrest, hsaved⟩
    · cases he
    · have hsame := saveFile_sameDirectories hfirst
      obtain ⟨others, rfl, -⟩ := map_eq_ok hsaved.symm
      exact ih hrest (hsame.locate_iff.mpr hp) fun q hq => hsame.locate_iff.not.mpr (hafter q hq)

end Workspace

end Terrasmith
