import AppletPage.Files.Change
import AppletPage.Proofs.Files.Locate
import AppletPage.Proofs.Work

/-! Making directories: afterwards they are there, and nothing else has changed. -/

namespace AppletPage

open Text

namespace Files

/-- From some files to others, directories have been made, and nothing else has changed. -/
structure DirectoriesMade (a b : Files) : Prop where
  kept : ∀ place node, a.get? place = some node → b.get? place = some node
  made : ∀ place node, b.get? place = some node → a.get? place = some node ∨ node = .directory
  start : SameStart a b
  drafts : b.drafts = a.drafts

/-- From some files to others, directories have been made to which a name or a start of it leads,
and nothing else has changed. -/
structure MadeOnWay (path : Pathname) (a b : Files) : Prop where
  kept : ∀ place node, a.get? place = some node → b.get? place = some node
  made : ∀ place node, b.get? place = some node → a.get? place = some node ∨
    node = .directory ∧ ∃ parts, parts <+: path.parts ∧
      b.locate { path with parts } = .present place .directory
  start : SameStart a b
  drafts : b.drafts = a.drafts

variable {path : Pathname} {a b c files : Files}

theorem DirectoriesMade.refl (files : Files) : DirectoriesMade files files :=
  ⟨fun _ _ there => there, fun _ _ there => .inl there, .refl files, rfl⟩

theorem DirectoriesMade.trans (first : DirectoriesMade a b) (second : DirectoriesMade b c) :
    DirectoriesMade a c := by
  refine ⟨fun place node there => second.kept _ _ (first.kept _ _ there), ?_,
    first.start.trans second.start, second.drafts.trans first.drafts⟩
  intro place node there
  rcases second.made place node there with before | made
  · exact first.made place node before
  · exact .inr made

theorem DirectoriesMade.ways (made : DirectoriesMade a b) : WaysKept a b :=
  waysKept_of_kept made.kept

theorem MadeOnWay.directories (made : MadeOnWay path a b) : DirectoriesMade a b :=
  ⟨made.kept, fun place node there => (made.made place node there).imp_right (·.1), made.start,
    made.drafts⟩

theorem MadeOnWay.ways (made : MadeOnWay path a b) : WaysKept a b := made.directories.ways

theorem MadeOnWay.refl (path : Pathname) (files : Files) : MadeOnWay path files files :=
  ⟨fun _ _ there => there, fun _ _ there => .inl there, .refl files, rfl⟩

theorem MadeOnWay.trans (first : MadeOnWay path a b) (second : MadeOnWay path b c) :
    MadeOnWay path a c := by
  refine ⟨fun place node there => second.kept _ _ (first.kept _ _ there), ?_,
    first.start.trans second.start, second.drafts.trans first.drafts⟩
  intro place node there
  rcases second.made place node there with before | made
  · rcases first.made place node before with old | ⟨directory, parts, start, located⟩
    · exact .inl old
    · exact .inr ⟨directory, parts, start,
        locate_directory_mono_of_sameStart second.ways second.start located⟩
  · exact .inr made

theorem madeOnWay_put {parts : List String} {directory : Path} {name : String}
    (start : parts <+: path.parts)
    (located : files.locate { path with parts } .kept = .vacant directory name) :
    MadeOnWay path files (files.put (directory ++ [name]) .directory) := by
  refine ⟨fun place node there => ?_, fun place node there => ?_, sameStart_put files _ _, rfl⟩
  · rw [get?_put files (concat_ne_nil directory name), if_neg]
    · exact there
    · rintro rfl
      rw [get?_of_vacant located] at there
      cases there
  · rw [get?_put files (concat_ne_nil directory name)] at there
    split at there
    · next same =>
      cases there
      exact .inr ⟨rfl, parts, start, same ▸ locate_put_directory located⟩
    · exact .inl there

end Files

namespace FileAction

variable {files after : Files} {path : Pathname} {place : Path}

theorem run_makeDirectory (path : Pathname) (files : Files) :
    (makeDirectory path).run files =
      if Files.hasZero path then (.error .zeroByte, files)
      else
        match files.locate path .kept with
        | .present _ _ => (.error (.system .exists (some path.toText) none), files)
        | .vacant directory name => (.ok (), files.put (directory ++ [name]) .directory)
        | .nowhere cause => (.error (.system cause (some path.toText) none), files) := by
  rw [makeDirectory]
  cases Files.hasZero path with
  | true => rfl
  | false =>
      simp only [Bool.false_eq_true, if_false, Work.run_bind]
      change (match files.locate path .kept with
        | .present _ _ => fail .exists path
        | .vacant directory name => modify (·.put (directory ++ [name]) .directory)
        | .nowhere cause => fail cause path : FileAction Unit).run files = _
      cases files.locate path .kept <;> rfl

theorem run_ensureDirectory (path : Pathname) (files : Files) :
    (ensureDirectory path).run files =
      match (makeDirectory path).run files with
      | (.error (.system cause name destination), between) =>
          if cause = .notFound then (.error (.system cause name destination), between)
          else
            match between.isDirectory path with
            | .ok true => (.ok (), between)
            | .ok false => (.error (.system cause name destination), between)
            | .error error => (.error error, between)
      | outcome => outcome := by
  rw [ensureDirectory, Work.run_tryCatch]
  cases (makeDirectory path).run files with
  | mk result between =>
      cases result with
      | ok value => rfl
      | error error =>
          cases error with
          | system cause name destination =>
              cases cause with
              | notFound => rfl
              | _ =>
                  simp only [Work.run_bind, Work.run_get, Work.run_lift]
                  cases between.isDirectory path with
                  | ok there => cases there <;> rfl
                  | error error => rfl
          | _ => rfl

theorem run_ensureDirectories_cons (path : Pathname) (last : String) (above : List String)
    (files : Files) :
    (ensureDirectories path (last :: above)).run files =
      match (ensureDirectory { path with parts := (last :: above).reverse }).run files with
      | (.error (.system .notFound _ _), between) =>
          (do
            ensureDirectories path above
            ensureDirectory { path with parts := (last :: above).reverse } :
            FileAction Unit).run between
      | outcome => outcome := by
  rw [ensureDirectories, Work.run_tryCatch]
  cases (ensureDirectory { path with parts := (last :: above).reverse }).run files with
  | mk result between =>
      cases result with
      | ok value => rfl
      | error error =>
          cases error with
          | system cause name destination => cases cause <;> rfl
          | _ => rfl

/-! What is kept. -/

theorem madeOnWay_makeDirectory {parts : List String} (start : parts <+: path.parts)
    (files : Files) : files.MadeOnWay path ((makeDirectory { path with parts }).run files).2 := by
  rw [run_makeDirectory]
  split
  · exact .refl path files
  · cases located : files.locate { path with parts } .kept with
    | present other node => exact .refl path files
    | vacant directory name => exact Files.madeOnWay_put start located
    | nowhere cause => exact .refl path files

theorem snd_run_ensureDirectory (path : Pathname) (files : Files) :
    ((ensureDirectory path).run files).2 = ((makeDirectory path).run files).2 := by
  rw [run_ensureDirectory]
  cases (makeDirectory path).run files with
  | mk result between =>
      cases result with
      | ok value => rfl
      | error error =>
          cases error with
          | system cause name destination =>
              dsimp only
              split
              · rfl
              · cases between.isDirectory path with
                | ok there => cases there <;> rfl
                | error error => rfl
          | _ => rfl

theorem rel_run_makeDirectories (rel : Files → Files → Prop)
    (trans : ∀ {a b c}, rel a b → rel b c → rel a c)
    (step : ∀ parts, parts <+: path.parts → ∀ files,
      rel files ((makeDirectory { path with parts }).run files).2) (files : Files) :
    rel files ((makeDirectories path).run files).2 := by
  have made {parts : List String} (start : parts <+: path.parts) (files : Files) :
      rel files ((ensureDirectory { path with parts }).run files).2 := by
    rw [snd_run_ensureDirectory]
    exact step parts start files
  have all {reversed : List String} (start : reversed.reverse <+: path.parts) (files : Files) :
      rel files ((ensureDirectories path reversed).run files).2 := by
    induction reversed generalizing files with
    | nil => exact made List.nil_prefix files
    | cons last above ih =>
        have shorter : above.reverse <+: path.parts := by
          rw [List.reverse_cons] at start
          exact (List.prefix_append above.reverse [last]).trans start
        have first := made start files
        rw [run_ensureDirectories_cons]
        split
        · next between ran =>
          rw [ran] at first
          exact trans first
            (Work.rel_run_bind rel trans (ih shorter between) fun _ _ => made start _)
        · exact first
  exact all ⟨[], by rw [List.append_nil, List.reverse_reverse]⟩ files

theorem madeOnWay_makeDirectories (path : Pathname) (files : Files) :
    files.MadeOnWay path ((makeDirectories path).run files).2 :=
  rel_run_makeDirectories (Files.MadeOnWay path) .trans
    (fun _ start files => madeOnWay_makeDirectory start files) files

/-! What is there afterwards. -/

theorem isDirectory_of_makeDirectory
    (made : (makeDirectory path).run files = (.ok (), after)) :
    after.isDirectory path = .ok true := by
  rw [run_makeDirectory] at made
  split at made
  · cases made
  · next noZero =>
    cases located : files.locate path .kept with
    | present other node => rw [located] at made; cases made
    | vacant directory name =>
        rw [located] at made
        cases made
        exact Files.isDirectory_eq_true_iff.mpr
          ⟨Bool.eq_false_iff.mpr noZero, _, Files.locate_put_directory located⟩
    | nowhere cause => rw [located] at made; cases made

theorem isDirectory_of_ensureDirectory
    (ensured : (ensureDirectory path).run files = (.ok (), after)) :
    after.isDirectory path = .ok true := by
  rw [run_ensureDirectory] at ensured
  split at ensured
  · split at ensured
    · cases ensured
    · split at ensured
      · next there => cases ensured; exact there
      · cases ensured
      · cases ensured
  · next ran => exact isDirectory_of_makeDirectory ensured

theorem isDirectory_of_ensureDirectories {reversed : List String}
    (ensured : (ensureDirectories path reversed).run files = (.ok (), after)) :
    after.isDirectory { path with parts := reversed.reverse } = .ok true := by
  cases reversed with
  | nil => exact isDirectory_of_ensureDirectory ensured
  | cons last above =>
      rw [run_ensureDirectories_cons] at ensured
      split at ensured
      · obtain ⟨_, between, -, done⟩ := Work.run_bind_eq_ok ensured
        exact isDirectory_of_ensureDirectory done
      · exact isDirectory_of_ensureDirectory ensured

theorem isDirectory_of_makeDirectories
    (made : (makeDirectories path).run files = (.ok (), after)) :
    after.isDirectory path = .ok true := by
  have there := isDirectory_of_ensureDirectories made
  rwa [List.reverse_reverse] at there

theorem run_ensureDirectory_of_isDirectory (there : files.isDirectory path = .ok true) :
    (ensureDirectory path).run files = (.ok (), files) := by
  obtain ⟨noZero, place, located⟩ := Files.isDirectory_eq_true_iff.mp there
  obtain ⟨other, node, kept⟩ := Files.exists_locate_kept located
  rw [run_ensureDirectory, run_makeDirectory, noZero, if_neg Bool.false_ne_true, kept]
  simp only [there]
  rfl

theorem run_makeDirectories_of_isDirectory (there : files.isDirectory path = .ok true) :
    (makeDirectories path).run files = (.ok (), files) := by
  rw [makeDirectories]
  cases reversed : path.parts.reverse with
  | nil =>
      have root : path.parts = [] := List.reverse_eq_nil_iff.mp reversed
      rw [ensureDirectories, ← root]
      exact run_ensureDirectory_of_isDirectory there
  | cons last above =>
      have parts : (last :: above).reverse = path.parts := by
        rw [← reversed, List.reverse_reverse]
      rw [run_ensureDirectories_cons, parts, run_ensureDirectory_of_isDirectory there]

theorem run_makeDirectories_of_hasZero (zero : Files.hasZero path = true) (files : Files) :
    (makeDirectories path).run files = (.error .zeroByte, files) := by
  have refused : (ensureDirectory path).run files = (.error .zeroByte, files) := by
    rw [run_ensureDirectory, run_makeDirectory, if_pos zero]
  rw [makeDirectories]
  cases reversed : path.parts.reverse with
  | nil =>
      rw [Files.hasZero, List.reverse_eq_nil_iff.mp reversed] at zero
      cases zero
  | cons last above =>
      have parts : (last :: above).reverse = path.parts := by
        rw [← reversed, List.reverse_reverse]
      rw [run_ensureDirectories_cons, parts, refused]

end FileAction

end AppletPage
