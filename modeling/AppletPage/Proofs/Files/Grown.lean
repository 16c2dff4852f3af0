import AppletPage.Proofs.Files.Directory
import AppletPage.Proofs.Files.Writing

/-! Files in which something has come, and nothing else has changed. What was read from them before
is read again. -/

namespace AppletPage

open Text

namespace Files

variable {a b c files : Files} {ending : Ending} {path : Pathname} {here place : Path} {node : Node}
  {content : Bytes} {links gone : Nat} {slash : Bool} {parts : List String}

/-- From some files to others everything is kept, and what has come are no links. -/
structure Grown (a b : Files) : Prop where
  kept : ∀ place node, a.get? place = some node → b.get? place = some node
  links : ∀ place target, b.get? place = some (.link target) → a.get? place = some (.link target)
  start : SameStart a b

theorem Grown.refl (files : Files) : Grown files files :=
  ⟨fun _ _ there => there, fun _ _ there => there, .refl files⟩

theorem Grown.trans (first : Grown a b) (second : Grown b c) : Grown a c :=
  ⟨fun place node there => second.kept place node (first.kept place node there),
    fun place target there => first.links place target (second.links place target there),
    first.start.trans second.start⟩

theorem Grown.ways (grown : Grown a b) : WaysKept a b := waysKept_of_kept grown.kept

theorem DirectoriesMade.grown (made : DirectoriesMade a b) : Grown a b := by
  refine ⟨made.kept, fun place target there => ?_, made.start⟩
  rcases made.made place _ there with before | other
  · exact before
  · cases other

theorem grown_put (below : place ≠ []) (free : files.get? place = none)
    (notLink : ∀ target, node ≠ .link target) : Grown files (files.put place node) := by
  refine ⟨fun other old there => ?_, fun other target there => ?_, sameStart_put files place node⟩
  · rw [get?_put files below, if_neg]
    · exact there
    · rintro rfl
      rw [free] at there
      cases there
  · rw [get?_put files below] at there
    split at there
    · exact absurd (Option.some.inj there) (notLink target)
    · exact there

theorem Grown.read (grown : Grown a b) (read : a.read path = .ok content) :
    b.read path = .ok content := by
  obtain ⟨noZero, place, located⟩ := read_eq_ok_iff.mp read
  exact read_eq_ok_iff.mpr ⟨noZero, place,
    locate_mono grown.ways grown.start located (grown.kept _ _ (get?_of_file located).1)⟩

/-! A new file. A name that comes upon it ends there. -/

inductive AtFile (place : Path) (content : Bytes) : Place → Prop where
  | there : AtFile place content (.present place (.file content))
  | within : AtFile place content (.nowhere .notDirectory)

theorem advance_put_file (below : place ≠ []) (content : Bytes) (ending : Ending) (slash : Bool)
    (here : Path) (gone : Nat) (node : Node) (parts : List String) :
    advance (files.put place (.file content)) ending slash here gone node parts =
        advance files ending slash here gone node parts ∨
      ∃ after, advance (files.put place (.file content)) ending slash here gone node parts =
          .stopped after ∧ AtFile place content after := by
  induction parts generalizing here gone node with
  | nil => exact .inl rfl
  | cons name rest ih =>
      rw [advance, advance]
      by_cases directory : node ≠ .directory
      · exact .inl (by rw [if_pos directory, if_pos directory])
      simp only [if_neg directory]
      by_cases point : name = "."
      · simp only [if_pos point]
        exact ih here gone node
      simp only [if_neg point]
      by_cases up : name = ".."
      · simp only [if_pos up]
        exact ih here.dropLast (gone - 1) .directory
      simp only [if_neg up]
      split
      · exact .inl rfl
      split
      · exact .inl rfl
      split
      · exact .inl rfl
      rw [get?_put files below]
      by_cases new : place = here ++ [name]
      · rw [if_pos new, ← new]
        dsimp only
        cases rest with
        | nil => exact .inr ⟨_, rfl, .there⟩
        | cons next others =>
            exact .inr ⟨_, advance_file_ne_nil (List.cons_ne_nil next others), .within⟩
      · rw [if_neg new]
        cases files.get? (here ++ [name]) with
        | none => exact .inl rfl
        | some node =>
            cases node with
            | link target => exact .inl rfl
            | directory => exact ih (here ++ [name]) 0 .directory
            | file content => exact ih (here ++ [name]) 0 (.file content)

theorem AtFile.ended {after : Place} (at' : AtFile place content after) (slash : Bool) :
    AtFile place content (Files.ended slash after) := by
  cases at' with
  | there =>
      rw [Files.ended]
      split
      · exact .within
      · exact .there
  | within => exact .within

theorem follow_put_file (below : place ≠ []) (content : Bytes) (ending : Ending) (links : Nat)
    (here : Path) (gone : Nat) (slash : Bool) (parts : List String) :
    follow (files.put place (.file content)) ending links here gone slash parts =
        follow files ending links here gone slash parts ∨
      AtFile place content
        (follow (files.put place (.file content)) ending links here gone slash parts) := by
  induction links generalizing here gone slash parts with
  | zero =>
      rcases advance_put_file below content ending slash here gone .directory parts with
        same | ⟨after, stopped, at'⟩
      · exact .inl (by rw [follow, follow, same])
      · exact .inr (follow_of_stopped stopped ▸ at'.ended slash)
  | succ links ih =>
      rcases advance_put_file below content ending slash here gone .directory parts with
        same | ⟨after, stopped, at'⟩
      · cases arrived : advance files ending slash here gone .directory parts with
        | stopped outcome =>
            exact .inl (by rw [follow_of_stopped (same.trans arrived), follow_of_stopped arrived])
        | link there target rest =>
            rw [follow, follow, same, arrived]
            exact ih _ _ _ _
      · exact .inr (follow_of_stopped stopped ▸ at'.ended slash)

/-- A new file is what a name leads to, or in its way, or it makes no difference. -/
theorem locate_put_file_cases (below : place ≠ []) (content : Bytes) (path : Pathname)
    (ending : Ending) :
    (files.put place (.file content)).locate path ending = files.locate path ending ∨
      AtFile place content ((files.put place (.file content)).locate path ending) := by
  rw [locate, locate]
  split
  · exact .inl rfl
  split
  · exact follow_put_file below content ending linkLimit [] 0 false path.parts
  · exact follow_put_file below content ending linkLimit files.workingDirectory files.gone false
      path.parts

theorem read_of_put_file (below : place ≠ []) (free : files.exists path = .ok false) :
    (files.put place (.file content)).exists path = .ok false ∨
      (files.put place (.file content)).read path = .ok content := by
  rcases locate_put_file_cases below content path .followed with same | new
  · left
    rw [Files.exists, same]
    exact free
  · cases zero : hasZero path with
    | true => exact .inl (by rw [Files.exists, zero]; rfl)
    | false =>
        generalize located : (files.put place (.file content)).locate path = after at new
        cases new with
        | there => exact .inr (read_eq_ok_iff.mpr ⟨zero, place, located⟩)
        | within => exact .inl (by rw [Files.exists, zero, located]; rfl)

/-! A file that is written, and its directory with it. -/

/-- From some files to others, one file has been written, directories have been made, and nothing
else has changed. -/
structure FileWritten (place : Path) (content : Bytes) (a b : Files) : Prop where
  there : b.get? place = some (.file content)
  free : ∀ node, a.get? place = some node → node.IsFile
  kept : ∀ other node, other ≠ place → a.get? other = some node → b.get? other = some node
  made : ∀ other node, other ≠ place → b.get? other = some node →
    a.get? other = some node ∨ node = .directory
  start : SameStart a b
  drafts : b.drafts = a.drafts

theorem fileWritten_put (below : place ≠ [])
    (free : ∀ node, files.get? place = some node → node.IsFile) :
    FileWritten place content files (files.put place (.file content)) := by
  have others {other : Path} (apart : other ≠ place) :
      (files.put place (.file content)).get? other = files.get? other := by
    rw [get?_put files below, if_neg (Ne.symm apart)]
  exact ⟨by rw [get?_put files below, if_pos rfl], free,
    fun _ _ apart there => (others apart).trans there,
    fun _ _ apart there => .inl ((others apart).symm.trans there), sameStart_put files place _, rfl⟩

theorem DirectoriesMade.written (made : DirectoriesMade a b)
    (written : FileWritten place content b c) : FileWritten place content a c := by
  refine ⟨written.there, fun node there => written.free node (made.kept _ _ there),
    fun other node apart there => written.kept other node apart (made.kept other node there),
    fun other node apart there => ?_, made.start.trans written.start,
    written.drafts.trans made.drafts⟩
  rcases written.made other node apart there with before | directory
  · exact made.made other node before
  · exact .inr directory

end Files

namespace FileAction

variable {files after : Files} {path : Pathname} {place : Path}

theorem makeParent_write_cases (path : Pathname) (content : Bytes) (files : Files) :
    (∃ error made,
        (do makeDirectories path.parent; write path content : FileAction Unit).run files =
          (.error error, made) ∧
        files.DirectoriesMade made) ∨
      ∃ place after,
        (do makeDirectories path.parent; write path content : FileAction Unit).run files =
          (.ok (), after) ∧
        after.locate path = .present place (.file content) ∧
        files.FileWritten place content after := by
  have parents := (madeOnWay_makeDirectories path.parent files).directories
  rw [Work.run_bind]
  cases ran : (makeDirectories path.parent).run files with
  | mk result between =>
      rw [ran] at parents
      cases result with
      | error error => exact .inl ⟨error, between, rfl, parents⟩
      | ok value =>
          dsimp only
          cases written : (write path content).run between with
          | mk result after =>
              cases result with
              | error error =>
                  cases files_of_write_eq_error written
                  exact .inl ⟨error, between, rfl, parents⟩
              | ok value =>
                  obtain ⟨place, below, free, rfl, located⟩ := exists_put_of_write written
                  exact .inr ⟨place, _, rfl, located,
                    parents.written (Files.fileWritten_put below free)⟩

theorem grown_of_openForAppending
    (opened : (openForAppending path).run files = (.ok place, after)) : files.Grown after := by
  obtain ⟨below, ⟨content, -, rfl⟩ | ⟨free, rfl⟩⟩ := openForAppending_cases opened
  · exact .refl _
  · exact Files.grown_put below free nofun

end FileAction

end AppletPage
