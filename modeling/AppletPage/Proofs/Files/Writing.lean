import AppletPage.Files.Change
import AppletPage.Proofs.Files.Locate
import AppletPage.Proofs.Work

/-! Putting files: one that lines are added to, and one in the place of another. -/

namespace AppletPage

open Text

theorem Text.Utf8.encode_append (a b : String) : encode (a ++ b) = encode a ++ encode b := by
  rw [encode, encodeChars, String.toList_append, List.flatMap_append]
  rfl

namespace Pathname

theorem exists_toText_child (path : Pathname) :
    ∃ before, ∀ name, (path.child name).toText = before ++ name := by
  have written (name : String) : (path.child name).toText =
      rootText path.root ++ String.intercalate "/" (path.parts ++ [name]) := by
    have nonempty : (path.parts ++ [name]).isEmpty = false :=
      List.isEmpty_eq_false_iff.mpr (Files.concat_ne_nil path.parts name)
    rw [toText, child, nonempty, Bool.and_false, if_neg Bool.false_ne_true]
  cases parts : path.parts with
  | nil =>
      refine ⟨rootText path.root, fun name => ?_⟩
      rw [written, parts, List.nil_append, String.intercalate_singleton]
  | cons first rest =>
      refine ⟨rootText path.root ++ (String.intercalate "/" (first :: rest) ++ "/"), fun name => ?_⟩
      rw [written, parts, String.intercalate_append_of_ne_nil (List.cons_ne_nil _ _)
        (List.cons_ne_nil _ _), String.intercalate_singleton]
      simp only [String.append_assoc]

theorem length_toText_child {path : Pathname} (below : path.parts ≠ []) (name : String) :
    (Utf8.encode (path.child name).toText).length =
      (Utf8.encode path.toText).length + 1 + (Utf8.encode name).length := by
  have parts (path : Pathname) (below : path.parts ≠ []) :
      path.toText = rootText path.root ++ String.intercalate "/" path.parts := by
    rw [toText, List.isEmpty_eq_false_iff.mpr below, Bool.and_false, if_neg Bool.false_ne_true]
  rw [parts path below, parts (path.child name) (Files.concat_ne_nil path.parts name), child,
    String.intercalate_append_of_ne_nil below (List.cons_ne_nil _ _), String.intercalate_singleton]
  simp only [Utf8.encode_append, List.length_append]
  have slash : (Utf8.encode "/").length = 1 := by decide
  omega

theorem length_toText_child_le (path : Pathname) {name other : String}
    (shorter : (Utf8.encode name).length ≤ (Utf8.encode other).length) :
    (Utf8.encode (path.child name).toText).length ≤
      (Utf8.encode (path.child other).toText).length := by
  obtain ⟨before, written⟩ := exists_toText_child path
  rw [written, written, Utf8.encode_append, Utf8.encode_append, List.length_append,
    List.length_append]
  omega

end Pathname

/-- What a name that a file can be made under leads to is nothing, or a file. -/
def Place.Writable (place : Place) : Prop :=
  (∃ path content, place = .present path (.file content)) ∨
    ∃ directory name, place = .vacant directory name

def Place.target : Place → Path
  | .present path _ => path
  | .vacant directory name => directory ++ [name]
  | .nowhere _ => []

namespace Files

variable {files : Files} {ending : Ending} {path : Pathname} {place : Path} {content : Bytes}

theorem hasZero_child (path : Pathname) (name : String) :
    hasZero (path.child name) = (hasZero path || name.toList.contains '\x00') := by
  rw [hasZero, Pathname.child, List.any_append, List.any_cons, List.any_nil, Bool.or_false]
  rfl

theorem get?_of_file (located : files.locate path ending = .present place (.file content)) :
    files.get? place = some (.file content) ∧ place ≠ [] := by
  obtain ⟨here, parts, same⟩ := exists_follow_of_locate located nofun nofun
  rw [same files (.refl files)] at located
  obtain ⟨left, there, slash, parts', hops, arrival⟩ := exists_hops_arrival located nofun
  cases arrival with
  | file walk named usable found => exact ⟨found, concat_ne_nil _ _⟩

/-! Names that lead to files, from wherever they start. -/

/-- A file that is put at the last part of a name, where there was a file or nothing, is where the
name leads. -/
theorem Hops.follow_put_file {links left : Nat} {here there : Path} {slash slash' : Bool}
    {parts parts' : List String} {name : String}
    (hops : Hops files .created links here slash parts left there slash' (parts' ++ [name]))
    (walk : Walk files there parts' place) (named : IsName name) (noSlash : slash' = false)
    (free : ∀ old, files.get? (place ++ [name]) = some old → old.IsFile) (content : Bytes)
    (notKept : ending ≠ .kept) :
    follow (files.put (place ++ [name]) (.file content)) ending links here 0 slash parts =
      .present (place ++ [name]) (.file content) := by
  have ways : WaysKept files (files.put (place ++ [name]) (.file content)) :=
    waysKept_put (concat_ne_nil place name) fun old there => ⟨free old there, trivial⟩
  refine ((hops.ofCreated notKept).mono ways).follow_name (walk.mono ways) named ?_ nofun ?_
    (.inl noSlash)
  · rw [get?_put files (concat_ne_nil place name), if_pos rfl]
  · rw [noSlash, Bool.and_false]

theorem locate_put_file {there : Place} (located : files.locate path .created = there)
    (writable : there.Writable) (content : Bytes) (notKept : ending ≠ .kept) :
    (files.put there.target (.file content)).locate path ending =
      .present there.target (.file content) := by
  have somewhere : ∀ cause, there ≠ .nowhere cause := by
    rcases writable with ⟨place, old, rfl⟩ | ⟨directory, name, rfl⟩ <;> exact nofun
  have noDirectory : ∀ other, there ≠ .present other .directory := by
    rcases writable with ⟨place, old, rfl⟩ | ⟨directory, name, rfl⟩ <;> exact nofun
  -- A new file changes nothing about where a name starts, but it may be anything to a link on the
  -- way; so the way is taken apart, and taken again once the file is there.
  obtain ⟨here, parts, same⟩ := exists_follow_of_locate located somewhere noDirectory
  rw [same files (.refl files)] at located
  rw [same _ (sameStart_put files _ _)]
  obtain ⟨left, last, slash, parts', hops, arrival⟩ := exists_hops_arrival located somewhere
  rcases writable with ⟨place, old, rfl⟩ | ⟨directory, name, rfl⟩
  · cases arrival with
    | file walk named usable found =>
        refine hops.follow_put_file walk named usable (fun other there => ?_) content notKept
        rw [found] at there
        cases there
        trivial
  · cases arrival with
    | vacant walk named usable missing =>
        refine hops.follow_put_file walk named usable (fun other there => ?_) content notKept
        rw [missing] at there
        cases there

end Files

namespace FileAction

variable {files after : Files} {path : Pathname} {place : Path} {content : Bytes}

theorem run_openForAppending (path : Pathname) (files : Files) :
    (openForAppending path).run files =
      if Files.hasZero path then (.error .zeroByte, files)
      else
        match files.locate path .created with
        | .present place (.file _) => (.ok place, files)
        | .present _ .directory => (.error (.system .isDirectory (some path.toText) none), files)
        | .present _ (.link _) => (.error (.system .tooManyLinks (some path.toText) none), files)
        | .vacant directory name =>
            (.ok (directory ++ [name]), files.put (directory ++ [name]) (.file []))
        | .nowhere cause => (.error (.system cause (some path.toText) none), files) := by
  rw [openForAppending]
  cases Files.hasZero path with
  | true => rfl
  | false =>
      simp only [Bool.false_eq_true, if_false, Work.run_bind, Work.run_get]
      cases files.locate path .created with
      | present place node => cases node <;> rfl
      | vacant directory name => rfl
      | nowhere cause => rfl

theorem openForAppending_cases
    (opened : (openForAppending path).run files = (.ok place, after)) :
    place ≠ [] ∧ ((∃ content, files.get? place = some (.file content) ∧ after = files) ∨
      files.get? place = none ∧ after = files.put place (.file [])) := by
  rw [run_openForAppending] at opened
  split at opened
  · cases opened
  · cases located : files.locate path .created with
    | present other node =>
        rw [located] at opened
        cases node with
        | file content =>
            cases opened
            obtain ⟨there, below⟩ := Files.get?_of_file located
            exact ⟨below, .inl ⟨content, there, rfl⟩⟩
        | directory => cases opened
        | link target => cases opened
    | vacant directory name =>
        rw [located] at opened
        cases opened
        exact ⟨Files.concat_ne_nil directory name, .inr ⟨Files.get?_of_vacant located, rfl⟩⟩
    | nowhere cause => rw [located] at opened; cases opened

theorem file_of_openForAppending
    (opened : (openForAppending path).run files = (.ok place, after)) :
    files.WaysKept after ∧ ∃ node, after.get? place = some node ∧ node.IsFile := by
  obtain ⟨below, ⟨content, there, rfl⟩ | ⟨free, rfl⟩⟩ := openForAppending_cases opened
  · exact ⟨.refl _, .file content, there, trivial⟩
  · refine ⟨Files.waysKept_put below fun old there => ?_, .file [], ?_, trivial⟩
    · rw [free] at there
      cases there
    · rw [Files.get?_put files below, if_pos rfl]

theorem run_write (path : Pathname) (content : Bytes) (files : Files) :
    (write path content).run files =
      if Files.hasZero path then (.error .zeroByte, files)
      else
        match files.locate path .created with
        | .present place (.file _) => (.ok (), files.put place (.file content))
        | .present _ .directory => (.error (.system .isDirectory (some path.toText) none), files)
        | .present _ (.link _) => (.error (.system .tooManyLinks (some path.toText) none), files)
        | .vacant directory name => (.ok (), files.put (directory ++ [name]) (.file content))
        | .nowhere cause => (.error (.system cause (some path.toText) none), files) := by
  rw [write]
  cases Files.hasZero path with
  | true => rfl
  | false =>
      simp only [Bool.false_eq_true, if_false, Work.run_bind, Work.run_get]
      cases files.locate path .created with
      | present place node => cases node <;> rfl
      | vacant directory name => rfl
      | nowhere cause => rfl

theorem run_write_eq_ok_iff :
    (write path content).run files = (.ok (), after) ↔
      Files.hasZero path = false ∧ (files.locate path .created).Writable ∧
        after = files.put (files.locate path .created).target (.file content) := by
  rw [run_write]
  constructor
  · intro written
    split at written
    · cases written
    · next noZero =>
      refine ⟨Bool.eq_false_iff.mpr noZero, ?_⟩
      cases located : files.locate path .created with
      | present place node =>
          rw [located] at written
          cases node with
          | file old => cases written; exact ⟨.inl ⟨place, old, rfl⟩, rfl⟩
          | directory => cases written
          | link target => cases written
      | vacant directory name =>
          rw [located] at written
          cases written
          exact ⟨.inr ⟨directory, name, rfl⟩, rfl⟩
      | nowhere cause => rw [located] at written; cases written
  · rintro ⟨noZero, writable, rfl⟩
    rw [noZero, if_neg Bool.false_ne_true]
    rcases writable with ⟨place, old, located⟩ | ⟨directory, name, located⟩
    · rw [located]
      rfl
    · rw [located]
      rfl

theorem exists_put_of_write (written : (write path content).run files = (.ok (), after)) :
    ∃ place, place ≠ [] ∧ (∀ node, files.get? place = some node → node.IsFile) ∧
      after = files.put place (.file content) ∧
      after.locate path = .present place (.file content) := by
  obtain ⟨-, writable, rfl⟩ := run_write_eq_ok_iff.mp written
  have located := Files.locate_put_file rfl writable content (by decide : Ending.followed ≠ .kept)
  refine ⟨_, ?_, ?_, rfl, located⟩
  · exact (Files.get?_of_file located).2
  · rcases writable with ⟨place, old, found⟩ | ⟨directory, name, found⟩
    · rw [found]
      intro node there
      cases (Files.get?_of_file found).1.symm.trans there
      trivial
    · rw [found]
      intro node there
      cases (Files.get?_of_vacant found).symm.trans there

theorem read_of_write (written : (write path content).run files = (.ok (), after)) :
    after.read path = .ok content := by
  obtain ⟨noZero, -⟩ := run_write_eq_ok_iff.mp written
  obtain ⟨place, -, -, -, located⟩ := exists_put_of_write written
  exact Files.read_eq_ok_iff.mpr ⟨noZero, place, located⟩

theorem waysKept_of_write (written : (write path content).run files = (.ok (), after)) :
    files.WaysKept after ∧ files.SameStart after := by
  obtain ⟨place, below, free, rfl, -⟩ := exists_put_of_write written
  exact ⟨Files.waysKept_put below fun old there => ⟨free old there, trivial⟩,
    Files.sameStart_put files _ _⟩

theorem files_of_write_eq_error {error : FileError}
    (failed : (write path content).run files = (.error error, after)) : after = files := by
  rw [run_write] at failed
  split at failed
  · cases failed; rfl
  · split at failed
    · cases failed
    · cases failed; rfl
    · cases failed; rfl
    · cases failed
    · cases failed; rfl

theorem write_again (written : (write path content).run files = (.ok (), after)) :
    (write path content).run after = (.ok (), after) := by
  obtain ⟨noZero, writable, rfl⟩ := run_write_eq_ok_iff.mp written
  have located := Files.locate_put_file rfl writable content (by decide : Ending.created ≠ .kept)
  refine run_write_eq_ok_iff.mpr ⟨noZero, ?_, ?_⟩
  · rw [located]
    exact .inl ⟨_, content, rfl⟩
  · obtain ⟨there, below⟩ := Files.get?_of_file located
    rw [located, Place.target, Files.put_of_get? there below]

theorem run_startDraft (temporary shown : Pathname) (files : Files) :
    (startDraft temporary shown).run files =
      match files.locate temporary .kept with
      | .present place _ => (.ok (), files.addDraft place.dropLast)
      | .vacant directory _ => (.ok (), files.addDraft directory)
      | .nowhere cause => (.error (.system cause (some shown.toText) none), files) := by
  simp only [startDraft, Work.run_bind, Work.run_get]
  cases files.locate temporary .kept <;> rfl

theorem run_leaveDraft_cases (temporary shown : Pathname) (content : Bytes) (files : Files) :
    (∃ error, (leaveDraft temporary shown content).run files = (.error error, files)) ∨
      ∃ directory, (leaveDraft temporary shown content).run files =
        (.ok (), { files with drafts := { directory, content } :: files.drafts }) := by
  rw [leaveDraft, Work.run_bind, run_startDraft]
  cases files.locate temporary .kept with
  | nowhere cause => exact .inl ⟨_, rfl⟩
  | present place node => exact .inr ⟨place.dropLast, rfl⟩
  | vacant directory name => exact .inr ⟨directory, rfl⟩

theorem run_renameDraft (shown path : Pathname) (files : Files) :
    (renameDraft shown path).run files =
      match files.locate path .kept with
      | .present _ .directory =>
          (.error (.system .isDirectory (some shown.toText) (some path.toText)), files)
      | .present place _ => (.ok place, files.placeDraft place)
      | .vacant directory name =>
        (.ok (directory ++ [name]), files.placeDraft (directory ++ [name]))
      | .nowhere cause =>
          (.error (.system cause (some shown.toText) (some path.toText)), files) := by
  simp only [renameDraft, Work.run_bind, Work.run_get]
  cases files.locate path .kept with
  | present place node => cases node <;> rfl
  | vacant directory name => rfl
  | nowhere cause => rfl

theorem run_replace_draft (shown path : Pathname) (directory : Path) (content : Bytes)
    (files : Files) :
    ((do
      modify (·.writeDraft content)
      tryCatch (renameDraft shown path) fun error => do
        modify (·.removeDraft)
        throw error) : FileAction Path).run (files.addDraft directory) =
      match files.locate path .kept with
      | .present _ .directory =>
          (.error (.system .isDirectory (some shown.toText) (some path.toText)), files)
      | .present place _ => (.ok place, files.put place (.file content))
      | .vacant directory name =>
          (.ok (directory ++ [name]), files.put (directory ++ [name]) (.file content))
      | .nowhere cause =>
          (.error (.system cause (some shown.toText) (some path.toText)), files) := by
  have located := Files.locate_drafts files ({ directory, content } :: files.drafts) path .kept
  have written : (modify (·.writeDraft content)).run (files.addDraft directory) =
      (.ok (), { files with drafts := { directory, content } :: files.drafts }) := rfl
  rw [Work.run_bind, written]
  simp only [Work.run_tryCatch, run_renameDraft, located]
  cases files.locate path .kept with
  | present place node => cases node <;> rfl
  | vacant directory name => rfl
  | nowhere cause => rfl

theorem run_replace (temporary shown path : Pathname) (content : Bytes) (files : Files) :
    (replace temporary shown path content).run files =
      match files.locate temporary .kept with
      | .nowhere cause => (.error (.system cause (some shown.toText) none), files)
      | _ =>
          match files.locate path .kept with
          | .present _ .directory =>
              (.error (.system .isDirectory (some shown.toText) (some path.toText)), files)
          | .present place _ => (.ok place, files.put place (.file content))
          | .vacant directory name =>
              (.ok (directory ++ [name]), files.put (directory ++ [name]) (.file content))
          | .nowhere cause =>
              (.error (.system cause (some shown.toText) (some path.toText)), files) := by
  rw [replace, Work.run_bind, run_startDraft]
  have renamed (directory : Path) := run_replace_draft shown path directory content files
  cases files.locate temporary .kept with
  | nowhere cause => rfl
  | present place node => exact renamed place.dropLast
  | vacant directory name => exact renamed directory

theorem run_replace_child {folder : Pathname} {temporary name : String}
    (absolute : folder.isAbsolute = true)
    (located : files.locate folder = .present place .directory)
    (temporaryNamed : Files.IsName temporary) (named : Files.IsName name)
    (shorter : (Utf8.encode name).length ≤ (Utf8.encode temporary).length) (shown : Pathname)
    (content : Bytes) :
    (replace (folder.child temporary) shown (folder.child name) content).run files =
      if Files.nameLimit < (Utf8.encode (folder.child temporary).toText).length then
        (.error (.system .nameTooLong (some shown.toText) none), files)
      else if files.get? (place ++ [name]) = some .directory then
        (.error (.system .isDirectory (some shown.toText) (some (folder.child name).toText)), files)
      else (.ok (place ++ [name]), files.put (place ++ [name]) (.file content)) := by
  rw [run_replace]
  by_cases long : Files.nameLimit < (Utf8.encode (folder.child temporary).toText).length
  · rw [if_pos long, Files.locate, if_pos long]
  · have fits : ¬ Files.nameLimit < (Utf8.encode (folder.child name).toText).length := fun longer =>
      long (Nat.lt_of_lt_of_le longer (folder.length_toText_child_le shorter))
    rw [if_neg long, Files.locate_child (.inl absolute) located temporaryNamed long (.inl rfl),
      Files.locate_child (.inl absolute) located named fits (.inl rfl)]
    cases files.get? (place ++ [temporary]) <;>
      cases files.get? (place ++ [name]) with
      | none => simp
      | some node => cases node <;> simp

/-- Replacing an entry of a directory by a file, wherever its content is put together, puts the file
there or changes nothing. -/
theorem run_replace_child_cases {folder : Pathname} {name : String} (rooted : files.Rooted folder)
    (located : files.locate folder = .present place .directory) (named : Files.IsName name)
    (temporary shown : Pathname) (content : Bytes) :
    (∃ error, (replace temporary shown (folder.child name) content).run files =
        (.error error, files)) ∨
      ¬ Files.nameLimit < (Utf8.encode (folder.child name).toText).length ∧
        files.get? (place ++ [name]) ≠ some .directory ∧
          (replace temporary shown (folder.child name) content).run files =
            (.ok (place ++ [name]), files.put (place ++ [name]) (.file content)) := by
  rw [run_replace]
  cases files.locate temporary .kept with
  | nowhere cause => exact .inl ⟨_, rfl⟩
  | _ =>
      by_cases long : Files.nameLimit < (Utf8.encode (folder.child name).toText).length
      · refine .inl ⟨.system .nameTooLong (some shown.toText) (some (folder.child name).toText), ?_⟩
        rw [Files.locate, if_pos long]
      · have entry : files.locate (folder.child name) .kept = _ :=
          Files.locate_child rooted located named long (.inl rfl)
        rw [entry]
        cases files.get? (place ++ [name]) with
        | none =>
            refine .inr ⟨long, fun taken => ?_, rfl⟩
            cases taken
        | some node =>
            cases node with
            | directory => exact .inl ⟨_, rfl⟩
            | _ =>
                refine .inr ⟨long, fun taken => ?_, rfl⟩
                cases taken

end FileAction

end AppletPage
