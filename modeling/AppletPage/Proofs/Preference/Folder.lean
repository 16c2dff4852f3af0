import AppletPage.Proofs.Files.Directory
import AppletPage.Proofs.Files.Writing
import AppletPage.Proofs.Files.Plain
import AppletPage.Proofs.Host.Journal
import AppletPage.Proofs.Preference.Store
import AppletPage.Proofs.Preference.User
import AppletPage.Proofs.Preference.Written

/-! The directory of the users' files: each user has one entry of it. -/

namespace AppletPage

open Text

theorem Text.Utf8.length_encode_of_ascii {text : String}
    (ascii : ∀ c ∈ text.toList, c.toNat < 0x80) :
    (encode text).length = text.toList.length := by
  have one (c : Char) (small : c.toNat < 0x80) : (encodeChar c).length = 1 := by
    simp only [encodeChar, if_pos small, List.length_singleton]
  rw [encode, encodeChars, List.length_flatMap,
    List.map_congr_left fun c member => one c (ascii c member), List.map_const',
    List.sum_replicate_nat, Nat.mul_one]

theorem Files.holds_child {files : Files} {folder : Pathname} {place : Path} {name : String}
    {content? : Option Bytes} (rooted : files.Rooted folder)
    (located : files.locate folder = .present place .directory) (named : IsName name)
    (noZero : hasZero (folder.child name) = false)
    (fits : ¬ nameLimit < (Utf8.encode (folder.child name).toText).length)
    (held : files.get? (place ++ [name]) = content?.map Node.file) :
    files.Holds (folder.child name) content? := by
  have unlinked (target : String) : files.get? (place ++ [name]) ≠ some (.link target) := by
    rw [held]
    cases content? <;> exact nofun
  have found : files.locate (folder.child name) = _ :=
    locate_child rooted located named fits (.inr unlinked)
  rw [held] at found
  cases content? with
  | none => rw [Holds, «exists», noZero, if_neg Bool.false_ne_true, found]; rfl
  | some content =>
      refine ⟨?_, ?_⟩
      · rw [«exists», noZero, if_neg Bool.false_ne_true, found]; rfl
      · simp only [read, noZero, Bool.false_eq_true, if_false, found]; rfl

theorem Files.isName_of_ascii {name : String} (ascii : ∀ c ∈ name.toList, c.toNat < 0x80)
    (long : 2 < name.toList.length) (short : name.toList.length ≤ partLimit) : IsName name := by
  refine ⟨?_, ?_, ?_⟩
  · rintro rfl
    exact absurd long (by decide)
  · rintro rfl
    exact absurd long (by decide)
  · rwa [Utf8.length_encode_of_ascii ascii]

namespace Store

variable {user : String} {folder : Pathname} {place : Path} {host : Host}

/-! The names of the files. -/

theorem toList_fileName (user : String) :
    (fileName user).toList = user.toList ++ ".json".toList := by
  rw [fileName, String.toList_append]

theorem toList_temporaryName (user : String) :
    (temporaryName user drawn).toList = '.' :: (user.toList ++ ".xxxxxxxx.tmp".toList) := by
  simp only [temporaryName, String.toList_append, List.append_assoc]
  rfl

theorem fileName_injective {a b : String} (same : fileName a = fileName b) : a = b := by
  have chars := congrArg String.toList same
  rw [toList_fileName, toList_fileName] at chars
  exact String.toList_inj.mp (List.append_cancel_right chars)

theorem ascii_fileName (named : User.isName user = true) :
    ∀ c ∈ (fileName user).toList, c.toNat ≠ 0 ∧ c.toNat < 0x80 := by
  intro c member
  rw [toList_fileName] at member
  rcases List.mem_append.mp member with member | member
  · exact User.toNat_of_isName named c member
  · have ending : ∀ c ∈ ".json".toList, c.toNat ≠ 0 ∧ c.toNat < 0x80 := by simp
    exact ending c member

theorem ascii_temporaryName (named : User.isName user = true) :
    ∀ c ∈ (temporaryName user drawn).toList, c.toNat < 0x80 := by
  intro c member
  rw [toList_temporaryName] at member
  rcases List.mem_cons.mp member with rfl | member
  · decide
  · rcases List.mem_append.mp member with member | member
    · exact (User.toNat_of_isName named c member).2
    · exact ascii_of_all (by decide : ".xxxxxxxx.tmp".toList.all (·.toNat < 0x80)) c member

theorem isName_fileName (named : User.isName user = true) : Files.IsName (fileName user) := by
  have short := (User.chars_of_isName named).1
  have length : (fileName user).toList.length = user.toList.length + 5 := by
    rw [toList_fileName, List.length_append]
    rfl
  rw [User.nameLimit] at short
  exact Files.isName_of_ascii (fun c member => (ascii_fileName named c member).2) (by omega)
    (by rw [Files.partLimit]; omega)

theorem isName_temporaryName (named : User.isName user = true) :
    Files.IsName (temporaryName user drawn) := by
  have short := (User.chars_of_isName named).1
  have length : (temporaryName user drawn).toList.length = user.toList.length + 14 := by
    rw [toList_temporaryName, List.length_cons, List.length_append]
    rfl
  rw [User.nameLimit] at short
  exact Files.isName_of_ascii (ascii_temporaryName named) (by omega)
    (by rw [Files.partLimit]; omega)

theorem length_fileName_le (named : User.isName user = true) :
    (Utf8.encode (fileName user)).length ≤ (Utf8.encode (temporaryName user drawn)).length := by
  rw [Utf8.length_encode_of_ascii fun c member => (ascii_fileName named c member).2,
    Utf8.length_encode_of_ascii (ascii_temporaryName named), toList_fileName, toList_temporaryName,
    List.length_append, List.length_cons, List.length_append]
  change _ + 5 ≤ _ + 13 + 1
  omega

theorem hasZero_fileName (named : User.isName user = true)
    (there : host.files.isDirectory folder = .ok true) :
    Files.hasZero (folder.child (fileName user)) = false := by
  obtain ⟨noZero, -⟩ := Files.isDirectory_eq_true_iff.mp there
  rw [Files.hasZero_child, noZero, Bool.false_or, Bool.eq_false_iff]
  intro zero
  exact (ascii_fileName named '\x00' (List.contains_iff_mem.mp zero)).1 rfl

/-! Looking into the directory. -/

theorem snd_run_load (store : Store) (user : Option String) (host : Host) :
    ((store.load user).run host).2 = host := by
  cases store with
  | disabled => rfl
  | directory folder =>
      rw [load, HostAction.run_bind]
      cases file folder user with
      | error invalid => rfl
      | ok path =>
          rw [HostAction.run_ofExcept_ok]
          simp only [HostAction.run_bind, HostAction.run_exists]
          cases host.files.exists path with
          | error error => rfl
          | ok there =>
              cases there with
              | false => rfl
              | true =>
                  simp only [if_true, HostAction.run_bind, HostAction.run_read]
                  cases host.files.read path with
                  | error error => rfl
                  | ok content =>
                      dsimp only
                      cases readOverrides path.lastPart content <;> rfl

theorem run_load_unnamed (unnamed : User.isName user = false) (host : Host) :
    (load (.directory folder) (some user)).run host = (.error (.username ⟨some user⟩), host) :=
  run_load_of_refused (by rw [User.check, unnamed]; rfl) folder host

theorem run_load_long (named : User.isName user = true)
    (there : host.files.isDirectory folder = .ok true)
    (long : Files.nameLimit < (Utf8.encode (folder.child (fileName user)).toText).length) :
    (load (.directory folder) (some user)).run host =
      (.error (.file (.system .nameTooLong (some (folder.child (fileName user)).toText) none)),
        host) := by
  have lost : host.files.exists (folder.child (fileName user)) =
      .error (.system .nameTooLong (some (folder.child (fileName user)).toText) none) := by
    rw [Files.exists, hasZero_fileName named there, if_neg Bool.false_ne_true, Files.locate,
      if_pos long]
  rw [load, file_of_named named, HostAction.run_bind, HostAction.run_ofExcept_ok]
  simp only [HostAction.run_bind, HostAction.run_exists, lost]

theorem run_load_child {content? : Option Bytes} (named : User.isName user = true)
    (rooted : host.files.Rooted folder) (there : host.files.isDirectory folder = .ok true)
    (located : host.files.locate folder = .present place .directory)
    (fits : ¬ Files.nameLimit < (Utf8.encode (folder.child (fileName user)).toText).length)
    (held : host.files.get? (place ++ [fileName user]) = content?.map Node.file) :
    (load (.directory folder) (some user)).run host = (overridesIn user content?, host) :=
  run_load named <|
    Files.holds_child rooted located (isName_fileName named) (hasZero_fileName named there) fits
      held

/-! Keeping overrides in the directory. -/

/-- The host with the overrides of a user in the user's file, before the journal tells of it. -/
def keep (place : Path) (user : String) (overrides : Overrides) (host : Host) : Host :=
  Host.withoutJournalBelow (place ++ [fileName user])
    { host with
      files := host.files.put (place ++ [fileName user])
        (.file (Utf8.encode (fileText overrides))) }

def savedLine (user : String) (overrides : Overrides) : String :=
  "Saved " ++ toString overrides.length ++ " preference override(s) for " ++ user

theorem get?_keep (place : Path) (user : String) (overrides : Overrides) (host : Host)
    (other : Path) :
    (keep place user overrides host).files.get? other =
      if place ++ [fileName user] = other then some (.file (Utf8.encode (fileText overrides)))
      else host.files.get? other := by
  rw [keep, Host.files_withoutJournalBelow]
  exact Files.get?_put host.files (Files.concat_ne_nil place (fileName user)) _ other

theorem waysKept_keep {overrides : Overrides}
    (free : ∀ old, host.files.get? (place ++ [fileName user]) = some old → old.IsFile) :
    host.files.WaysKept (keep place user overrides host).files := by
  rw [keep, Host.files_withoutJournalBelow]
  exact Files.waysKept_put (Files.concat_ne_nil place (fileName user)) fun old there =>
    ⟨free old there, trivial⟩

theorem journal_keep {overrides : Overrides} {other : Path}
    (held : (keep place user overrides host).journal.place = some other) :
    host.journal.place = some other ∧ other ≠ place ++ [fileName user] := by
  obtain ⟨kept, apart⟩ := Host.place_of_withoutJournalBelow held
  exact ⟨kept, apart⟩

/-- Why overrides that are accepted cannot be kept for a user, if so. -/
def unkept? (folder : Pathname) (user : String) (old : Option Node) : Option Failure :=
  let shown := (folder.child (temporaryName user shownDrawn)).toText
  if User.isName user then
    if Files.nameLimit < (Utf8.encode (folder.child (temporaryName user drawn)).toText).length then
      some (.file (.system .nameTooLong (some shown) none))
    else if old = some .directory then
      some (.file (.system .isDirectory (some shown)
        (some (folder.child (fileName user)).toText)))
    else none
  else some (.username ⟨some user⟩)

theorem run_save_of_refused {value : Json} {failure : Failure}
    (refused : accepted value = .error failure) (user? : Option String) (host : Host) :
    (save (.directory folder) user? value).run host = (.error failure, host) := by
  rw [save, HostAction.run_bind, refused]
  rfl

theorem run_save_of_accepted {value : Json} {overrides : Overrides}
    (taken : accepted value = .ok overrides) (user? : Option String) (host : Host) :
    (save (.directory folder) user? value).run host =
      (keepChecked folder user? (wide overrides)).run host := by
  rw [save, HostAction.run_bind, taken, HostAction.run_ofExcept_ok]

theorem run_keepChecked_unnamed (unnamed : User.isName user = false) (overrides : WideOverrides)
    (host : Host) :
    (keepChecked folder (some user) overrides).run host =
      (.error (.username ⟨some user⟩), host) := by
  rw [keepChecked, HostAction.run_bind, file, User.check, unnamed]
  rfl

theorem run_save_unnamed (unnamed : User.isName user = false) (value : Json) (host : Host) :
    (save (.directory folder) (some user) value).run host =
      match accepted value with
      | .error failure => (.error failure, host)
      | .ok _ => (.error (.username ⟨some user⟩), host) := by
  cases taken : accepted value with
  | error failure => exact run_save_of_refused taken (some user) host
  | ok overrides =>
      rw [run_save_of_accepted taken, run_keepChecked_unnamed unnamed]

/-- Checked overrides are kept for a user by replacing the user's file in the directory, which is
made if it is missing. If they cannot be written, a draft of the file is left. -/
theorem run_keepChecked (named : User.isName user = true) (overrides : WideOverrides)
    (host : Host) :
    (keepChecked folder (some user) overrides).run host =
      match (FileAction.makeDirectories folder).run host.files with
      | (.error error, files) => (.error (.file error), { host with files })
      | (.ok (), files) =>
          match files.absolute folder with
          | .error error => (.error (.file error), { host with files })
          | .ok form =>
              let temporary := form.child (temporaryName user drawn)
              let shown := form.child (temporaryName user shownDrawn)
              match content overrides with
              | .ok content =>
                  match (FileAction.replace temporary shown (folder.child (fileName user))
                    content).run files with
                  | (.error error, files) => (.error (.file error), { host with files })
                  | (.ok gone, files) =>
                      (.ok { kept := true, count := overrides.length },
                        (Host.withoutJournalBelow gone { host with files }).log source .info
                          ("Saved " ++ toString overrides.length
                            ++ " preference override(s) for " ++ user))
              | .error cut =>
                  match (FileAction.leaveDraft temporary shown cut.written).run files with
                  | (.error error, files) => (.error (.file error), { host with files })
                  | (.ok (), files) => (.error (.unencodable cut.error), { host with files }) := by
  rw [keepChecked]
  simp only [HostAction.run_bind, file_of_named named, HostAction.run_ofExcept_ok,
    HostAction.run_ofFiles, Work.run_get, Option.getD_some]
  cases (FileAction.makeDirectories folder).run host.files with
  | mk made files =>
      cases made with
      | error error => rfl
      | ok value =>
          dsimp only
          cases files.absolute folder with
          | error error => rfl
          | ok form =>
              simp only [HostAction.run_ofExcept_ok]
              cases content overrides with
              | ok content =>
                  simp only [HostAction.run_bind, Host.run_replace]
                  cases (FileAction.replace (form.child (temporaryName user drawn))
                    (form.child (temporaryName user shownDrawn)) (folder.child (fileName user))
                    content).run files with
                  | mk result files => cases result <;> rfl
              | error cut =>
                  simp only [HostAction.run_bind, HostAction.run_ofFiles]
                  cases (FileAction.leaveDraft (form.child (temporaryName user drawn))
                    (form.child (temporaryName user shownDrawn)) cut.written).run files with
                  | mk result files => cases result <;> rfl

theorem run_save_of_named {value : Json} {overrides : Overrides}
    (named : User.isName user = true) (taken : accepted value = .ok overrides) (host : Host) :
    (save (.directory folder) (some user) value).run host =
      match (FileAction.makeDirectories folder).run host.files with
      | (.error error, files) => (.error (.file error), { host with files })
      | (.ok (), files) =>
          match files.absolute folder with
          | .error error => (.error (.file error), { host with files })
          | .ok form =>
              match (FileAction.replace (form.child (temporaryName user drawn))
                (form.child (temporaryName user shownDrawn)) (folder.child (fileName user))
                (Utf8.encode (fileText overrides))).run files with
              | (.error error, files) => (.error (.file error), { host with files })
              | (.ok gone, files) =>
                  (.ok { kept := true, count := overrides.length },
                    (Host.withoutJournalBelow gone { host with files }).log source .info
                      (savedLine user overrides)) := by
  rw [run_save_of_accepted taken, run_keepChecked named, content_wide, wide, List.length_map]
  rfl

/-- Overrides are kept in a directory that is there, or the host stays as it was. -/
theorem run_save (plain : folder.IsPlain) (there : host.files.isDirectory folder = .ok true)
    (located : host.files.locate folder = .present place .directory) (user : String)
    (value : Json) :
    (save (.directory folder) (some user) value).run host =
      match accepted value with
      | .error failure => (.error failure, host)
      | .ok overrides =>
          match unkept? folder user (host.files.get? (place ++ [fileName user])) with
          | some failure => (.error failure, host)
          | none =>
              (.ok { kept := true, count := overrides.length },
                (keep place user overrides host).log source .info (savedLine user overrides)) := by
  cases named : User.isName user with
  | false =>
      rw [run_save_unnamed named, unkept?, named]
      rfl
  | true =>
      cases taken : accepted value with
      | error failure => exact run_save_of_refused taken (some user) host
      | ok overrides =>
          have replaced := FileAction.run_replace_child plain.absolute located
            (isName_temporaryName named) (isName_fileName named) (length_fileName_le named)
            (folder.child (temporaryName user shownDrawn)) (Utf8.encode (fileText overrides))
          rw [run_save_of_named named taken, FileAction.run_makeDirectories_of_isDirectory there]
          dsimp only
          rw [Files.absolute_of_isPlain host.files plain]
          dsimp only
          rw [replaced, unkept?, named, if_pos rfl]
          by_cases long : Files.nameLimit <
              (Utf8.encode (folder.child (temporaryName user drawn)).toText).length
          · simp only [if_pos long]
          · by_cases occupied : host.files.get? (place ++ [fileName user]) = some .directory
            · simp only [if_neg long, if_pos occupied]
            · simp only [if_neg long, if_neg occupied]
              rfl

/-- What has to hold of a user's name for the user to have a file. -/
structure HasFile (files : Files) (folder : Pathname) (user : String) : Prop where
  named : User.isName user = true
  rooted : files.Rooted folder
  noZero : Files.hasZero folder = false
  fits : ¬ Files.nameLimit < (Utf8.encode (folder.child (fileName user)).toText).length

/-- Overrides are kept in a directory, which may have to be made, or nothing has been done but for
making directories. -/
theorem run_save_outcome (folder : Pathname) (user? : Option String) (value : Json) (host : Host) :
    (∃ failure files, (save (.directory folder) user? value).run host =
        (.error failure, { host with files }) ∧
      (files = host.files ∨ files = ((FileAction.makeDirectories folder).run host.files).2)) ∨
      ∃ user overrides made place, user? = some user ∧ accepted value = .ok overrides ∧
        (FileAction.makeDirectories folder).run host.files = (.ok (), made) ∧
        made.locate folder = .present place .directory ∧ HasFile made folder user ∧
        made.get? (place ++ [fileName user]) ≠ some .directory ∧
        (save (.directory folder) user? value).run host =
          (.ok { kept := true, count := overrides.length },
            (keep place user overrides { host with files := made }).log source .info
              (savedLine user overrides)) := by
  cases taken : accepted value with
  | error failure =>
      exact .inl ⟨failure, host.files, run_save_of_refused taken user? host, .inl rfl⟩
  | ok overrides =>
    cases user? with
    | none =>
        refine .inl ⟨.username ⟨none⟩, host.files, ?_, .inl rfl⟩
        rw [run_save_of_accepted taken]
        rfl
    | some user =>
      cases named : User.isName user with
      | false =>
          refine .inl ⟨.username ⟨some user⟩, host.files, ?_, .inl rfl⟩
          rw [run_save_unnamed named, taken]
      | true =>
        rw [run_save_of_named named taken]
        cases ran : (FileAction.makeDirectories folder).run host.files with
        | mk result made =>
          cases result with
          | error error => exact .inl ⟨_, made, rfl, .inr rfl⟩
          | ok _ =>
            have there := FileAction.isDirectory_of_makeDirectories ran
            obtain ⟨noZero, place, located⟩ := Files.isDirectory_eq_true_iff.mp there
            dsimp only
            -- A name that starts where nothing is any more may lead to the directory still, but it
            -- has no absolute form, in which the temporary file would be made.
            cases formed : made.absolute folder with
            | error error => exact .inl ⟨_, made, rfl, .inr rfl⟩
            | ok form =>
              have rooted := Files.rooted_of_absolute formed
              have replaced := FileAction.run_replace_child_cases rooted located
                (isName_fileName named) (form.child (temporaryName user drawn))
                (form.child (temporaryName user shownDrawn)) (Utf8.encode (fileText overrides))
              dsimp only
              rcases replaced with ⟨error, refused⟩ | ⟨fits, free, placed⟩
              · rw [refused]
                exact .inl ⟨_, made, rfl, .inr rfl⟩
              · rw [placed]
                exact .inr ⟨user, overrides, made, place, rfl, rfl, rfl, located,
                  ⟨named, rooted, noZero, fits⟩, free, rfl⟩

/-- Overrides that cannot be written are never kept: nothing has been done but for making
directories, or a draft is left behind, too, with what could be written. -/
theorem run_keepChecked_cut {overrides : WideOverrides} {cut : Cut}
    (cuts : content overrides = .error cut) (folder : Pathname) (user? : Option String)
    (host : Host) :
    let made := ((FileAction.makeDirectories folder).run host.files).2
    (∃ failure files, (keepChecked folder user? overrides).run host =
        (.error failure, { host with files }) ∧ (files = host.files ∨ files = made) ∧
      ∀ error, failure ≠ .unencodable error) ∨
      ∃ directory, (keepChecked folder user? overrides).run host =
        (.error (.unencodable cut.error),
          { host with
            files :=
              { made with
                drafts := { directory, content := cut.written } :: made.drafts } }) := by
  cases user? with
  | none => exact .inl ⟨.username ⟨none⟩, host.files, rfl, .inl rfl, nofun⟩
  | some user =>
    cases named : User.isName user with
    | false =>
        exact .inl ⟨_, host.files, run_keepChecked_unnamed named overrides host, .inl rfl, nofun⟩
    | true =>
      rw [run_keepChecked named, cuts]
      cases (FileAction.makeDirectories folder).run host.files with
      | mk result made =>
        cases result with
        | error error => exact .inl ⟨_, made, rfl, .inr rfl, nofun⟩
        | ok _ =>
          dsimp only
          cases made.absolute folder with
          | error error => exact .inl ⟨_, made, rfl, .inr rfl, nofun⟩
          | ok form =>
            dsimp only
            rcases FileAction.run_leaveDraft_cases (form.child (temporaryName user drawn))
                (form.child (temporaryName user shownDrawn)) cut.written made with
              ⟨error, refused⟩ | ⟨directory, left⟩
            · rw [refused]
              exact .inl ⟨_, made, rfl, .inr rfl, nofun⟩
            · rw [left]
              exact .inr ⟨directory, rfl⟩

theorem snd_makeDirectories_of_located
    (located : host.files.locate folder = .present place .directory) :
    ((FileAction.makeDirectories folder).run host.files).2 = host.files := by
  cases noZero : Files.hasZero folder with
  | true => rw [FileAction.run_makeDirectories_of_hasZero noZero]
  | false =>
      have there := Files.isDirectory_eq_true_iff.mpr ⟨noZero, place, located⟩
      rw [FileAction.run_makeDirectories_of_isDirectory there]

theorem run_keepChecked_cut_cases {overrides : WideOverrides} {cut : Cut}
    (located : host.files.locate folder = .present place .directory)
    (cuts : content overrides = .error cut) (user? : Option String) :
    (∃ failure, (keepChecked folder user? overrides).run host = (.error failure, host) ∧
      ∀ error, failure ≠ .unencodable error) ∨
      ∃ draft, (keepChecked folder user? overrides).run host =
        (.error (.unencodable cut.error),
          { host with
            files := { host.files with drafts := draft :: host.files.drafts } }) := by
  have unmade := snd_makeDirectories_of_located located
  rcases run_keepChecked_cut cuts folder user? host with
    ⟨failure, files, failed, same, other⟩ | ⟨directory, failed⟩
  · rw [unmade, or_self] at same
    rw [same] at failed
    exact .inl ⟨failure, failed, other⟩
  · rw [unmade] at failed
    exact .inr ⟨_, failed⟩

theorem run_save_cases (located : host.files.locate folder = .present place .directory)
    (user? : Option String) (value : Json) :
    (∃ failure, (save (.directory folder) user? value).run host = (.error failure, host)) ∨
      ∃ user overrides, user? = some user ∧ accepted value = .ok overrides ∧
        HasFile host.files folder user ∧
          host.files.get? (place ++ [fileName user]) ≠ some .directory ∧
            (save (.directory folder) user? value).run host =
              (.ok { kept := true, count := overrides.length },
                (keep place user overrides host).log source .info (savedLine user overrides)) := by
  have unmade := snd_makeDirectories_of_located located
  rcases run_save_outcome folder user? value host with
    ⟨failure, files, failed, same⟩ |
      ⟨user, overrides, made, other, given, taken, ran, found, hasFile, free, done⟩
  · rw [unmade, or_self] at same
    rw [same] at failed
    exact .inl ⟨failure, failed⟩
  · rw [ran] at unmade
    cases unmade
    cases located.symm.trans found
    exact .inr ⟨user, overrides, given, taken, hasFile, free, done⟩

def hostOfEmptyFolder : Host := { files := { nodes := [(["prefs"], .directory)] } }

end Store

end AppletPage
