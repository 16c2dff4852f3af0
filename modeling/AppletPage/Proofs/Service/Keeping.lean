import AppletPage.Proofs.Preference.Content
import AppletPage.Proofs.Preference.Folder
import AppletPage.Proofs.Service.Page

/-! What becomes of a request to keep preferences. -/

namespace AppletPage

open Text

namespace Store

theorem accepted_of_valid {fields : List (String × Json)} {overrides : Overrides}
    (valid : Overrides.validate (.object fields) = .ok overrides) :
    accepted (.object fields) = .ok overrides := by
  change (Overrides.validate (.object fields)).mapError Failure.overrides = _
  rw [valid]
  rfl

theorem accepted_of_invalid {fields : List (String × Json)} {error : OverridesError}
    (invalid : Overrides.validate (.object fields) = .error error) :
    accepted (.object fields) = .error (.overrides error) := by
  change (Overrides.validate (.object fields)).mapError Failure.overrides = _
  rw [invalid]
  rfl

theorem unkept?_eq_none_iff {folder : Pathname} {user : String} {old : Option Node} :
    unkept? folder user old = none ↔
      User.isName user = true ∧
        ¬ Files.nameLimit <
            (Utf8.encode (folder.child (temporaryName user drawn)).toText).length ∧
          old ≠ some .directory := by
  rw [unkept?]
  split
  · next named =>
    split
    · next long => exact iff_of_false (Option.some_ne_none _) fun given => given.2.1 long
    · next fits =>
      split
      · next taken => exact iff_of_false (Option.some_ne_none _) fun given => given.2.2 taken
      · next free => exact iff_of_true rfl ⟨named, fits, free⟩
  · next unnamed => exact iff_of_false (Option.some_ne_none _) fun given => unnamed given.1

end Store

namespace App

open HostAction

variable {running : Running} {place : Path} {host : Host} {user : String}

def kept (place : Path) (user : String) (overrides : Overrides) (host : Host) : Host :=
  (Store.keep place user overrides host).log Store.source .info (Store.savedLine user overrides)

theorem onlyLogged_kept (place : Path) (user : String) (overrides : Overrides) (host : Host) :
    (Store.keep place user overrides host).OnlyLogged (kept place user overrides host) :=
  Host.onlyLogged_log _ _ _ _

theorem get?_kept (place : Path) (user : String) (overrides : Overrides) (host : Host) :
    (kept place user overrides host).files.get? (place ++ [Store.fileName user]) =
      some (.file (Utf8.encode (Store.fileText overrides))) := by
  have apart : (Store.keep place user overrides host).journal.place ≠
      some (place ++ [Store.fileName user]) := fun held => (Store.journal_keep held).2 rfl
  rw [(onlyLogged_kept place user overrides host).others _ apart, Store.get?_keep, if_pos rfl]

theorem run_load_kept {overrides : Overrides} (plain : running.layout.prefs.IsPlain)
    (there : host.files.isDirectory running.layout.prefs = .ok true)
    (located : host.files.locate running.layout.prefs = .present place .directory)
    (free : ∀ old, host.files.get? (place ++ [Store.fileName user]) = some old → old.IsFile)
    (named : User.isName user = true)
    (fits : ¬ Files.nameLimit <
      (Utf8.encode (running.layout.prefs.child (Store.fileName user)).toText).length)
    (settled : Overrides.Settled overrides) :
    (Store.load (.directory running.layout.prefs) (some user)).run
        (kept place user overrides host) =
      (.ok overrides.sorted, kept place user overrides host) := by
  have absolute := plain.absolute
  have ways : host.files.WaysKept (kept place user overrides host).files :=
    (Store.waysKept_keep free).trans (onlyLogged_kept place user overrides host).ways
  have held : (kept place user overrides host).files.get? (place ++ [Store.fileName user]) =
      (some (Utf8.encode (Store.fileText overrides))).map Node.file :=
    get?_kept place user overrides host
  rw [Store.run_load_child named (.inl absolute) (Files.isDirectory_mono ways absolute there)
    (Files.locate_directory_mono ways absolute located) fits held, Store.overridesIn,
    Store.readOverrides_fileText settled]

/-- The outcome of a failure to read or to keep preferences, which leaves the host as it was. -/
def refused (failure : Failure) (host : Host) : Except Failure Response × Host :=
  match preferenceError? failure with
  | some response => (.ok response, host)
  | none => (.error failure, host)

theorem run_keepPreferences (plain : running.layout.prefs.IsPlain)
    (there : host.files.isDirectory running.layout.prefs = .ok true)
    (enabled : running.config.preferences.enabled = true)
    (store : running.store = .directory running.layout.prefs)
    (located : host.files.locate running.layout.prefs = .present place .directory)
    (unlinked : User.isName user = true →
      ∀ target, host.files.get? (place ++ [Store.fileName user]) ≠ some (.link target))
    (request : Request) :
    (keepPreferences { running := some running } user request).run host =
      match Body.overrides request with
      | .error (.answer response) => (.ok response, host)
      | .error (.failure failure) => (.error failure, host)
      | .ok fields =>
          match Store.accepted (.object fields) with
          | .error failure => refused failure host
          | .ok overrides =>
              match Store.unkept? running.layout.prefs user
                (host.files.get? (place ++ [Store.fileName user])) with
              | some failure => refused failure host
              | none =>
                  (.ok (.ok (preferenceData user overrides.sorted)),
                    kept place user overrides host) := by
  have storing : store? { running := some running } = some (.directory running.layout.prefs) := by
    simp only [store?, enabled, if_true, store]
  rw [keepPreferences, storing]
  cases read : Body.overrides request with
  | error refusal => cases refusal <;> rfl
  | ok fields =>
      dsimp only
      rw [run_bind, run_tryCatch, run_bind,
        Store.run_save plain there located user (.object fields)]
      cases accepted : Store.accepted (.object fields) with
      | error failure =>
          dsimp only
          rw [refused]
          cases preferenceError? failure <;> rfl
      | ok overrides =>
          dsimp only
          cases unkept : Store.unkept? running.layout.prefs user
              (host.files.get? (place ++ [Store.fileName user])) with
          | some failure =>
              dsimp only
              rw [refused]
              cases preferenceError? failure <;> rfl
          | none =>
              obtain ⟨named, fits, noDirectory⟩ := Store.unkept?_eq_none_iff.mp unkept
              have free : ∀ old, host.files.get? (place ++ [Store.fileName user]) = some old →
                  old.IsFile := by
                intro old held
                cases old with
                | file content => trivial
                | directory => exact absurd held noDirectory
                | link target => exact absurd held (unlinked named target)
              have short : ¬ Files.nameLimit <
                  (Utf8.encode (running.layout.prefs.child (Store.fileName user)).toText).length :=
                fun long => fits (Nat.lt_of_lt_of_le long
                  (running.layout.prefs.length_toText_child_le (Store.length_fileName_le named)))
              have load := run_load_kept plain there located free named short
                (Store.settled_of_accepted accepted)
              change (do return Response.ok (preferenceData user
                (← Store.load (.directory running.layout.prefs) (some user))) :
                HostAction Response).run (kept place user overrides host) = _
              rw [run_bind, load]
              rfl

end App

end AppletPage
