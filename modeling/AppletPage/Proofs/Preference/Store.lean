import AppletPage.Preference.Store
import AppletPage.Proofs.Host.Action
import AppletPage.Proofs.Preference.Report

/-! What is loaded for a user: nothing without a file, and else what the file's content holds. -/

namespace AppletPage

open Text

def Files.Holds (files : Files) (path : Pathname) : Option Bytes → Prop
  | none => files.exists path = .ok false
  | some content => files.exists path = .ok true ∧ files.read path = .ok content

theorem Pathname.lastPart_child (path : Pathname) (name : String) :
    (path.child name).lastPart = name := by
  rw [child, lastPart, List.getLast?_concat, Option.getD_some]

namespace Store

def overridesIn (user : String) : Option Bytes → Except Failure Overrides
  | none => .ok []
  | some content => readOverrides (fileName user) content

theorem file_of_named {user : String} (named : User.isName user = true) (folder : Pathname) :
    file folder (some user) = .ok (folder.child (fileName user)) := by
  rw [file, User.check, if_pos named]

theorem run_load_of_refused {user? : Option String} {invalid : User.InvalidName}
    (refused : User.check user? = .error invalid) (folder : Pathname) (host : Host) :
    (load (.directory folder) user?).run host = (.error (.username invalid), host) := by
  rw [load, file, refused]
  rfl

theorem run_load {folder : Pathname} {user : String} {host : Host} {content? : Option Bytes}
    (named : User.isName user = true)
    (holds : host.files.Holds (folder.child (fileName user)) content?) :
    (load (.directory folder) (some user)).run host = (overridesIn user content?, host) := by
  rw [load, file_of_named named, HostAction.run_bind, HostAction.run_ofExcept_ok]
  simp only [HostAction.run_bind, HostAction.run_exists]
  cases content? with
  | none =>
      rw [holds]
      rfl
  | some content =>
      obtain ⟨there, read⟩ := holds
      simp only [there, if_true, HostAction.run_bind, HostAction.run_read, read,
        Pathname.lastPart_child, overridesIn]
      cases readOverrides (fileName user) content <;> rfl

theorem validate_of_readOverrides {name : String} {content : Bytes} {overrides : Overrides}
    (read : readOverrides name content = .ok overrides) :
    ∃ value, Overrides.validate value = .ok overrides := by
  unfold readOverrides at read
  split at read
  · cases read
  · cases read
  · next value _ =>
    cases result : Overrides.validate value with
    | error error => rw [result] at read; cases read
    | ok given =>
        rw [result] at read
        cases read
        exact ⟨value, result⟩

theorem failure_of_readOverrides {name : String} {content : Bytes} {failure : Failure}
    (failed : readOverrides name content = .error failure) :
    failure = .json .tooDeep ∨ failure = .corrupt name ∨
      ∃ value error, Overrides.validate value = .error error ∧ failure = .overrides error := by
  unfold readOverrides at failed
  split at failed
  · cases failed
    exact .inl rfl
  · cases failed
    exact .inr (.inl rfl)
  · next value _ =>
    cases result : Overrides.validate value with
    | ok overrides => rw [result] at failed; cases failed
    | error error =>
        rw [result] at failed
        cases failed
        exact .inr (.inr ⟨value, error, result, rfl⟩)

theorem readOverrides_eq_error {name : String} {content : Bytes} {failure : Failure}
    (failed : readOverrides name content = .error failure) :
    failure = .json .tooDeep ∨ failure = .corrupt name ∨
      ∃ stage violations, failure = .overrides (.rejected stage violations) := by
  rcases failure_of_readOverrides failed with deep | corrupt | ⟨value, error, refused, rfl⟩
  · exact .inl deep
  · exact .inr (.inl corrupt)
  · obtain ⟨stage, violations, rfl⟩ := Overrides.rejected_of_validate refused
    exact .inr (.inr ⟨stage, violations, rfl⟩)

theorem accepted_of_overridesIn {user : String} {content? : Option Bytes} {overrides : Overrides}
    (loaded : overridesIn user content? = .ok overrides) : Overrides.Accepted overrides := by
  cases content? with
  | none => cases loaded; exact ⟨nofun, nofun, List.nodup_nil⟩
  | some content =>
      obtain ⟨value, valid⟩ := validate_of_readOverrides loaded
      exact Overrides.accepted_of_validate valid

end Store

end AppletPage
