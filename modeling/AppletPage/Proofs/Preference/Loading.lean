import AppletPage.Proofs.Preference.Folder
import AppletPage.Proofs.Preference.Settled

/-! Every way in which loading the overrides of a user can end. -/

namespace AppletPage

open Text

/-- The failures of a file that holds no overrides. -/
def Failure.OfPreferences : Failure → Prop
  | .corrupt _ | .overrides (.rejected ..) => True
  | _ => False

namespace Store

variable {folder : Pathname} {user? : Option String} {content? : Option Bytes} {host : Host}
  {name user : String} {content : Bytes}

theorem readOverrides_of_unread {failure : Failure}
    (unread : Layout.readJson content = .error failure) (shallow : failure ≠ .json .tooDeep) :
    readOverrides name content = .error (.corrupt name) := by
  rw [readOverrides, unread]
  split
  · next same =>
    cases same
    exact absurd rfl shallow
  · rfl
  · next same => cases same

theorem readOverrides_of_read {value : Json} (read : Layout.readJson content = .ok value) :
    readOverrides name content = (Overrides.validate value).mapError Failure.overrides := by
  rw [readOverrides, read]

theorem overridesIn_cases
    (shallow : ∀ content, content? = some content →
      Layout.readJson content ≠ .error (.json .tooDeep)) :
    (∃ overrides, overridesIn user content? = .ok overrides ∧ Overrides.Settled overrides) ∨
      ∃ failure, overridesIn user content? = .error failure ∧ failure.OfPreferences := by
  cases content? with
  | none => exact .inl ⟨[], rfl, Overrides.settled_nil⟩
  | some content =>
      cases read : Layout.readJson content with
      | error failure =>
          have high : failure ≠ .json .tooDeep := fun deep => shallow content rfl (deep ▸ read)
          exact .inr ⟨_, readOverrides_of_unread read high, trivial⟩
      | ok value =>
          rw [overridesIn, readOverrides_of_read read]
          cases valid : Overrides.validate value with
          | ok overrides => exact .inl ⟨overrides, rfl, Overrides.settled_of_validate valid⟩
          | error error =>
              obtain ⟨stage, violations, rfl⟩ := Overrides.rejected_of_validate valid
              exact .inr ⟨_, rfl, trivial⟩

/-- Loading changes nothing. It fails for the name exactly if the name is refused. Otherwise it
gives nothing without a file, and else what the file holds: overrides that are accepted as they
are, or the failure of a file that holds none. -/
theorem load_outcome
    (state : ∀ user, User.check user? = .ok user →
      host.files.Holds (folder.child (fileName user)) content?)
    (shallow : ∀ content, content? = some content →
      Layout.readJson content ≠ .error (.json .tooDeep)) :
    let loaded := (load (.directory folder) user?).run host
    loaded.2 = host ∧
    (∀ invalid, loaded.1 = .error (.username invalid) ↔ User.check user? = .error invalid) ∧
    ∀ user, User.check user? = .ok user →
      (content? = none → loaded.1 = .ok []) ∧
      (∀ content, content? = some content →
        (∀ failure, Layout.readJson content = .error failure →
          loaded.1 = .error (.corrupt (fileName user))) ∧
        ∀ value, Layout.readJson content = .ok value →
          loaded.1 = (Overrides.validate value).mapError Failure.overrides) ∧
      ((∃ overrides, loaded.1 = .ok overrides ∧
          Overrides.validate overrides.toJson = .ok overrides) ∨
        ∃ failure, loaded.1 = .error failure ∧ failure.OfPreferences) := by
  refine ⟨snd_run_load _ _ host, fun invalid => ?_, fun user checked => ?_⟩
  · cases checked : User.check user? with
    | error other =>
        rw [run_load_of_refused checked]
        simp
    | ok user =>
        obtain ⟨rfl, named⟩ := User.eq_some_of_check checked
        rw [run_load named (state user checked)]
        refine iff_of_false (fun failed => ?_) nofun
        rcases @overridesIn_cases content? user shallow with ⟨overrides, read, -⟩ | unread
        · rw [read] at failed
          cases failed
        · obtain ⟨failure, unread, own⟩ := unread
          rw [unread] at failed
          cases failed
          exact own
  · obtain ⟨rfl, named⟩ := User.eq_some_of_check checked
    rw [run_load named (state user checked)]
    refine ⟨?_, ?_, ?_⟩
    · rintro rfl
      rfl
    · rintro content rfl
      refine ⟨fun failure unread => ?_, fun value => readOverrides_of_read⟩
      exact readOverrides_of_unread unread fun deep => shallow content rfl (deep ▸ unread)
    · rcases @overridesIn_cases content? user shallow with ⟨overrides, read, settled⟩ | refused
      · exact .inl ⟨overrides, read, settled.validate_eq⟩
      · exact .inr refused

def hostOfContent (content : Bytes) : Host where
  files :=
    { nodes := [(["prefs"], .directory), (["prefs", "alice.json"], .file content)] }

/-- A byte that is no text is a file without overrides. -/
theorem load_outcome_undecodable :
    let folder := Pathname.ofText "/prefs"
    let host := hostOfContent [0xff]
    (∀ user, User.check (some "alice") = .ok user →
      host.files.Holds (folder.child (fileName user)) (some [0xff])) ∧
    Layout.readJson [0xff] ≠ .error (.json .tooDeep) ∧
    (load (.directory folder) (some "alice")).run host =
      (.error (.corrupt "alice.json"), host) := by
  intro folder host
  have unread : Layout.readJson [0xff] = .error (.encoding ⟨0, [0xff], .badStart⟩) := by rfl
  have checked : User.check (some "alice") = .ok "alice" := by rfl
  have state : ∀ user, User.check (some "alice") = .ok user →
      host.files.Holds (folder.child (fileName user)) (some [0xff]) := by
    intro user same
    cases checked.symm.trans same
    exact ⟨eq_ok_of_toOption (by decide +kernel), eq_ok_of_toOption (by decide +kernel)⟩
  have shallow : Layout.readJson [0xff] ≠ .error (.json .tooDeep) := by
    rw [unread]
    exact nofun
  obtain ⟨unchanged, -, outcome⟩ := load_outcome state fun content same =>
    Option.some.inj same ▸ shallow
  obtain ⟨-, held, -⟩ := outcome "alice" checked
  exact ⟨state, shallow, Prod.ext ((held _ rfl).1 _ unread) unchanged⟩

end Store

end AppletPage
