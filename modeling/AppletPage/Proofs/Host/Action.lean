import AppletPage.Host.Basic
import AppletPage.Proofs.Work

/-! How work on a host runs, step by step. -/

namespace AppletPage.HostAction

variable {α β : Type}

theorem run_pure (value : α) (host : Host) :
    (pure value : HostAction α).run host = (.ok value, host) := rfl

theorem run_bind (action : HostAction α) (next : α → HostAction β) (host : Host) :
    (action >>= next).run host =
      match action.run host with
      | (.ok value, between) => (next value).run between
      | (.error failure, between) => (.error failure, between) := by
  rw [Work.run_bind]
  cases action.run host with
  | mk result between => cases result <;> rfl

theorem run_tryCatch (action : HostAction α) (handle : Failure → HostAction α) (host : Host) :
    (tryCatch action handle).run host =
      match action.run host with
      | (.ok value, between) => (.ok value, between)
      | (.error failure, between) => (handle failure).run between := by
  rw [Work.run_tryCatch]
  cases action.run host with
  | mk result between => cases result <;> rfl

theorem run_bind_eq_ok {action : HostAction α} {next : α → HostAction β} {host after : Host}
    {result : β} (done : (action >>= next).run host = (.ok result, after)) :
    ∃ value between, action.run host = (.ok value, between) ∧
      (next value).run between = (.ok result, after) :=
  Work.run_bind_eq_ok done

theorem run_ofExcept_ok {ε : Type} (wrap : ε → Failure) (value : α) (host : Host) :
    (ofExcept wrap (.ok value)).run host = (.ok value, host) := rfl

theorem snd_run_ofExcept {ε : Type} (wrap : ε → Failure) (result : Except ε α) (host : Host) :
    ((ofExcept wrap result).run host).2 = host := by
  cases result <;> rfl

theorem run_ofExcept_eq_ok {ε : Type} {wrap : ε → Failure} {result : Except ε α}
    {host after : Host} {value : α} (done : (ofExcept wrap result).run host = (.ok value, after)) :
    result = .ok value ∧ after = host := by
  cases result with
  | ok given => cases done; exact ⟨rfl, rfl⟩
  | error error => cases done

theorem run_ofFiles (action : FileAction α) (host : Host) :
    (ofFiles action).run host =
      match action.run host.files with
      | (.ok value, files) => (.ok value, { host with files })
      | (.error error, files) => (.error (.file error), { host with files }) := by
  change ((action.run host.files).1.mapError Failure.file,
    { host with files := (action.run host.files).2 }) = _
  cases action.run host.files with
  | mk result files => cases result <;> rfl

theorem snd_run_ofFiles_bind_pure (action : FileAction β) (value : α) (host : Host) :
    ((ofFiles action >>= fun _ => pure value : HostAction α).run host).2 =
      { host with files := (action.run host.files).2 } := by
  rw [run_bind, run_ofFiles]
  cases action.run host.files with
  | mk result files => cases result <;> rfl

theorem run_ofFiles_eq_ok {action : FileAction α} {host after : Host} {value : α}
    (done : (ofFiles action).run host = (.ok value, after)) :
    ∃ files, action.run host.files = (.ok value, files) ∧ after = { host with files } := by
  rw [run_ofFiles] at done
  cases ran : action.run host.files with
  | mk result files =>
      rw [ran] at done
      cases result with
      | ok given => cases done; exact ⟨files, rfl, rfl⟩
      | error error => cases done

theorem run_exists (path : Pathname) (host : Host) :
    («exists» path).run host =
      match host.files.exists path with
      | .ok there => (.ok there, host)
      | .error error => (.error (.file error), host) := by
  change (ofExcept Failure.file (host.files.exists path)).run host = _
  cases host.files.exists path <;> rfl

theorem run_read (path : Pathname) (host : Host) :
    (read path).run host =
      match host.files.read path with
      | .ok content => (.ok content, host)
      | .error error => (.error (.file error), host) := by
  change (ofExcept Failure.file (host.files.read path)).run host = _
  cases host.files.read path <;> rfl

end AppletPage.HostAction
