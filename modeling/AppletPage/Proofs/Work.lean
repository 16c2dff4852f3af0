/-! How work on a state runs, step by step. It ends with a result or a failure, and leaves the state
as it has made it either way. -/

namespace AppletPage

theorem eq_ok_of_toOption {ε α : Type} {result : Except ε α} {value : α}
    (there : result.toOption = some value) : result = .ok value := by
  cases result with
  | error error => cases there
  | ok given => cases there; rfl

theorem eq_ok_of_fst {ε σ α : Type} {outcome : Except ε α × σ} {value : α}
    (there : outcome.1.toOption = some value) : outcome = (.ok value, outcome.2) :=
  Prod.ext (eq_ok_of_toOption there) rfl

namespace Work

variable {ε σ α β : Type}

theorem run_get (state : σ) : (get : ExceptT ε (StateM σ) σ).run state = (.ok state, state) := rfl

theorem run_lift (result : Except ε α) (state : σ) :
    (liftM result : ExceptT ε (StateM σ) α).run state = (result, state) := by
  cases result <;> rfl

theorem run_bind (work : ExceptT ε (StateM σ) α) (next : α → ExceptT ε (StateM σ) β) (state : σ) :
    (work >>= next).run state =
      match work.run state with
      | (.ok value, between) => (next value).run between
      | (.error failure, between) => (.error failure, between) := by
  simp only [bind, ExceptT.bind, ExceptT.run, ExceptT.mk, StateT.bind]
  cases work state with
  | mk result between => cases result <;> rfl

theorem run_tryCatch (work : ExceptT ε (StateM σ) α) (handle : ε → ExceptT ε (StateM σ) α)
    (state : σ) :
    (tryCatch work handle).run state =
      match work.run state with
      | (.ok value, between) => (.ok value, between)
      | (.error failure, between) => (handle failure).run between := by
  simp only [tryCatch, tryCatchThe, MonadExceptOf.tryCatch, ExceptT.tryCatch, ExceptT.run,
    ExceptT.mk, bind, StateT.bind]
  cases work state with
  | mk result between => cases result <;> rfl

theorem run_bind_eq_ok {work : ExceptT ε (StateM σ) α} {next : α → ExceptT ε (StateM σ) β}
    {state after : σ} {result : β} (done : (work >>= next).run state = (.ok result, after)) :
    ∃ value between, work.run state = (.ok value, between) ∧
      (next value).run between = (.ok result, after) := by
  rw [run_bind] at done
  split at done
  · next value between ran => exact ⟨value, between, ran, done⟩
  · cases done

theorem rel_run_bind (rel : σ → σ → Prop) (trans : ∀ {a b c}, rel a b → rel b c → rel a c)
    {work : ExceptT ε (StateM σ) α} {next : α → ExceptT ε (StateM σ) β} {state : σ}
    (first : rel state (work.run state).2)
    (second : ∀ value between, rel between ((next value).run between).2) :
    rel state ((work >>= next).run state).2 := by
  rw [run_bind]
  cases ran : work.run state with
  | mk result between =>
      rw [ran] at first
      cases result with
      | ok value => exact trans first (second value between)
      | error failure => exact first

theorem rel_run_tryCatch (rel : σ → σ → Prop) (trans : ∀ {a b c}, rel a b → rel b c → rel a c)
    {work : ExceptT ε (StateM σ) α} {handle : ε → ExceptT ε (StateM σ) α} {state : σ}
    (first : rel state (work.run state).2)
    (second : ∀ failure between, rel between ((handle failure).run between).2) :
    rel state ((tryCatch work handle).run state).2 := by
  rw [run_tryCatch]
  cases ran : work.run state with
  | mk result between =>
      rw [ran] at first
      cases result with
      | ok value => exact first
      | error failure => exact trans first (second failure between)

/-- From every state, work ends with a value of one kind or a failure of another. -/
def Ends (good : α → Prop) (bad : ε → Prop) (work : ExceptT ε (StateM σ) α) : Prop :=
  ∀ state, match (work.run state).1 with
    | .ok value => good value
    | .error failure => bad failure

variable {good : α → Prop} {bad : ε → Prop} {work : ExceptT ε (StateM σ) α}

theorem ends_pure {value : α} (fits : good value) :
    Ends good bad (pure value : ExceptT ε (StateM σ) α) := fun _ => fits

theorem ends_throw {failure : ε} (fits : bad failure) :
    Ends good bad (throw failure : ExceptT ε (StateM σ) α) := fun _ => fits

theorem Ends.bind {next : α → ExceptT ε (StateM σ) β} {last : β → Prop}
    (first : Ends good bad work) (second : ∀ value, good value → Ends last bad (next value)) :
    Ends last bad (work >>= next) := by
  intro state
  have ended := first state
  rw [run_bind]
  cases ran : work.run state with
  | mk result between =>
      rw [ran] at ended
      cases result with
      | ok value => exact second value ended between
      | error failure => exact ended

theorem Ends.tryCatch {handle : ε → ExceptT ε (StateM σ) α} {worse : ε → Prop}
    (first : Ends good bad work)
    (second : ∀ failure, bad failure → Ends good worse (handle failure)) :
    Ends good worse (tryCatch work handle) := by
  intro state
  have ended := first state
  rw [run_tryCatch]
  cases ran : work.run state with
  | mk result between =>
      rw [ran] at ended
      cases result with
      | ok value => exact ended
      | error failure => exact second failure ended between

end Work

end AppletPage
