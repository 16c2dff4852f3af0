import AppletPage.Parameter.Lookup
import AppletPage.Proofs.Parameter.Set

/-! What is found in a set: the values of its entries under their names, and nothing else. -/

namespace AppletPage.ParameterSet

variable {set : ParameterSet} {name : Json}

inductive Entry (set : ParameterSet) : Json → String → Prop where
  | held {name value : String} (member : (name, value) ∈ set.entries) :
      Entry set (.string name) value

theorem value?_eq_some_iff {value : String} :
    set.value? name = .ok (some value) ↔ Entry set name value := by
  constructor
  · intro found
    cases name with
    | string text => exact .held (get?_eq_some_iff.mp (Except.ok.inj found))
    | null | bool _ | integer _ | real _ | array _ | object _ => cases found
  · rintro ⟨member⟩
    rw [value?, get?_eq_some_iff.mpr member]

theorem value?_of_noKey (noKey : name.isKey = false) :
    set.value? name = .error (.noKey name.kind) := by
  cases name with
  | array _ | object _ => rfl
  | null | bool _ | integer _ | real _ | string _ => cases noKey

theorem value?_of_missing (key : name.isKey = true) (missing : ∀ value, ¬ Entry set name value) :
    set.value? name = .ok none := by
  cases name with
  | string text =>
      have absent : set.get? text = none :=
        Option.eq_none_iff_forall_ne_some.mpr fun value found =>
          missing value (.held (get?_eq_some_iff.mp found))
      rw [value?, absent]
  | null | bool _ | integer _ | real _ => rfl
  | array _ | object _ => cases key

/-- The ways of looking up agree with the entries: the value of an entry is found under its name,
nothing is found under other names, and what is no key is refused. -/
structure FindsEntries (set : ParameterSet) : Prop where
  value?_eq : ∀ name value, set.value? name = .ok (some value) ↔ Entry set name value
  valueAt_eq : ∀ name value, set.valueAt name = .ok value ↔ Entry set name value
  has_eq : ∀ name, set.has name = .ok true ↔ ∃ value, Entry set name value
  found : ∀ name value other, Entry set name value → set.valueOr name other = .ok (.string value)
  missing : ∀ name other, name.isKey = true → (∀ value, ¬ Entry set name value) →
    set.valueOr name other = .ok other ∧ set.valueAt name = .error (.missing name) ∧
      set.has name = .ok false
  refused : ∀ name other, name.isKey = false →
    set.valueOr name other = .error (.noKey name.kind) ∧
      set.valueAt name = .error (.noKey name.kind) ∧ set.has name = .error (.noKey name.kind)

theorem valueAt_eq_ok_iff {value : String} :
    set.valueAt name = .ok value ↔ set.value? name = .ok (some value) := by
  rw [valueAt]
  cases set.value? name with
  | error error => simp only [reduceCtorEq]
  | ok found => cases found <;> simp only [reduceCtorEq, Except.ok.injEq, Option.some.injEq]

theorem has_eq_true_iff :
    set.has name = .ok true ↔ ∃ value, set.value? name = .ok (some value) := by
  rw [has]
  cases set.value? name with
  | error error => simp only [Except.map, reduceCtorEq, exists_false]
  | ok found =>
      simp only [Except.map, Except.ok.injEq, Option.isSome_iff_exists]

theorem findsEntries (set : ParameterSet) : FindsEntries set where
  value?_eq _ _ := value?_eq_some_iff
  valueAt_eq _ _ := valueAt_eq_ok_iff.trans value?_eq_some_iff
  has_eq name := by simp only [has_eq_true_iff, value?_eq_some_iff]
  found name value other entry := by
    rw [valueOr, value?_eq_some_iff.mpr entry]
    rfl
  missing name other key missing := by
    have nothing := value?_of_missing key missing
    rw [valueOr, valueAt, has, nothing]
    exact ⟨rfl, rfl, rfl⟩
  refused name other noKey := by
    have refused := @value?_of_noKey set name noKey
    rw [valueOr, valueAt, has, refused]
    exact ⟨rfl, rfl, rfl⟩

end AppletPage.ParameterSet
