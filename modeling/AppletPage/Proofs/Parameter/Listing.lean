import AppletPage.Proofs.Parameter.Plugin
import AppletPage.Proofs.Parameter.Set
import Mathlib.Data.List.Nodup
import Mathlib.Data.List.Perm.Subperm

/-! The list of plugins that a set holds, when it is read and when it is refused, and how many
entries are asked for until that is known. -/

namespace AppletPage

open Text

/-- The errors of a list of plugins, as against a count with more digits than are read. -/
def PluginError.IsOfList : PluginError → Prop
  | .badCount _ | .missing .. => True
  | .longCount _ => False

namespace Plugin

/-! Counts. -/

/-- A text that is a number in digits, with blanks around it or none. -/
structure IsNumber (text : String) : Prop where
  nonempty : trim text ≠ ""
  digits : ∀ c ∈ (trim text).toList, isDigit c = true

def numberOf (text : String) : Nat := natOfDigits (trim text).toList

theorem isNumber_iff {text : String} :
    IsNumber text ↔ ((trim text).toList.isEmpty || !(trim text).toList.all isDigit) = false := by
  rw [Bool.or_eq_false_iff, Bool.not_eq_false', List.all_eq_true, List.isEmpty_eq_false_iff,
    ne_eq, String.toList_eq_nil_iff]
  exact ⟨fun number => ⟨number.nonempty, number.digits⟩, fun given => ⟨given.1, given.2⟩⟩

theorem readCount_of_number {text : String} (number : IsNumber text) :
    readCount text =
      if Json.digitLimit < (trim text).length then .error (.longCount (trim text).length)
      else .ok (numberOf text) := by
  have digits := isNumber_iff.mp number
  rw [readCount, ← toList_trim, if_neg (by simp [digits]), String.length_toList, numberOf]

theorem readCount_of_other {text : String} (other : ¬ IsNumber text) :
    readCount text = .error (.badCount text) := by
  have strays := eq_true_of_ne_false (mt isNumber_iff.mpr other)
  rw [readCount, ← toList_trim, if_pos strays]

/-! Class names below a count. -/

theorem classname?_eq_some_iff {set : ParameterSet} {index : Nat} {name : String} :
    classname? set index = some name ↔
      ∃ value, set.get? (classnameKey index) = some value ∧ trim value ≠ "" ∧
        name = trim value := by
  rw [classname?]
  cases set.get? (classnameKey index) with
  | none => simp only [reduceCtorEq, false_and, exists_false]
  | some value =>
      simp only [Option.ite_none_left_eq_some, Option.some.injEq, exists_eq_left', ne_eq,
        eq_comm (a := name)]

theorem readFrom_eq_ok_iff {set : ParameterSet} {count left index : Nat} {names : List String} :
    readFrom set count left index = .ok names ↔
      (List.range' index left).map (classname? set) = names.map some := by
  induction left generalizing index names with
  | zero =>
      rw [readFrom, List.range'_zero]
      cases names <;> simp only [List.map_nil, List.map_cons, Except.ok.injEq, reduceCtorEq]
  | succ left ih =>
      rw [readFrom, List.range'_succ, List.map_cons]
      cases classname? set index with
      | none =>
          cases names <;> simp only [List.map_nil, List.map_cons, List.cons.injEq, reduceCtorEq,
            false_and]
      | some name =>
          cases names with
          | nil =>
              refine iff_of_false (fun read => ?_) (List.cons_ne_nil _ _)
              dsimp only at read
              split at read <;> cases read
          | cons first rest =>
              rw [List.map_cons, List.cons.injEq, ← ih, Option.some.injEq]
              cases readFrom set count left (index + 1) with
              | error error => simp only [reduceCtorEq, and_false]
              | ok others => simp only [Except.ok.injEq, List.cons.injEq]

theorem readFrom_eq_error {set : ParameterSet} {count left index : Nat} {error : PluginError}
    (refused : readFrom set count left index = .error error) :
    ∃ missed, error = .missing missed count := by
  induction left generalizing index with
  | zero => cases refused
  | succ left ih =>
      rw [readFrom] at refused
      split at refused
      · cases refused
        exact ⟨index, rfl⟩
      · split at refused
        · next other =>
          cases refused
          exact ih other
        · cases refused

/-! The whole list. -/

/-- The class names that a set lists: none without a count, and else one for each number below it,
trimmed, where none is missing or blank. -/
def Lists (set : ParameterSet) (names : List String) : Prop :=
  (set.get? countKey = none ∧ names = []) ∨
    ∃ text, set.get? countKey = some text ∧ IsNumber text ∧ numberOf text = names.length ∧
      ∀ (index : Nat) (inside : index < names.length), ∃ value,
        set.get? (classnameKey index) = some value ∧ trim value ≠ "" ∧ names[index] = trim value

/-- A set whose count has more digits than are read. -/
def HasLongCount (set : ParameterSet) : Prop :=
  ∃ text, set.get? countKey = some text ∧ IsNumber text ∧ Json.digitLimit < (trim text).length

theorem map_classname?_eq_iff {set : ParameterSet} {count : Nat} {names : List String} :
    (List.range' 0 count).map (classname? set) = names.map some ↔
      count = names.length ∧ ∀ (index : Nat) (inside : index < names.length), ∃ value,
        set.get? (classnameKey index) = some value ∧ trim value ≠ "" ∧
          names[index] = trim value := by
  simp only [← classname?_eq_some_iff]
  constructor
  · intro same
    have lengths := congrArg List.length same
    rw [List.length_map, List.length_range', List.length_map] at lengths
    refine ⟨lengths, fun index inside => ?_⟩
    have here := congrArg (·[index]?) same
    simpa [List.getElem?_range', lengths, inside] using here
  · rintro ⟨rfl, found⟩
    refine List.ext_getElem (by simp) fun index inside _ => ?_
    simpa using found index (by simpa using inside)

theorem lists_of_uncounted {set : ParameterSet} (uncounted : set.get? countKey = none)
    {names : List String} : Lists set names ↔ names = [] := by
  simp [Lists, uncounted]

theorem lists_of_counted {set : ParameterSet} {text : String}
    (counted : set.get? countKey = some text) {names : List String} :
    Lists set names ↔
      IsNumber text ∧
        (List.range' 0 (numberOf text)).map (classname? set) = names.map some := by
  rw [map_classname?_eq_iff]
  simp [Lists, counted]

theorem hasLongCount_of_counted {set : ParameterSet} {text : String}
    (counted : set.get? countKey = some text) :
    HasLongCount set ↔ IsNumber text ∧ Json.digitLimit < (trim text).length := by
  simp [HasLongCount, counted]

/-! How much is asked for. -/

def nameOf? (value? : Option String) : Option String :=
  value?.bind fun value => if trim value = "" then none else some (trim value)

section Asking

variable {m : Type → Type} [Monad m] (ask : String → m (Option String))

/-- Reading class names by asking for one value after another. -/
def askFrom (count : Nat) : (left index : Nat) → m (Except PluginError (List String))
  | 0, _ => pure (.ok [])
  | left + 1, index => do
      match nameOf? (← ask (classnameKey index)) with
      | none => return .error (.missing index count)
      | some name => return (← askFrom count left (index + 1)).map (name :: ·)

/-- Reading the list of plugins where nothing of a set is seen but the values that are asked for. -/
def askAll : m (Except PluginError (List String)) := do
  match ← ask countKey with
  | none => return .ok []
  | some text =>
      match readCount text with
      | .error error => return .error error
      | .ok count => askFrom ask count count 0

end Asking

def noted (set : ParameterSet) (key : String) : StateM (List String) (Option String) :=
  fun keys => (set.get? key, keys ++ [key])

/-- What is read of a set, and the keys that have been asked for in order. -/
def asked (set : ParameterSet) : Except PluginError (List String) × List String :=
  (askAll (noted set)).run []

def keysFrom (set : ParameterSet) : (left index : Nat) → List String
  | 0, _ => []
  | left + 1, index =>
      classnameKey index ::
        if (classname? set index).isSome then keysFrom set left (index + 1) else []

theorem nameOf?_get? (set : ParameterSet) (index : Nat) :
    nameOf? (set.get? (classnameKey index)) = classname? set index := by
  rw [classname?]
  cases set.get? (classnameKey index) <;> rfl

theorem noted_bind {α : Type} (set : ParameterSet) (key : String)
    (next : Option String → StateM (List String) α) (keys : List String) :
    (noted set key >>= next) keys = next (set.get? key) (keys ++ [key]) := rfl

theorem askFrom_noted (set : ParameterSet) (count left index : Nat) (keys : List String) :
    askFrom (noted set) count left index keys =
      (readFrom set count left index, keys ++ keysFrom set left index) := by
  induction left generalizing index keys with
  | zero => rw [keysFrom, List.append_nil]; rfl
  | succ left ih =>
      rw [askFrom, noted_bind, nameOf?_get?, readFrom, keysFrom]
      cases classname? set index with
      | none => rfl
      | some name =>
          have others := ih (index + 1) (keys ++ [classnameKey index])
          change ((askFrom (noted set) count left (index + 1) (keys ++ [classnameKey index])).1.map
            (name :: ·), (askFrom (noted set) count left (index + 1) _).2) = _
          rw [others, List.append_assoc]
          cases readFrom set count left (index + 1) <;> rfl

def askedKeys (set : ParameterSet) : List String :=
  countKey :: match (set.get? countKey).map readCount with
    | some (.ok count) => keysFrom set count 0
    | _ => []

theorem asked_eq (set : ParameterSet) : asked set = (set.plugins, askedKeys set) := by
  change askAll (noted set) [] = _
  rw [askAll, noted_bind, ParameterSet.plugins, askedKeys]
  cases set.get? countKey with
  | none => rfl
  | some text =>
      rw [Option.map_some]
      dsimp only
      cases readCount text with
      | error error => rfl
      | ok count => exact askFrom_noted set count count 0 [countKey]

theorem keysFrom_prefix_range (set : ParameterSet) (left index : Nat) :
    keysFrom set left index <+: (List.range' index left).map classnameKey := by
  induction left generalizing index with
  | zero => exact List.prefix_rfl
  | succ left ih =>
      rw [keysFrom, List.range'_succ, List.map_cons, List.prefix_cons_inj]
      split
      · exact ih (index + 1)
      · exact List.nil_prefix

theorem nodup_keysFrom (set : ParameterSet) (left index : Nat) :
    (countKey :: keysFrom set left index).Nodup := by
  have distinct : ((List.range' index left).map classnameKey).Nodup :=
    List.Nodup.map (fun _ _ => classnameKey_injective) List.nodup_range'
  have kept := (keysFrom_prefix_range set left index).sublist
  refine List.nodup_cons.mpr ⟨fun member => ?_, distinct.sublist kept⟩
  obtain ⟨number, -, same⟩ := List.mem_map.mp (kept.mem member)
  exact countKey_ne_classnameKey number same.symm

/-- All class names that are asked for are there, the last perhaps aside. -/
theorem exists_keysFrom (set : ParameterSet) (left index : Nat) :
    ∃ found last, keysFrom set left index = found ++ last ∧ last.length ≤ 1 ∧
      ∀ key ∈ found, key ∈ set.names := by
  induction left generalizing index with
  | zero => exact ⟨[], [], rfl, Nat.zero_le 1, nofun⟩
  | succ left ih =>
      rw [keysFrom]
      cases name? : classname? set index with
      | none => exact ⟨[], [classnameKey index], rfl, Nat.le_refl 1, nofun⟩
      | some name =>
          obtain ⟨value, held, -⟩ := classname?_eq_some_iff.mp name?
          obtain ⟨found, last, keys, short, there⟩ := ih (index + 1)
          have more := congrArg (classnameKey index :: ·) keys
          refine ⟨classnameKey index :: found, last, more, short, ?_⟩
          exact List.forall_mem_cons.mpr ⟨ParameterSet.mem_names_of_get? held, there⟩

/-- At most one more key is asked for than the set has entries, since no key is asked for twice. -/
theorem length_askedKeys_le (set : ParameterSet) : (askedKeys set).length ≤ set.size + 1 := by
  have size : set.names.length = set.size := List.length_map _
  rw [askedKeys]
  split
  · next count read =>
    obtain ⟨text, counted, -⟩ := Option.map_eq_some_iff.mp read
    obtain ⟨found, last, keys, short, there⟩ := exists_keysFrom set count 0
    have distinct : (countKey :: found).Nodup := by
      have all := nodup_keysFrom set count 0
      rw [keys, ← List.cons_append] at all
      exact all.of_append_left
    have inside : countKey :: found ⊆ set.names :=
      List.forall_mem_cons.mpr ⟨ParameterSet.mem_names_of_get? counted, there⟩
    have bound := (distinct.subperm inside).length_le
    rw [size, List.length_cons] at bound
    rw [keys, List.length_cons, List.length_append]
    omega
  · rw [List.length_singleton]
    omega

/-! What becomes of a list. -/

theorem plugins_of_long {set : ParameterSet} (long : HasLongCount set) :
    ∃ digits, set.plugins = .error (.longCount digits) := by
  obtain ⟨text, counted, number, many⟩ := long
  refine ⟨(trim text).length, ?_⟩
  rw [ParameterSet.plugins, counted]
  simp only [readCount_of_number number, if_pos many]

theorem plugins_eq_ok_iff {set : ParameterSet} (short : ¬ HasLongCount set)
    {names : List String} : set.plugins = .ok names ↔ Lists set names := by
  rw [ParameterSet.plugins]
  cases counted : set.get? countKey with
  | none => rw [lists_of_uncounted counted, Except.ok.injEq, eq_comm]
  | some text =>
      rw [lists_of_counted counted]
      dsimp only
      by_cases number : IsNumber text
      · rw [hasLongCount_of_counted counted, not_and] at short
        rw [readCount_of_number number, if_neg (short number), and_iff_right number]
        exact readFrom_eq_ok_iff
      · rw [readCount_of_other number]
        simp only [reduceCtorEq, number, false_and]

theorem isOfList_of_plugins {set : ParameterSet} (short : ¬ HasLongCount set)
    {error : PluginError} (refused : set.plugins = .error error) : error.IsOfList := by
  rw [ParameterSet.plugins] at refused
  cases counted : set.get? countKey with
  | none => rw [counted] at refused; cases refused
  | some text =>
      rw [counted] at refused
      dsimp only at refused
      by_cases number : IsNumber text
      · rw [hasLongCount_of_counted counted, not_and] at short
        rw [readCount_of_number number, if_neg (short number)] at refused
        obtain ⟨missed, rfl⟩ := readFrom_eq_error refused
        exact trivial
      · rw [readCount_of_other number] at refused
        cases refused
        exact trivial

end Plugin

/-- A list of plugins is read exactly if the set lists it and its count has no more digits than are
read, and refused as a list exactly if only the list is at fault. However large the count, at most
one more key is asked for than the set has entries. -/
theorem ParameterSet.plugins_outcome (set : ParameterSet) :
    (∀ names, set.plugins = .ok names ↔ Plugin.Lists set names ∧ ¬ Plugin.HasLongCount set) ∧
    (∀ error, set.plugins = .error error → (error.IsOfList ↔ ¬ Plugin.HasLongCount set)) ∧
    (Plugin.asked set).1 = set.plugins ∧ (Plugin.asked set).2.length ≤ set.size + 1 := by
  rw [Plugin.asked_eq]
  refine ⟨fun names => ?_, fun error refused => ?_, rfl, Plugin.length_askedKeys_le set⟩
  · by_cases long : Plugin.HasLongCount set
    · obtain ⟨digits, refused⟩ := Plugin.plugins_of_long long
      rw [refused]
      exact iff_of_false nofun fun given => given.2 long
    · rw [Plugin.plugins_eq_ok_iff long]
      exact (and_iff_left long).symm
  · by_cases long : Plugin.HasLongCount set
    · obtain ⟨digits, tooLong⟩ := Plugin.plugins_of_long long
      rw [tooLong] at refused
      cases refused
      exact iff_of_false id fun short => short long
    · exact iff_of_true (Plugin.isOfList_of_plugins long refused) long

def Plugin.paddedDigits : List Char := List.replicate 4300 '0' ++ ['1']

theorem Plugin.trim_paddedDigits : (trim (String.ofList paddedDigits)).toList = paddedDigits := by
  have digits : paddedDigits.all isDigit = true := by decide +kernel
  rw [toList_trim, String.toList_ofList, trimBy_of_kept fun c member =>
    isBlank_of_isDigit (List.all_eq_true.mp digits c member)]

/-- Needless zeros before a count keep the list from being read, and not the list is at fault. -/
theorem ParameterSet.plugins_outcome_padded :
    ∃ set : ParameterSet,
      set.entries =
        [(Plugin.countKey, String.ofList Plugin.paddedDigits), (Plugin.classnameKey 0, "a.B")] ∧
      Plugin.Lists set ["a.B"] ∧ (∀ names, set.plugins ≠ .ok names) ∧
      ∀ error, set.plugins = .error error → ¬ error.IsOfList := by
  let set : ParameterSet :=
    ⟨[(Plugin.countKey, String.ofList Plugin.paddedDigits), (Plugin.classnameKey 0, "a.B")],
      by decide, by decide⟩
  have trimmed := Plugin.trim_paddedDigits
  have many : Plugin.paddedDigits.length = 4301 := by decide +kernel
  have number : Plugin.IsNumber (String.ofList Plugin.paddedDigits) := by
    rw [Plugin.isNumber_iff, trimmed]
    decide +kernel
  have value : Plugin.numberOf (String.ofList Plugin.paddedDigits) = 1 := by
    rw [Plugin.numberOf, trimmed]
    decide +kernel
  have counted : set.get? Plugin.countKey = some (String.ofList Plugin.paddedDigits) := rfl
  have member : (Plugin.classnameKey 0, "a.B") ∈ set.entries :=
    List.mem_of_mem_tail List.mem_cons_self
  have named := ParameterSet.get?_of_mem member
  have lists : Plugin.Lists set ["a.B"] := by
    refine .inr ⟨_, counted, number, value, fun index inside => ?_⟩
    obtain rfl : index = 0 := Nat.lt_one_iff.mp inside
    have trimmedName : "a.B" = trim "a.B" := by decide
    exact ⟨"a.B", named, by decide, trimmedName⟩
  have long : Plugin.HasLongCount set :=
    ⟨_, counted, number, by rw [← String.length_toList, trimmed, many]; decide⟩
  obtain ⟨whenRead, whenRefused, -⟩ := set.plugins_outcome
  refine ⟨set, rfl, lists, fun names read => ((whenRead names).mp read).2 long, ?_⟩
  exact fun error refused ofList => (whenRefused error refused).mp ofList long

end AppletPage
