import AppletPage.Page.Basic
import AppletPage.Proofs.Parameter.Set
import AppletPage.Proofs.Text.Blank

/-! Reading plugins back from the entries that were written for them. -/

namespace AppletPage

open Text

namespace Plugin

/-! Names of the entries of plugins. -/

theorem toList_classnameKey (index : Nat) :
    (classnameKey index).toList =
      "plugins.".toList ++ Nat.toDigits 10 index ++ ".classname".toList := by
  delta classnameKey
  rw [String.toList_append, String.toList_append, toList_toString]

theorem classnameKey_injective {index other : Nat}
    (same : classnameKey index = classnameKey other) : index = other := by
  have chars := congrArg String.toList same
  rw [toList_classnameKey, toList_classnameKey, List.append_cancel_right_eq,
    List.append_cancel_left_eq] at chars
  rw [← natOfDigits_toDigits index, chars, natOfDigits_toDigits]

theorem countKey_ne_classnameKey (index : Nat) : countKey ≠ classnameKey index := by
  intro same
  have last := congrArg (fun key => key.toList.getLast?) same
  simp only [toList_classnameKey, List.getLast?_append] at last
  cases last

/-! What is read back of class names that were written. -/

def countDigits (names : List String) : Nat := (toString names.length).length

/-- What is read of class names that stand under their numbers: each without blanks around it, if
none is blank. -/
def readBack (names : List String) : Except PluginError (List String) :=
  if Json.digitLimit < countDigits names then .error (.longCount (countDigits names))
  else
    match names.findIdx? (fun name => trim name = "") with
    | some index => .error (.missing index names.length)
    | none => .ok (names.map trim)

theorem readBack_eq_ok_iff {names read : List String} :
    readBack names = .ok read ↔
      countDigits names ≤ Json.digitLimit ∧ (∀ name ∈ names, trim name ≠ "") ∧
        read = names.map trim := by
  rw [readBack]
  by_cases long : Json.digitLimit < countDigits names
  · rw [if_pos long]
    exact iff_of_false nofun fun short => Nat.not_le.mpr long short.1
  · rw [if_neg long]
    cases found : names.findIdx? (fun name => trim name = "") with
    | some index =>
        refine iff_of_false nofun fun clean => ?_
        have unblank := List.findIdx?_eq_none_iff.mpr fun name member =>
          decide_eq_false (clean.2.1 name member)
        rw [found] at unblank
        cases unblank
    | none =>
        have clean : ∀ name ∈ names, trim name ≠ "" := fun name member =>
          of_decide_eq_false (List.findIdx?_eq_none_iff.mp found name member)
        simp only [Except.ok.injEq]
        exact ⟨fun same => ⟨Nat.not_lt.mp long, clean, same.symm⟩, fun given => given.2.2.symm⟩

theorem readBack_eq_ok_self_iff {names : List String} :
    readBack names = .ok names ↔
      countDigits names ≤ Json.digitLimit ∧ ∀ name ∈ names, trim name ≠ "" ∧ trim name = name := by
  have same : names = names.map trim ↔ ∀ name ∈ names, trim name = name := by
    rw [eq_comm]
    simpa only [List.map_id, id] using List.map_inj_left (f := trim) (g := id) (l := names)
  rw [readBack_eq_ok_iff, same]
  exact and_congr_right fun _ =>
    ⟨fun given name member => ⟨given.1 name member, given.2 name member⟩,
      fun given => ⟨fun name member => (given name member).1,
        fun name member => (given name member).2⟩⟩

theorem readBack_eq_missing {names : List String} (short : countDigits names ≤ Json.digitLimit)
    {index : Nat} (inside : index < names.length) (blank : trim names[index] = "")
    (first : ∀ earlier (before : earlier < index), trim names[earlier] ≠ "") :
    readBack names = .error (.missing index names.length) := by
  have found : names.findIdx? (fun name => trim name = "") = some index :=
    List.findIdx?_eq_some_iff_getElem.mpr
      ⟨inside, decide_eq_true blank, fun earlier before => by simpa using first earlier before⟩
  rw [readBack, if_neg (Nat.not_lt.mpr short), found]

theorem readCount_toString (n : Nat) :
    readCount (toString n) =
      if Json.digitLimit < (toString n).length then .error (.longCount (toString n).length)
      else .ok n := by
  have digits : (Nat.toDigits 10 n).all isDigit = true :=
    List.all_eq_true.mpr fun _ member => isDigit_of_mem_toDigits member
  have nonempty : (Nat.toDigits 10 n).isEmpty = false :=
    List.isEmpty_eq_false_iff.mpr Nat.toDigits_ne_nil
  have length : (toString n).length = (Nat.toDigits 10 n).length := by
    rw [← String.length_toList, toList_toString]
  simp only [readCount, toList_toString, trimBy_toDigits, digits, nonempty, natOfDigits_toDigits,
    length, Bool.not_true, Bool.or_false, Bool.false_eq_true, if_false]

theorem readFrom_pluginEntries {set : ParameterSet} {names : List String} (count index : Nat)
    (held : ∀ entry ∈ Page.pluginEntries index names, set.get? entry.1 = some entry.2) :
    readFrom set count names.length index =
      match names.findIdx? (fun name => trim name = "") with
      | some blank => .error (.missing (index + blank) count)
      | none => .ok (names.map trim) := by
  induction names generalizing index with
  | nil => rfl
  | cons name rest ih =>
      have here := held (classnameKey index, name) List.mem_cons_self
      have others := ih (index + 1) fun entry member => held entry (List.mem_cons_of_mem _ member)
      rw [List.length_cons, readFrom, classname?, here, List.findIdx?_cons]
      by_cases blank : trim name = ""
      · simp only [blank, if_true, decide_true, Nat.add_zero]
      · simp only [blank, if_false, decide_false, Bool.false_eq_true, others]
        cases rest.findIdx? (fun name => trim name = "") with
        | none => rfl
        | some found => simp only [Option.map_some, Nat.add_assoc, Nat.add_comm 1]

end Plugin

theorem ParameterSet.plugins_eq_readBack {set : ParameterSet} {names : List String}
    (count : set.get? Plugin.countKey = some (toString names.length))
    (held : ∀ entry ∈ Page.pluginEntries 0 names, set.get? entry.1 = some entry.2) :
    set.plugins = Plugin.readBack names := by
  rw [plugins, count]
  simp only [Plugin.readCount_toString, Plugin.readBack, Plugin.countDigits]
  by_cases long : Json.digitLimit < (toString names.length).length
  · simp only [long, if_true]
  · simp only [long, if_false, Plugin.readFrom_pluginEntries _ _ held, Nat.zero_add]

end AppletPage
