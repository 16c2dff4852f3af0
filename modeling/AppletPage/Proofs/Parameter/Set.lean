import AppletPage.Parameter.Set

/-! Sets of parameters built from entries: which entries make a set, and what it holds. -/

namespace AppletPage

open Text

def foldedNames {ν : Type} (entries : List (String × ν)) : List String :=
  entries.map fun entry => lower entry.1

namespace ParameterSet

theorem map_entries_ofEntries (given : List (Json × Json)) :
    (ofEntries given).map entries = check [] given := by
  unfold ofEntries
  split
  · next checked => exact checked.symm
  · next checked => exact checked.symm

theorem ofEntries_eq_ok_iff {given : List (Json × Json)} {set : ParameterSet} :
    ofEntries given = .ok set ↔ check [] given = .ok set.entries := by
  rw [← map_entries_ofEntries]
  cases ofEntries given with
  | error => exact ⟨nofun, nofun⟩
  | ok found =>
      simp only [Except.map, Except.ok.injEq]
      exact ⟨congrArg entries, ext⟩

theorem checkName_string {name : String} (nonempty : name ≠ "") :
    checkName (.string name) =
      if hasBlank name then .error (.blankInName name) else .ok name := by
  rw [checkName, if_neg nonempty]

theorem check_textEntries {taken : List String} {entries : List (String × String)}
    (nonempty : ∀ entry ∈ entries, entry.1 ≠ "")
    (distinct : (foldedNames entries).Nodup)
    (apart : ∀ entry ∈ entries, lower entry.1 ∉ taken) :
    check taken (textEntries entries) =
      match entries.find? fun entry => hasBlank entry.1 with
      | none => .ok entries
      | some entry => .error (.blankInName entry.1) := by
  induction entries generalizing taken with
  | nil => rfl
  | cons entry rest ih =>
      obtain ⟨name, value⟩ := entry
      simp only [foldedNames, List.map_cons, List.nodup_cons, List.mem_map, not_exists, not_and]
        at distinct
      have named := checkName_string (nonempty (name, value) List.mem_cons_self)
      cases blank : hasBlank name with
      | true => simp [textEntries, check, named, blank]
      | false =>
          have fresh : lower name ∉ taken := apart (name, value) List.mem_cons_self
          have apart' : ∀ other ∈ rest, lower other.1 ∉ lower name :: taken := by
            intro other member old
            rcases List.mem_cons.mp old with same | old
            · exact distinct.1 other member same
            · exact apart other (List.mem_cons_of_mem _ member) old
          have others := ih (fun other member => nonempty other (List.mem_cons_of_mem _ member))
            distinct.2 apart'
          simp only [textEntries, List.map_cons, check, named, blank, checkValue, fresh,
            Bool.false_eq_true, if_false, List.find?_cons] at others ⊢
          rw [others]
          cases rest.find? fun entry => hasBlank entry.1 <;> rfl

theorem ofList_entries (set : ParameterSet) : ofList set.entries = .ok set := by
  rw [ofList, ofEntries_eq_ok_iff, check_textEntries
    (fun entry member => (set.wellNamed entry member).nonempty) set.distinct (by simp)]
  have unbroken : (set.entries.find? fun entry => hasBlank entry.1) = none :=
    List.find?_eq_none.mpr fun entry member => by
      simp [(set.wellNamed entry member).unbroken]
  rw [unbroken]

theorem eq_of_checkName_string {name text : String} (named : checkName (.string name) = .ok text) :
    text = name := by
  rw [checkName] at named
  split at named
  · cases named
  · split at named
    · cases named
    · cases named
      rfl

theorem eq_of_check_textEntries {taken : List String} {given entries : List (String × String)}
    (checked : check taken (textEntries given) = .ok entries) : entries = given := by
  induction given generalizing taken entries with
  | nil => cases checked; rfl
  | cons entry rest ih =>
      obtain ⟨name, value⟩ := entry
      simp only [textEntries, List.map_cons, check, checkValue] at checked ih
      split at checked
      · cases checked
      · next text named =>
        split at checked
        · cases checked
        · split at checked
          · cases checked
          · next others read =>
            cases checked
            rw [ih read, eq_of_checkName_string named]

theorem entries_of_ofList {given : List (String × String)} {set : ParameterSet}
    (made : ofList given = .ok set) : set.entries = given :=
  eq_of_check_textEntries (ofEntries_eq_ok_iff.mp made)

theorem find?_name {entries : List (String × String)} (distinct : (foldedNames entries).Nodup)
    {entry : String × String} (member : entry ∈ entries) :
    entries.find? (fun other => other.1 = entry.1) = some entry := by
  induction entries with
  | nil => cases member
  | cons first rest ih =>
      obtain ⟨new, distinct⟩ := List.nodup_cons.mp distinct
      rcases List.mem_cons.mp member with rfl | member
      · exact List.find?_cons_of_pos (decide_eq_true rfl)
      · have differs : first.1 ≠ entry.1 := fun same =>
          new (List.mem_map.mpr ⟨entry, member, congrArg lower same.symm⟩)
        rw [List.find?_cons_of_neg (by simpa using differs), ih distinct member]

theorem get?_of_mem {set : ParameterSet} {entry : String × String} (member : entry ∈ set.entries) :
    set.get? entry.1 = some entry.2 := by
  rw [get?, Mapping.get?, find?_name set.distinct member, Option.map_some]

theorem get?_eq_some_iff {set : ParameterSet} {name value : String} :
    set.get? name = some value ↔ (name, value) ∈ set.entries := by
  constructor
  · intro found
    obtain ⟨entry, first, rfl⟩ := Option.map_eq_some_iff.mp found
    have same : entry.1 = name := by simpa using List.find?_some first
    exact same ▸ List.mem_of_find?_eq_some first
  · exact get?_of_mem

theorem mem_names_of_get? {set : ParameterSet} {name value : String}
    (found : set.get? name = some value) : name ∈ set.names :=
  List.mem_map.mpr ⟨(name, value), get?_eq_some_iff.mp found, rfl⟩

theorem toMapping_eq (set : ParameterSet) : set.toMapping = set.entries := by
  have apart : ∀ name other : String, lower name ≠ lower other → name ≠ other :=
    fun _ _ differ same => differ (congrArg lower same)
  refine Mapping.ofList_of_nodup (List.Pairwise.of_map lower apart ?_)
  rw [List.map_map]
  exact set.distinct

end ParameterSet

end AppletPage
