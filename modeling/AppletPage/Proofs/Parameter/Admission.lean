import AppletPage.Proofs.Parameter.Lookup
import Mathlib.Data.List.Induction

/-! Which entries make a set, and for which entry others are refused. One pass over the entries
keeps their names in small letters and their values under their names; behind every entry, what it
keeps agrees with the entries up to there. -/

namespace AppletPage

open Text

namespace ParameterSet

/-- A text of one character or more, none of them blank. -/
inductive IsName : Json → Prop where
  | text {name : String} (nonempty : name ≠ "") (unbroken : ∀ c ∈ name.toList, isBlank c = false) :
      IsName (.string name)

inductive Clash : Json → Json → Prop where
  | folded {name other : String} (same : lower name = lower other) :
      Clash (.string name) (.string other)

/-- Entries that make a set: texts under names, of which no two clash. -/
structure Orderly (given : List (Json × Json)) : Prop where
  named : ∀ entry ∈ given, IsName entry.1
  valued : ∀ entry ∈ given, ∃ text, entry.2 = .string text
  apart : given.Pairwise fun entry later => ¬ Clash entry.1 later.1

inductive Misnamed : Json → ParameterError → Prop where
  | noText {name : Json} (other : ∀ text, name ≠ .string text) : Misnamed name .emptyName
  | empty : Misnamed (.string "") .emptyName
  | broken {name : String} {c : Char} (member : c ∈ name.toList) (blank : isBlank c = true) :
      Misnamed (.string name) (.blankInName name)

/-- What is wrong with an entry that stands behind others: its name, else its value, else that its
name has come before. -/
inductive Offends (before : List (Json × Json)) : Json × Json → ParameterError → Prop where
  | name {name value : Json} {error : ParameterError} (misnamed : Misnamed name error) :
      Offends before (name, value) error
  | value {name : String} {value : Json} (named : IsName (.string name))
      (other : ∀ text, value ≠ .string text) :
      Offends before (.string name, value) (.valueNotText name)
  | again {name value : String} {earlier : Json × Json} (named : IsName (.string name))
      (member : earlier ∈ before) (clash : Clash earlier.1 (.string name)) :
      Offends before (.string name, .string value) (.duplicateName name)

/-- What is wrong with the first entry that offends. -/
inductive FirstOffence : List (Json × Json) → ParameterError → Prop where
  | behind {before after : List (Json × Json)} {entry : Json × Json} {error : ParameterError}
      (orderly : Orderly before) (offends : Offends before entry error) :
      FirstOffence (before ++ entry :: after) error

/-! One entry by itself. -/

theorem checkName_eq_ok_iff {name : Json} {text : String} :
    checkName name = .ok text ↔ name = .string text ∧ IsName name := by
  constructor
  · intro named
    have wellNamed := wellNamed_of_checkName named
    cases name with
    | string given =>
        obtain rfl := eq_of_checkName_string named
        have unbroken := wellNamed.unbroken
        simp only [hasBlank, List.any_eq_false, Bool.not_eq_true] at unbroken
        exact ⟨rfl, .text wellNamed.nonempty unbroken⟩
    | null | bool _ | integer _ | real _ | array _ | object _ => cases named
  · rintro ⟨rfl, ⟨nonempty, unbroken⟩⟩
    have clean : hasBlank text = false := by
      simpa only [hasBlank, List.any_eq_false, Bool.not_eq_true] using unbroken
    rw [checkName_string nonempty, clean]
    rfl

theorem checkName_eq_error_iff {name : Json} {error : ParameterError} :
    checkName name = .error error ↔ Misnamed name error := by
  constructor
  · intro refused
    cases name with
    | string text =>
        by_cases empty : text = ""
        · rw [checkName, if_pos empty] at refused
          cases refused
          exact empty ▸ .empty
        · rw [checkName_string empty] at refused
          split at refused
          · next blank =>
            cases refused
            obtain ⟨c, member, blank⟩ := List.any_eq_true.mp blank
            exact .broken member blank
          · cases refused
    | null | bool _ | integer _ | real _ | array _ | object _ =>
        cases refused
        refine .noText fun text same => ?_
        cases same
  · intro misnamed
    cases misnamed with
    | noText other =>
        cases name with
        | string text => exact absurd rfl (other text)
        | null | bool _ | integer _ | real _ | array _ | object _ => rfl
    | empty => rfl
    | @broken text c member blank =>
        have nonempty : text ≠ "" := by
          rintro rfl
          cases member
        have broken : hasBlank text = true := List.any_eq_true.mpr ⟨c, member, blank⟩
        rw [checkName_string nonempty, if_pos broken]

theorem checkValue_eq_ok_iff {name text : String} {value : Json} :
    checkValue name value = .ok text ↔ value = .string text := by
  cases value <;> simp only [checkValue, Except.ok.injEq, Json.string.injEq, reduceCtorEq]

theorem checkValue_eq_error_iff {name : String} {value : Json} {error : ParameterError} :
    checkValue name value = .error error ↔
      (∀ text, value ≠ .string text) ∧ error = .valueNotText name := by
  cases value <;> simp [checkValue, eq_comm]

/-! Entries in order. -/

theorem orderly_nil : Orderly [] := ⟨nofun, nofun, .nil⟩

theorem orderly_concat_iff {given : List (Json × Json)} {entry : Json × Json} :
    Orderly (given ++ [entry]) ↔
      Orderly given ∧ IsName entry.1 ∧ (∃ text, entry.2 = .string text) ∧
        ∀ earlier ∈ given, ¬ Clash earlier.1 entry.1 := by
  constructor
  · rintro ⟨named, valued, apart⟩
    rw [List.forall_mem_append, List.forall_mem_singleton] at named valued
    rw [List.pairwise_append] at apart
    refine ⟨⟨named.1, valued.1, apart.1⟩, named.2, valued.2, fun earlier member => ?_⟩
    exact apart.2.2 earlier member entry List.mem_cons_self
  · rintro ⟨orderly, named, valued, new⟩
    refine ⟨?_, ?_, List.pairwise_append.mpr ⟨orderly.apart, List.pairwise_singleton _ _, ?_⟩⟩
    · exact List.forall_mem_append.mpr ⟨orderly.named, List.forall_mem_singleton.mpr named⟩
    · exact List.forall_mem_append.mpr ⟨orderly.valued, List.forall_mem_singleton.mpr valued⟩
    · exact fun earlier member => List.forall_mem_singleton.mpr (new earlier member)

theorem Misnamed.not_isName {name : Json} {error : ParameterError}
    (misnamed : Misnamed name error) : ¬ IsName name := by
  rintro ⟨nonempty, unbroken⟩
  cases misnamed with
  | noText other => exact other _ rfl
  | empty => exact nonempty rfl
  | broken member blank => exact absurd blank (by rw [unbroken _ member]; nofun)

theorem Offends.not_orderly {before : List (Json × Json)} {entry : Json × Json}
    {error : ParameterError} (offends : Offends before entry error) :
    ¬ Orderly (before ++ [entry]) := by
  rw [orderly_concat_iff]
  rintro ⟨-, named, ⟨text, valued⟩, new⟩
  cases offends with
  | name misnamed => exact misnamed.not_isName named
  | value _ other => exact other text valued
  | again _ member clash => exact new _ member clash

theorem FirstOffence.append {given : List (Json × Json)} {error : ParameterError}
    (offence : FirstOffence given error) (more : List (Json × Json)) :
    FirstOffence (given ++ more) error := by
  obtain ⟨orderly, offends⟩ := offence
  rw [List.append_assoc, List.cons_append]
  exact .behind orderly offends

/-! One pass over the entries. -/

/-- What is kept of the entries so far: their names in small letters, and their values under their
names. -/
structure Pass where
  folded : List String
  index : Mapping String String

namespace Pass

def start : Pass := ⟨[], []⟩

def keep (pass : Pass) (name value : String) : Pass :=
  ⟨lower name :: pass.folded, Mapping.put pass.index name value⟩

def add (pass : Pass) (entry : Json × Json) : Except ParameterError Pass :=
  match checkName entry.1 with
  | .error error => .error error
  | .ok name =>
      match checkValue name entry.2 with
      | .error error => .error error
      | .ok value =>
          if lower name ∈ pass.folded then .error (.duplicateName name)
          else .ok (pass.keep name value)

def run (given : List (Json × Json)) : Except ParameterError Pass := given.foldlM add start

def Covered (pass : Pass) : Prop := ∀ name ∈ Mapping.keys pass.index, lower name ∈ pass.folded

/-- A pass that has come to the end of entries. Its index holds all of them, in their order. -/
structure Reflects (pass : Pass) (given : List (Json × Json)) : Prop where
  orderly : Orderly given
  index : textEntries pass.index = given
  folded : ∀ name, lower name ∈ pass.folded ↔ ∃ earlier ∈ given, Clash earlier.1 (.string name)

variable {pass next : Pass} {given : List (Json × Json)} {entry : Json × Json} {name : String}
  {error : ParameterError}

/-! One entry more. -/

theorem covered_start : start.Covered := by simp [Covered, start, Mapping.keys]

theorem Covered.index_keep (covered : pass.Covered) (new : lower name ∉ pass.folded)
    (value : String) : (pass.keep name value).index = pass.index ++ [(name, value)] :=
  Mapping.put_of_not_mem (fun listed => new (covered name listed)) value

theorem Covered.keep (covered : pass.Covered) (new : lower name ∉ pass.folded) (value : String) :
    (pass.keep name value).Covered := by
  intro other member
  rw [covered.index_keep new, Mapping.keys, List.map_append, List.mem_append] at member
  rcases member with old | here
  · exact List.mem_cons_of_mem _ (covered other old)
  · cases List.mem_singleton.mp here
    exact List.mem_cons_self

theorem reflects_start : Reflects start [] := ⟨orderly_nil, rfl, by simp [start]⟩

theorem Reflects.covered (reflects : Reflects pass given) : pass.Covered := by
  intro name member
  obtain ⟨entry, listed, rfl⟩ := List.mem_map.mp member
  have there : (Json.string entry.1, Json.string entry.2) ∈ given := by
    rw [← reflects.index]
    exact List.mem_map.mpr ⟨entry, listed, rfl⟩
  exact (reflects.folded entry.1).mpr ⟨_, there, .folded rfl⟩

theorem add_eq_ok (done : pass.add entry = .ok next) :
    ∃ name value, entry = (.string name, .string value) ∧ IsName (.string name) ∧
      lower name ∉ pass.folded ∧ next = pass.keep name value := by
  rw [add] at done
  split at done
  · cases done
  · next name named =>
    obtain ⟨isText, named⟩ := checkName_eq_ok_iff.mp named
    split at done
    · cases done
    · next value valued =>
      split at done
      · cases done
      · next new =>
        cases done
        have same : entry = (.string name, .string value) :=
          Prod.ext isText (checkValue_eq_ok_iff.mp valued)
        exact ⟨name, value, same, isText ▸ named, new, rfl⟩

theorem offends_of_add (reflects : Reflects pass given) (refused : pass.add entry = .error error) :
    Offends given entry error := by
  obtain ⟨first, second⟩ := entry
  rw [add] at refused
  split at refused
  · next named =>
    cases refused
    exact .name (checkName_eq_error_iff.mp named)
  · next name named =>
    obtain ⟨rfl, named⟩ := checkName_eq_ok_iff.mp named
    split at refused
    · next valued =>
      cases refused
      obtain ⟨other, rfl⟩ := checkValue_eq_error_iff.mp valued
      exact .value named other
    · next value valued =>
      obtain rfl := checkValue_eq_ok_iff.mp valued
      split at refused
      · next old =>
        cases refused
        obtain ⟨earlier, member, clash⟩ := (reflects.folded name).mp old
        exact .again named member clash
      · cases refused

theorem add_of_offends (reflects : Reflects pass given) (offends : Offends given entry error) :
    pass.add entry = .error error := by
  cases offends with
  | name misnamed => rw [add, checkName_eq_error_iff.mpr misnamed]
  | @value name value named other =>
      have first := checkName_eq_ok_iff.mpr ⟨rfl, named⟩
      have second : checkValue name value = .error (.valueNotText name) :=
        checkValue_eq_error_iff.mpr ⟨other, rfl⟩
      rw [add, first]
      simp only [second]
  | @again name value earlier named member clash =>
      have first := checkName_eq_ok_iff.mpr ⟨rfl, named⟩
      have old := (reflects.folded name).mpr ⟨earlier, member, clash⟩
      rw [add, first]
      simp only [checkValue, if_pos old]

theorem Reflects.add (reflects : Reflects pass given) (done : pass.add entry = .ok next) :
    Reflects next (given ++ [entry]) := by
  obtain ⟨name, value, rfl, named, new, rfl⟩ := add_eq_ok done
  have apart : ∀ earlier ∈ given, ¬ Clash earlier.1 (.string name) := fun earlier member clash =>
    new ((reflects.folded name).mpr ⟨earlier, member, clash⟩)
  refine ⟨orderly_concat_iff.mpr ⟨reflects.orderly, named, ⟨value, rfl⟩, apart⟩, ?_, ?_⟩
  · rw [reflects.covered.index_keep new, textEntries, List.map_append, ← textEntries,
      reflects.index]
    rfl
  · intro other
    have here : lower other = lower name ↔ Clash (.string name) (.string other) := by
      constructor
      · exact fun same => .folded same.symm
      · intro clash
        cases clash with
        | folded same => exact same.symm
    rw [keep, List.mem_cons, reflects.folded, here]
    simp only [List.mem_append, List.mem_singleton, or_and_right, exists_or, exists_eq_left]
    exact or_comm

/-! All entries, one after the other. -/

theorem run_concat (given : List (Json × Json)) (entry : Json × Json) :
    run (given ++ [entry]) = (run given).bind fun pass => pass.add entry := by
  rw [run, List.foldlM_append, ← run]
  cases run given with
  | error error => rfl
  | ok pass =>
      change pass.add entry >>= pure = pass.add entry
      exact bind_pure _

theorem reflects_run (done : run given = .ok pass) : Reflects pass given := by
  induction given using List.reverseRecOn generalizing pass with
  | nil =>
      cases done
      exact reflects_start
  | append_singleton before entry ih =>
      rw [run_concat] at done
      cases made : run before with
      | error error => rw [made] at done; cases done
      | ok between => rw [made] at done; exact (ih made).add done

theorem exists_run_iff : (∃ pass, run given = .ok pass) ↔ Orderly given := by
  constructor
  · rintro ⟨pass, done⟩
    exact (reflects_run done).orderly
  · intro orderly
    induction given using List.reverseRecOn with
    | nil => exact ⟨start, rfl⟩
    | append_singleton before entry ih =>
        obtain ⟨pass, done⟩ := ih (orderly_concat_iff.mp orderly).1
        rw [run_concat, done]
        cases added : pass.add entry with
        | ok next => exact ⟨next, added⟩
        | error error =>
            have offends := offends_of_add (reflects_run done) added
            exact absurd orderly offends.not_orderly

theorem run_eq_error_iff : run given = .error error ↔ FirstOffence given error := by
  constructor
  · intro refused
    induction given using List.reverseRecOn with
    | nil => cases refused
    | append_singleton before entry ih =>
        rw [run_concat] at refused
        cases made : run before with
        | error earlier =>
            rw [made] at refused
            cases refused
            exact (ih made).append [entry]
        | ok pass =>
            rw [made] at refused
            have reflects := reflects_run made
            exact .behind reflects.orderly (offends_of_add reflects refused)
  · rintro ⟨orderly, offends⟩
    rename_i before after entry
    obtain ⟨pass, done⟩ := exists_run_iff.mpr orderly
    have refused := add_of_offends (reflects_run done) offends
    rw [run, List.foldlM_append, ← run, done]
    change (entry :: after).foldlM add pass = _
    rw [List.foldlM_cons, refused]
    rfl

/-! The set that is made has the entries that the index has come to hold. -/

theorem map_index_foldlM (covered : pass.Covered) :
    (given.foldlM add pass).map index = (check pass.folded given).map (pass.index ++ ·) := by
  induction given generalizing pass with
  | nil => exact congrArg Except.ok (List.append_nil _).symm
  | cons entry rest ih =>
      obtain ⟨name, value⟩ := entry
      rw [List.foldlM_cons, add, check]
      cases checkName name with
      | error error => rfl
      | ok name =>
          dsimp only
          cases checkValue name value with
          | error error => rfl
          | ok value =>
              dsimp only
              split
              · rfl
              · next new =>
                have others := ih (covered.keep new value)
                rw [covered.index_keep new] at others
                change (rest.foldlM add (pass.keep name value)).map index = _
                rw [others]
                change (check (lower name :: pass.folded) rest).map _ = _
                cases check (lower name :: pass.folded) rest with
                | error error => rfl
                | ok entries => exact congrArg Except.ok (List.append_assoc ..)

theorem map_index_run (given : List (Json × Json)) :
    (run given).map index = (ofEntries given).map entries := by
  rw [map_entries_ofEntries, run, map_index_foldlM covered_start]
  change (check [] given).map id = check [] given
  cases check [] given <;> rfl

/-- The pass and the making of the set succeed together, or fail alike. -/
theorem run_cases (given : List (Json × Json)) :
    (∃ pass set, run given = .ok pass ∧ ofEntries given = .ok set ∧
      pass.index = set.entries) ∨
    ∃ error, run given = .error error ∧ ofEntries given = .error error := by
  have same := map_index_run given
  cases passed : run given with
  | error error =>
      rw [passed] at same
      cases made : ofEntries given with
      | error other => rw [made] at same; cases same; exact .inr ⟨error, rfl, rfl⟩
      | ok set => rw [made] at same; cases same
  | ok pass =>
      rw [passed] at same
      cases made : ofEntries given with
      | error other => rw [made] at same; cases same
      | ok set => rw [made] at same; exact .inl ⟨pass, set, rfl, rfl, Except.ok.inj same⟩

end Pass

variable {given : List (Json × Json)} {set : ParameterSet}

theorem ofEntries_eq_error_iff {error : ParameterError} :
    ofEntries given = .error error ↔ FirstOffence given error := by
  rw [← Pass.run_eq_error_iff]
  obtain ⟨pass, set, passed, made, -⟩ | ⟨other, passed, made⟩ := Pass.run_cases given
  · simp only [passed, made, reduceCtorEq]
  · simp only [passed, made, Except.error.injEq]

theorem exists_ofEntries_iff : (∃ set, ofEntries given = .ok set) ↔ Orderly given := by
  rw [← Pass.exists_run_iff]
  obtain ⟨pass, set, passed, made, -⟩ | ⟨error, passed, made⟩ := Pass.run_cases given
  · exact iff_of_true ⟨set, made⟩ ⟨pass, passed⟩
  · simp only [passed, made, reduceCtorEq, exists_false]

theorem ofEntries_eq_ok_iff_textEntries :
    ofEntries given = .ok set ↔ textEntries set.entries = given := by
  constructor
  · intro made
    obtain ⟨pass, found, passed, again, index⟩ | ⟨error, -, refused⟩ := Pass.run_cases given
    · rw [made] at again
      cases again
      rw [← index]
      exact (Pass.reflects_run passed).index
    · rw [made] at refused
      cases refused
  · rintro rfl
    exact set.ofList_entries

/-- Entries make a set exactly if their names are texts without blanks and not empty, their values
are texts, and no two names are equal in small letters; else the first entry that offends is
refused. What a pass over the entries comes to hold under their names is what the set has. In every
set, however it was made, the entries are found and nothing else, and they make it again. -/
theorem ofEntries_outcome (given : List (Json × Json)) (set : ParameterSet) :
    ((∃ made, ofEntries given = .ok made) ↔ Orderly given) ∧
    (∀ error, ofEntries given = .error error ↔ FirstOffence given error) ∧
    (ofEntries given = .ok set ↔ textEntries set.entries = given) ∧
    (Pass.run given).map Pass.index = (ofEntries given).map entries ∧
    FindsEntries set ∧
    set.toMapping = set.entries ∧
    set.size = set.entries.length ∧
    ofList set.entries = .ok set :=
  ⟨exists_ofEntries_iff, fun _ => ofEntries_eq_error_iff, ofEntries_eq_ok_iff_textEntries,
    Pass.map_index_run given, set.findsEntries, set.toMapping_eq, rfl, set.ofList_entries⟩

/-- One capital with a dot is two characters in small letters. -/
example :
    ofEntries [(.string "\u0130", .string "a"), (.string "i\u0307", .string "b")] =
      .error (.duplicateName "i\u0307") := by
  rfl

end ParameterSet

end AppletPage
