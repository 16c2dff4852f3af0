import AppletPage.Proofs.Parameter.Override

/-! The laws of overriding: it is the merge of the entries with the overrides, and overriding twice
is overriding once by the merged overrides. -/

namespace AppletPage.ParameterSet

open Text

variable {ν : Type}

/-- The entries in their places, each with the last value given for its name. -/
def revalued (overrides entries : List (String × ν)) : List (String × ν) :=
  entries.map fun entry => (entry.1, (lastFor? overrides (lower entry.1)).getD entry.2)

theorem merge_eq (entries overrides : List (String × ν)) :
    merge entries overrides =
      revalued overrides entries ++ unknown (foldedNames entries) overrides := rfl

/-! The value that a list of entries has for a name. -/

theorem lastFor?_append (first second : List (String × ν)) (folded : String) :
    lastFor? (first ++ second) folded = (lastFor? second folded).or (lastFor? first folded) := by
  rw [lastFor?, List.reverse_append, List.find?_append, Option.map_or, lastFor?, lastFor?]

theorem isSome_lastFor?_iff (entries : List (String × ν)) (folded : String) :
    (lastFor? entries folded).isSome = true ↔ folded ∈ foldedNames entries := by
  rw [lastFor?, Option.isSome_map, List.find?_isSome, foldedNames, List.mem_map]
  simp only [List.mem_reverse, decide_eq_true_eq]

theorem lastFor?_unknown (present : List String) (overrides : List (String × ν))
    (folded : String) :
    lastFor? (unknown present overrides) folded =
      if folded ∈ present then none else lastFor? overrides folded := by
  split
  · next old =>
    exact lastFor?_eq_none fun entry new same => (mem_unknown.mp new).2 (same ▸ old)
  · next new =>
    rw [lastFor?, unknown, ← List.filter_reverse, List.find?_filter, lastFor?]
    congr 2
    funext entry
    by_cases same : lower entry.1 = folded
    · simp [same, new]
    · simp [same]

theorem lastFor?_revalued (overrides entries : List (String × ν)) (folded : String) :
    lastFor? (revalued overrides entries) folded =
      (lastFor? entries folded).map fun value => (lastFor? overrides folded).getD value := by
  rw [lastFor?, revalued, ← List.map_reverse, List.find?_map, Option.map_map]
  conv => rhs; rw [lastFor?.eq_def entries, Option.map_map]
  simp only [Function.comp_def]
  cases found : entries.reverse.find? fun entry => decide (lower entry.1 = folded) with
  | none => rfl
  | some entry =>
      have same : lower entry.1 = folded := by simpa using List.find?_some found
      rw [Option.map_some, Option.map_some, same]

theorem lastFor?_merge (entries overrides : List (String × ν)) (folded : String) :
    lastFor? (merge entries overrides) folded =
      (lastFor? overrides folded).or (lastFor? entries folded) := by
  have known := isSome_lastFor?_iff entries folded
  rw [merge_eq, lastFor?_append, lastFor?_unknown, lastFor?_revalued]
  cases old : lastFor? entries folded with
  | none =>
      rw [if_neg (by rw [← known, old]; nofun)]
      rfl
  | some value =>
      rw [if_pos (by rw [← known, old]; rfl), Option.none_or]
      cases lastFor? overrides folded <;> rfl

/-! Merging twice. -/

theorem revalued_append (overrides first second : List (String × ν)) :
    revalued overrides (first ++ second) =
      revalued overrides first ++ revalued overrides second := List.map_append

theorem unknown_append (present : List String) (first second : List (String × ν)) :
    unknown present (first ++ second) = unknown present first ++ unknown present second :=
  List.filter_append ..

theorem revalued_revalued (first second entries : List (String × ν)) :
    revalued second (revalued first entries) = revalued (merge first second) entries := by
  rw [revalued, revalued, List.map_map, revalued]
  refine List.map_congr_left fun entry _ => ?_
  rw [Function.comp_apply, lastFor?_merge]
  cases lastFor? second (lower entry.1) <;> rfl

theorem revalued_unknown (present : List String) (overrides entries : List (String × ν)) :
    revalued overrides (unknown present entries) =
      unknown present (revalued overrides entries) := by
  rw [unknown, revalued, unknown, revalued, List.filter_map]
  rfl

theorem unknown_unknown (entries first second : List (String × ν)) :
    unknown (foldedNames entries) (unknown (foldedNames first) second) =
      unknown (foldedNames (merge entries first)) second := by
  rw [unknown, unknown, unknown, List.filter_filter]
  refine List.filter_congr fun entry _ => ?_
  -- Among names that no entry has, those that merging has added are those of the overrides.
  have added : lower entry.1 ∉ foldedNames entries →
      (lower entry.1 ∈ foldedNames (unknown (foldedNames entries) first) ↔
        lower entry.1 ∈ foldedNames first) := by
    intro new
    rw [← isSome_lastFor?_iff, lastFor?_unknown, if_neg new, isSome_lastFor?_iff]
  rw [← Bool.decide_and, decide_eq_decide, foldedNames_merge, List.mem_append, not_or]
  exact and_congr_right fun new => not_congr (added new).symm

theorem merge_merge (entries first second : List (String × ν)) :
    merge (merge entries first) second = merge entries (merge first second) :=
  calc merge (merge entries first) second
    _ = revalued second (revalued first entries ++ unknown (foldedNames entries) first) ++
          unknown (foldedNames (merge entries first)) second := rfl
    _ = revalued (merge first second) entries ++
          (unknown (foldedNames entries) (revalued second first) ++
            unknown (foldedNames entries) (unknown (foldedNames first) second)) := by
        rw [unknown_unknown, ← revalued_unknown, ← revalued_revalued, ← List.append_assoc,
          revalued_append]
    _ = merge entries (merge first second) := by
        rw [merge_eq entries, merge_eq first, unknown_append]

theorem merge_self {entries : List (String × ν)} (distinct : (foldedNames entries).Nodup) :
    merge entries entries = entries := by
  have kept : revalued entries entries = entries := by
    refine (List.map_congr_left fun entry member => ?_).trans (List.map_id entries)
    rw [lastFor?_of_mem distinct member]
    rfl
  have none : unknown (foldedNames entries) entries = [] := by
    refine List.filter_eq_nil_iff.mpr fun entry member new => of_decide_eq_true new ?_
    exact List.mem_map.mpr ⟨entry, member, rfl⟩
  rw [merge_eq, kept, none, List.append_nil]

/-! Overriding sets. -/

theorem exists_withOverrides (set : ParameterSet) {overrides : List (String × String)}
    (named : ∀ given ∈ overrides, WellNamed given.1) (apart : (foldedNames overrides).Nodup) :
    ∃ next, set.withOverrides overrides = .ok next := by
  have outcome := set.map_entries_withOverrides (fun given member => (named given member).nonempty)
    apart
  have unbroken : (unknown (foldedNames set.entries) overrides).find?
      (fun entry => hasBlank entry.1) = none := by
    apply List.find?_eq_none.mpr
    intro given new
    simp [(named given (mem_unknown.mp new).1).unbroken]
  rw [unbroken] at outcome
  cases result : set.withOverrides overrides with
  | ok next => exact ⟨next, rfl⟩
  | error error => rw [result] at outcome; cases outcome

theorem exists_withOverrides_of_ofList (set : ParameterSet) {given : List (String × String)}
    {overriding : ParameterSet} (made : ofList given = .ok overriding) :
    ∃ next, set.withOverrides given = .ok next := by
  rw [← entries_of_ofList made]
  exact set.exists_withOverrides overriding.wellNamed overriding.distinct

/-- Overriding puts the last value given for a name in the place of the old one, adds the other
names behind in their order and spelling, and makes a set of that or fails as making one does.
Names keep their places, entries that are not named keep their values, and well-formed overrides
are always applied. -/
theorem withOverrides_reference (set : ParameterSet) (overrides : List (String × String)) :
    set.withOverrides overrides = ofList (merge set.entries overrides) ∧
    (∀ next, set.withOverrides overrides = .ok next →
      next.entries = merge set.entries overrides ∧
      set.names <+: next.names ∧
      ∀ (place : Nat) (entry : String × String), set.entries[place]? = some entry →
        (∀ given ∈ overrides, lower given.1 ≠ lower entry.1) →
        next.entries[place]? = some entry) ∧
    ((∀ given ∈ overrides, WellNamed given.1) → (foldedNames overrides).Nodup →
      ∃ next, set.withOverrides overrides = .ok next) := by
  refine ⟨set.withOverrides_eq overrides, ?_, set.exists_withOverrides⟩
  intro next done
  have merged := entries_of_withOverrides done
  refine ⟨merged, ?_, ?_⟩
  · rw [names, names, merged, merge_eq, List.map_append, revalued, List.map_map]
    exact List.prefix_append _ _
  · intro place entry held unnamed
    have within : place < (revalued overrides set.entries).length := by
      rw [revalued, List.length_map]
      exact (List.getElem?_eq_some_iff.mp held).1
    rw [merged, merge_eq, List.getElem?_append_left within, revalued, List.getElem?_map, held,
      Option.map_some, lastFor?_eq_none unnamed, Option.getD_none]

theorem withOverrides_reference_port :
    ∃ set next : ParameterSet,
      ofList [("Port", "5000"), ("Host", "localhost")] = .ok set ∧
      set.withOverrides [("PORT", "6000"), ("Lang", "de")] = .ok next ∧
      next.entries = [("Port", "6000"), ("Host", "localhost"), ("Lang", "de")] := by
  let set : ParameterSet := ⟨[("Port", "5000"), ("Host", "localhost")], by decide, by decide⟩
  obtain ⟨-, whenDone, applied⟩ :=
    set.withOverrides_reference [("PORT", "6000"), ("Lang", "de")]
  obtain ⟨next, done⟩ := applied (by decide) (by decide)
  obtain ⟨merged, -⟩ := whenDone next done
  exact ⟨set, next, set.ofList_entries, done, merged.trans (by decide)⟩

/-- Overriding by one mapping and then by another is overriding by the first overridden by the
second. Overriding again changes nothing, and neither does the empty mapping. -/
theorem withOverrides_withOverrides (set : ParameterSet) {a b : Mapping String String}
    {first second : ParameterSet} (madeFirst : ofList a = .ok first)
    (madeSecond : ofList b = .ok second) :
    ∃ both middle last,
      first.withOverrides b = .ok both ∧
      set.withOverrides a = .ok middle ∧
      middle.withOverrides b = .ok last ∧
      set.withOverrides both.toMapping = .ok last ∧
      middle.withOverrides a = .ok middle ∧
      set.withOverrides [] = .ok set := by
  obtain ⟨both, doneBoth⟩ := first.exists_withOverrides_of_ofList madeSecond
  obtain ⟨middle, doneMiddle⟩ := set.exists_withOverrides_of_ofList madeFirst
  obtain ⟨last, doneLast⟩ := middle.exists_withOverrides_of_ofList madeSecond
  have entriesFirst := entries_of_ofList madeFirst
  have entriesMiddle := entries_of_withOverrides doneMiddle
  refine ⟨both, middle, last, doneBoth, doneMiddle, doneLast, ?_, ?_, rfl⟩
  · rw [toMapping_eq, entries_of_withOverrides doneBoth, entriesFirst, withOverrides_eq,
      ← merge_merge, ← entriesMiddle, ← withOverrides_eq, doneLast]
  · have distinct : (foldedNames a).Nodup := entriesFirst ▸ first.distinct
    rw [withOverrides_eq, entriesMiddle, merge_merge, merge_self distinct, ← withOverrides_eq,
      doneMiddle]

theorem withOverrides_withOverrides_port :
    ∃ set both middle last : ParameterSet,
      set.entries = [("Port", "5000")] ∧
      set.withOverrides [("lang", "de"), ("PORT", "6000")] = .ok middle ∧
      middle.withOverrides [("Lang", "en"), ("Size", "2")] = .ok last ∧
      both.toMapping = [("lang", "en"), ("PORT", "6000"), ("Size", "2")] ∧
      set.withOverrides both.toMapping = .ok last := by
  let set : ParameterSet := ⟨[("Port", "5000")], by decide, by decide⟩
  let first : ParameterSet := ⟨[("lang", "de"), ("PORT", "6000")], by decide, by decide⟩
  let second : ParameterSet := ⟨[("Lang", "en"), ("Size", "2")], by decide, by decide⟩
  obtain ⟨both, middle, last, overridden, once, twice, same, -⟩ :=
    set.withOverrides_withOverrides first.ofList_entries second.ofList_entries
  have merged := (toMapping_eq both).trans (entries_of_withOverrides overridden)
  exact ⟨set, both, middle, last, rfl, once, twice, merged.trans (by decide), same⟩

end AppletPage.ParameterSet
