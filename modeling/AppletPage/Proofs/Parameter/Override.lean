import AppletPage.Parameter.Override
import AppletPage.Proofs.Parameter.Set

/-! What overriding comes to: which values the entries have afterwards, which names there are, and
what stays as it was. -/

namespace AppletPage.ParameterSet

open Text

variable {ν : Type}

def lastFor? (overrides : List (String × ν)) (folded : String) : Option ν :=
  (overrides.reverse.find? fun entry => lower entry.1 = folded).map (·.2)

def unknown (present : List String) (overrides : List (String × ν)) : List (String × ν) :=
  overrides.filter fun entry => lower entry.1 ∉ present

/-- Entries in their places, each with the last value given for its name, and behind them the
overrides of other names. -/
def merge (entries overrides : List (String × ν)) : List (String × ν) :=
  (entries.map fun entry => (entry.1, (lastFor? overrides (lower entry.1)).getD entry.2)) ++
    unknown (entries.map fun entry => lower entry.1) overrides

/-! Values that are used up. -/

theorem get?_foldedValues (overrides : List (String × ν)) (folded : String) :
    Mapping.get? (foldedValues overrides) folded = lastFor? overrides folded := by
  rw [foldedValues, Mapping.get?_ofList, ← List.map_reverse, List.find?_map, Option.map_map,
    lastFor?]
  rfl

/-- As no two entries have one name, no entry misses the value that another has used up. -/
theorem fst_takeValues {values : Mapping String ν} {entries : List (String × ν)}
    (distinct : (foldedNames entries).Nodup) :
    (takeValues values entries).1 =
      entries.map fun entry => (entry.1, (Mapping.get? values (lower entry.1)).getD entry.2) := by
  induction entries generalizing values with
  | nil => rfl
  | cons entry rest ih =>
      obtain ⟨new, distinct⟩ := List.nodup_cons.mp distinct
      have others : ∀ other ∈ rest, Mapping.get? (Mapping.erase values (lower entry.1))
          (lower other.1) = Mapping.get? values (lower other.1) := by
        intro other member
        rw [Mapping.get?_erase, if_neg]
        exact fun same => new (List.mem_map.mpr ⟨other, member, same.symm⟩)
      simp only [takeValues, ih distinct, List.map_cons, List.cons.injEq, true_and]
      exact List.map_congr_left fun other member => by rw [others other member]

theorem get?_snd_takeValues (values : Mapping String ν) (entries : List (String × ν))
    (folded : String) :
    Mapping.get? (takeValues values entries).2 folded =
      if folded ∈ foldedNames entries then none else Mapping.get? values folded := by
  induction entries generalizing values with
  | nil => rfl
  | cons entry rest ih =>
      have member : folded ∈ foldedNames (entry :: rest) ↔
          lower entry.1 = folded ∨ folded ∈ foldedNames rest := by
        rw [foldedNames, List.map_cons, List.mem_cons, eq_comm, foldedNames]
      simp only [takeValues, ih, Mapping.get?_erase]
      by_cases here : lower entry.1 = folded
      · rw [if_pos here, if_pos (member.mpr (.inl here)), ite_self]
      · rw [if_neg here]
        exact ite_congr (propext (by rw [member, or_iff_right here])) (fun _ => rfl) fun _ => rfl

theorem overridden_eq_merge {entries : List (String × ν)}
    (distinct : (foldedNames entries).Nodup) (overrides : List (String × ν)) :
    overridden entries overrides = merge entries overrides := by
  have left : ∀ entry ∈ overrides,
      decide (lower entry.1 ∈ Mapping.keys (takeValues (foldedValues overrides) entries).2) =
        decide (lower entry.1 ∉ foldedNames entries) := by
    intro entry member
    have given : (lastFor? overrides (lower entry.1)).isSome = true := by
      rw [lastFor?, Option.isSome_map, List.find?_isSome]
      exact ⟨entry, List.mem_reverse.mpr member, decide_eq_true rfl⟩
    rw [decide_eq_decide, ← Mapping.isSome_get?_iff, get?_snd_takeValues, get?_foldedValues]
    split
    · next old => exact iff_of_false nofun (not_not_intro old)
    · next new => exact iff_of_true given new
  simp only [overridden, merge, unknown, fst_takeValues distinct, get?_foldedValues,
    List.filter_congr left]
  rfl

theorem lastFor?_eq_none {overrides : List (String × ν)} {folded : String}
    (missing : ∀ entry ∈ overrides, lower entry.1 ≠ folded) :
    lastFor? overrides folded = none := by
  have unseen : overrides.reverse.find? (fun entry => lower entry.1 = folded) = none := by
    apply List.find?_eq_none.mpr
    intro entry member
    simpa using missing entry (List.mem_reverse.mp member)
  rw [lastFor?, unseen, Option.map_none]

theorem find?_folded {entries : List (String × ν)} (distinct : (foldedNames entries).Nodup)
    {entry : String × ν} (member : entry ∈ entries) :
    entries.find? (fun other => lower other.1 = lower entry.1) = some entry := by
  induction entries with
  | nil => cases member
  | cons first rest ih =>
      obtain ⟨new, distinct⟩ := List.nodup_cons.mp distinct
      rcases List.mem_cons.mp member with rfl | member
      · exact List.find?_cons_of_pos (decide_eq_true rfl)
      · have differs : lower first.1 ≠ lower entry.1 := fun same =>
          new (List.mem_map.mpr ⟨entry, member, same.symm⟩)
        rw [List.find?_cons_of_neg (by simpa using differs), ih distinct member]

theorem lastFor?_of_mem {overrides : List (String × ν)} {entry : String × ν}
    (distinct : (foldedNames overrides).Nodup) (member : entry ∈ overrides) :
    lastFor? overrides (lower entry.1) = some entry.2 := by
  have reversed : (foldedNames overrides.reverse).Nodup :=
    ((List.reverse_perm overrides).map _).nodup_iff.mpr distinct
  rw [lastFor?, find?_folded reversed (List.mem_reverse.mpr member), Option.map_some]

theorem exists_of_lastFor? {overrides : List (String × ν)} {folded : String} {value : ν}
    (found : lastFor? overrides folded = some value) :
    ∃ name, (name, value) ∈ overrides ∧ lower name = folded := by
  obtain ⟨entry, first, rfl⟩ := Option.map_eq_some_iff.mp found
  refine ⟨entry.1, List.mem_reverse.mp (List.mem_of_find?_eq_some first), ?_⟩
  simpa using List.find?_some first

theorem mem_unknown {present : List String} {overrides : List (String × ν)}
    {entry : String × ν} :
    entry ∈ unknown present overrides ↔ entry ∈ overrides ∧ lower entry.1 ∉ present := by
  rw [unknown, List.mem_filter, decide_eq_true_iff]

theorem foldedNames_merge (entries overrides : List (String × ν)) :
    foldedNames (merge entries overrides) =
      foldedNames entries ++ foldedNames (unknown (foldedNames entries) overrides) := by
  simp only [foldedNames, merge, List.map_append, List.map_map, Function.comp_def]

theorem merge_nil (entries : List (String × ν)) : merge entries [] = entries := by
  have kept : ∀ entry : String × ν,
      (entry.1, (lastFor? ([] : List (String × ν)) (lower entry.1)).getD entry.2) = entry :=
    fun _ => rfl
  simp only [merge, kept, List.map_id', unknown, List.filter_nil, List.append_nil]

theorem nodup_foldedNames_merge {entries overrides : List (String × ν)}
    (distinct : (foldedNames entries).Nodup) (apart : (foldedNames overrides).Nodup) :
    (foldedNames (merge entries overrides)).Nodup := by
  rw [foldedNames_merge]
  refine List.nodup_append.mpr ⟨distinct, ?_, ?_⟩
  · exact apart.sublist (List.filter_sublist.map _)
  · intro name old other new same
    obtain ⟨entry, member, rfl⟩ := List.mem_map.mp new
    exact (mem_unknown.mp member).2 (same ▸ old)

theorem filter_overridden {entries overrides : List (String × ν)} (kept : String → Bool)
    (free : ∀ entry ∈ overrides, kept (lower entry.1) = false) :
    (entries.map fun entry => (entry.1, (lastFor? overrides (lower entry.1)).getD entry.2)).filter
        (fun entry => kept (lower entry.1)) =
      entries.filter fun entry => kept (lower entry.1) := by
  induction entries with
  | nil => rfl
  | cons entry rest ih =>
      rw [List.map_cons, List.filter_cons, List.filter_cons, ih]
      cases same : kept (lower entry.1) with
      | false => rfl
      | true =>
          have missing : ∀ other ∈ overrides, lower other.1 ≠ lower entry.1 := by
            intro other member equal
            have held := free other member
            rw [equal, same] at held
            cases held
          rw [lastFor?_eq_none missing, Option.getD_none]

theorem filter_merge {entries overrides : List (String × ν)} (kept : String → Bool)
    (free : ∀ entry ∈ overrides, kept (lower entry.1) = false) :
    (merge entries overrides).filter (fun entry => kept (lower entry.1)) =
      entries.filter fun entry => kept (lower entry.1) := by
  have added : (unknown (foldedNames entries) overrides).filter
      (fun entry => kept (lower entry.1)) = [] := by
    apply List.filter_eq_nil_iff.mpr
    intro entry member
    simp [free entry (mem_unknown.mp member).1]
  rw [merge, List.filter_append, filter_overridden kept free, ← foldedNames, added,
    List.append_nil]

theorem withOverrides_eq (set : ParameterSet) (overrides : List (String × String)) :
    set.withOverrides overrides = ofList (merge set.entries overrides) := by
  rw [withOverrides, overridden_eq_merge set.distinct]
  split
  · next none => rw [List.isEmpty_iff.mp none, merge_nil, ofList_entries]
  · rfl

theorem entries_of_withOverrides {set merged : ParameterSet} {overrides : List (String × String)}
    (done : set.withOverrides overrides = .ok merged) :
    merged.entries = merge set.entries overrides := by
  rw [withOverrides_eq] at done
  exact entries_of_ofList done

/-- Overrides of distinct names are applied, unless a new name has a blank. -/
theorem map_entries_withOverrides (set : ParameterSet) {overrides : List (String × String)}
    (nonempty : ∀ entry ∈ overrides, entry.1 ≠ "") (apart : (foldedNames overrides).Nodup) :
    (set.withOverrides overrides).map entries =
      match (unknown (foldedNames set.entries) overrides).find? fun entry => hasBlank entry.1 with
      | none => .ok (merge set.entries overrides)
      | some entry => .error (.blankInName entry.1) := by
  have named : ∀ entry ∈ merge set.entries overrides, entry.1 ≠ "" := by
    intro entry member
    rw [merge] at member
    rcases List.mem_append.mp member with old | new
    · obtain ⟨other, held, rfl⟩ := List.mem_map.mp old
      exact (set.wellNamed other held).nonempty
    · exact nonempty entry (mem_unknown.mp new).1
  have unbroken : (set.entries.map fun entry =>
      (entry.1, (lastFor? overrides (lower entry.1)).getD entry.2)).find?
        (fun entry => hasBlank entry.1) = none := by
    apply List.find?_eq_none.mpr
    intro entry member
    obtain ⟨other, held, rfl⟩ := List.mem_map.mp member
    simp [(set.wellNamed other held).unbroken]
  rw [withOverrides_eq, ofList, map_entries_ofEntries,
    check_textEntries named (nodup_foldedNames_merge set.distinct apart) (by simp),
    merge, List.find?_append, unbroken, Option.none_or]
  rfl

end AppletPage.ParameterSet
