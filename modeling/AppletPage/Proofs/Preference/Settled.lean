import AppletPage.Proofs.Parameter.Token
import AppletPage.Proofs.Preference.Overrides

/-! Overrides that have been accepted are accepted again, unchanged and in any order. -/

namespace AppletPage

open Text

namespace Overrides

theorem tidy_kept {entry kept : String × String} (tidied : tidy entry = .ok kept) :
    tidy kept = .ok kept := by
  rw [tidy] at tidied
  split at tidied
  · next isList =>
    cases joined : joinTokens (splitTokens entry.2) with
    | error error => rw [joined] at tidied; cases tidied
    | ok value =>
        rw [joined] at tidied
        cases tidied
        rw [tidy, if_pos isList, splitTokens_of_joinTokens joined, joined]
        rfl
  · next noList =>
    cases tidied
    rw [tidy, if_neg noList]

theorem mem_tidyEntries {entries : Overrides} {kept : String × String}
    (member : kept ∈ tidyEntries entries) : ∃ entry ∈ entries, tidy entry = .ok kept := by
  obtain ⟨entry, held, found⟩ := List.mem_filterMap.mp member
  refine ⟨entry, held, ?_⟩
  cases tidied : tidy entry with
  | error error => rw [tidied] at found; cases found
  | ok given => rw [tidied] at found; cases found; rfl

/-- Overrides that are accepted as they are: their lists of tokens have single spaces. -/
structure Settled (overrides : Overrides) : Prop where
  accepted : Accepted overrides
  tidied : ∀ entry ∈ overrides, tidy entry = .ok entry

theorem settled_nil : Settled [] :=
  ⟨⟨nofun, nofun, List.nodup_nil⟩, nofun⟩

theorem settled_of_validateMapping {entries : Mapping Json Json} {overrides : Overrides}
    (valid : validateMapping entries = .ok overrides) : Settled overrides := by
  refine ⟨accepted_of_validateMapping valid, fun kept member => ?_⟩
  obtain ⟨named, -, -, -, rfl⟩ := validateMapping_eq_ok_iff.mp valid
  obtain ⟨entry, -, tidied⟩ := mem_tidyEntries member
  exact tidy_kept tidied

theorem settled_of_validate {value : Json} {overrides : Overrides}
    (valid : validate value = .ok overrides) : Settled overrides := by
  unfold validate at valid
  split at valid
  · exact settled_of_validateMapping valid
  · cases valid

theorem tidyEntries_of_tidied {overrides : Overrides}
    (tidied : ∀ entry ∈ overrides, tidy entry = .ok entry) : tidyEntries overrides = overrides := by
  have same := @tidyEntries_eq_map overrides id tidied
  rwa [List.map_id] at same

def toJson (overrides : Overrides) : Json :=
  .object (overrides.map fun entry => (entry.1, .string entry.2))

theorem map_string_toJson (overrides : Overrides) :
    (overrides.map fun entry => (entry.1, Json.string entry.2)).map
      (fun field => (Json.string field.1, field.2)) = ParameterSet.textEntries overrides := by
  rw [List.map_map]
  rfl

theorem validate_toJson_eq_ok_iff {entries overrides : Overrides} :
    validate entries.toJson = .ok overrides ↔
      Accepted entries ∧ (∀ entry ∈ entries, ∃ kept, tidy entry = .ok kept) ∧
        overrides = tidyEntries entries := by
  rw [toJson, validate, map_string_toJson, validateMapping_eq_ok_iff]
  constructor
  · rintro ⟨named, same, accepted⟩
    cases eq_of_textEntries same
    exact accepted
  · exact fun accepted => ⟨entries, rfl, accepted⟩

theorem Settled.validate_eq {overrides : Overrides} (settled : Settled overrides) :
    validate overrides.toJson = .ok overrides :=
  validate_toJson_eq_ok_iff.mpr
    ⟨settled.accepted, fun entry member => ⟨entry, settled.tidied entry member⟩,
      (tidyEntries_of_tidied settled.tidied).symm⟩

theorem Settled.perm {overrides other : Overrides} (settled : Settled overrides)
    (perm : other.Perm overrides) : Settled other := by
  have distinct : (foldedNames other).Nodup := by
    have folded : (foldedNames other).Perm (foldedNames overrides) := perm.map _
    exact folded.nodup_iff.mpr settled.accepted.distinct
  refine ⟨⟨fun entry member => ?_, fun entry member => ?_, distinct⟩, fun entry member => ?_⟩
  · exact settled.accepted.named entry (perm.mem_iff.mp member)
  · exact settled.accepted.free entry (perm.mem_iff.mp member)
  · exact settled.tidied entry (perm.mem_iff.mp member)

theorem Settled.nodup {overrides : Overrides} (settled : Settled overrides) :
    (overrides.map (·.1)).Nodup := by
  have distinct := settled.accepted.distinct
  rw [foldedNames, List.Nodup, List.pairwise_map] at distinct
  rw [List.Nodup, List.pairwise_map]
  exact distinct.imp fun differs same => differs (congrArg lower same)

end Overrides

end AppletPage
