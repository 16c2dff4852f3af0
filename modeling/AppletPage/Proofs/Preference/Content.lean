import AppletPage.Preference.Store
import AppletPage.Proofs.Host.Json
import AppletPage.Proofs.Preference.Settled

/-! What the file of a user holds once overrides have been kept in it. -/

namespace AppletPage

open Text

namespace Overrides

def sorted (overrides : Overrides) : Overrides := Mapping.sortBy codeOrder overrides

theorem pairwise_sorted (overrides : Overrides) :
    overrides.sorted.Pairwise fun a b => a.1 ≤ b.1 :=
  Mapping.pairwise_sortBy_codeOrder overrides

theorem sorted_perm (overrides : Overrides) : overrides.sorted.Perm overrides :=
  Mapping.sortBy_perm codeOrder overrides

theorem Settled.sorted {overrides : Overrides} (settled : Settled overrides) :
    Settled overrides.sorted :=
  settled.perm overrides.sorted_perm

theorem fieldsExact (overrides : Overrides) :
    Json.FieldsExact (overrides.map fun entry => (entry.1, .string entry.2)) := by
  induction overrides with
  | nil => trivial
  | cons entry rest ih => exact ⟨trivial, ih⟩

theorem depthOfFields_le (overrides : Overrides) :
    Json.depthOfFields (overrides.map fun entry => (entry.1, .string entry.2)) ≤ 1 := by
  induction overrides with
  | nil => exact Nat.zero_le 1
  | cons entry rest ih => exact Nat.max_le.mpr ⟨Nat.le_refl 1, ih⟩

theorem depth_toJson_le (overrides : Overrides) : overrides.toJson.depth ≤ 2 := by
  have fields := depthOfFields_le overrides
  rw [toJson, Json.depth]
  omega

theorem Settled.isExact {overrides : Overrides} (settled : Settled overrides) :
    Json.IsExact overrides.toJson := by
  refine ⟨?_, fieldsExact overrides⟩
  rw [List.map_map]
  exact settled.nodup

end Overrides

namespace Store

theorem fileText_eq (overrides : Overrides) :
    fileText overrides = overrides.sorted.toJson.write Json.Style.indented ++ "\n" := rfl

theorem settled_of_accepted {value : Json} {overrides : Overrides}
    (accepted : accepted value = .ok overrides) : Overrides.Settled overrides := by
  unfold Store.accepted at accepted
  split at accepted
  · cases accepted
  · next entries seen =>
    cases valid : Overrides.validateMapping entries with
    | error error => rw [valid] at accepted; cases accepted
    | ok given =>
        rw [valid] at accepted
        cases accepted
        exact Overrides.settled_of_validateMapping valid

theorem readJson_fileText {overrides : Overrides} (settled : Overrides.Settled overrides) :
    Layout.readJson (Utf8.encode (fileText overrides)) = .ok overrides.sorted.toJson := by
  have deep : overrides.sorted.toJson.depth ≤ Json.depthLimit :=
    Nat.le_trans (Overrides.depth_toJson_le overrides.sorted) (by decide)
  rw [fileText_eq, Layout.readJson_written Json.Style.indented settled.sorted.isExact deep]

theorem readOverrides_fileText {overrides : Overrides} (settled : Overrides.Settled overrides)
    (name : String) :
    readOverrides name (Utf8.encode (fileText overrides)) = .ok overrides.sorted := by
  rw [readOverrides, readJson_fileText settled]
  dsimp only
  rw [settled.sorted.validate_eq]
  rfl

end Store

end AppletPage
