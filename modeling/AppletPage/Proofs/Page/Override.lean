import AppletPage.Proofs.Page.Build
import AppletPage.Proofs.Parameter.Override
import AppletPage.Proofs.Preference.User

/-! What accepted overrides make of a page. They are refused for a line end in a name, which the
pattern of names lets through, and for nothing else. -/

namespace AppletPage

open Text

theorem Overrides.Accepted.nonempty {overrides : Overrides} (accepted : Accepted overrides) :
    ∀ entry ∈ overrides, entry.1 ≠ "" := by
  intro entry member empty
  have follows := accepted.named entry member
  rw [empty] at follows
  cases follows

namespace ParameterSet

variable {overrides : Overrides}

theorem withOverrides_accepted (set : ParameterSet) (accepted : Overrides.Accepted overrides) :
    (∃ merged, set.withOverrides overrides = .ok merged ∧
      merged.entries = merge set.entries overrides) ∨
    ∃ name, set.withOverrides overrides = .error (.blankInName name) := by
  have outcome := set.map_entries_withOverrides accepted.nonempty accepted.distinct
  cases result : set.withOverrides overrides with
  | ok merged => exact .inl ⟨merged, rfl, entries_of_withOverrides result⟩
  | error error =>
      rw [result] at outcome
      refine .inr ?_
      split at outcome
      · cases outcome
      · next entry found => exact ⟨entry.1, congrArg _ (Except.error.inj outcome)⟩

end ParameterSet

namespace Page

variable {applet : Config.Applet} {preferences : Option Config.Preferences}

theorem withOverrides_eq_ok {page next : Page} {overrides : Overrides}
    (overridden : page.withOverrides overrides = .ok next) :
    ∃ merged, page.parameters.withOverrides overrides = .ok merged ∧
      next = { page with parameters := merged } := by
  rw [withOverrides] at overridden
  split at overridden
  · next merged found =>
    cases overridden
    exact ⟨merged, found, rfl⟩
  · cases overridden

theorem withOverrides_eq_error {page : Page} {overrides : Overrides} {error : ParameterError}
    (refused : page.withOverrides overrides = .error error) :
    page.parameters.withOverrides overrides = .error error := by
  rw [withOverrides] at refused
  split at refused
  · cases refused
  · next found =>
    cases refused
    exact found

theorem lineEnd_not_mem_lower {page : Page} (built : build applet preferences = .ok page) :
    ∀ folded ∈ foldedNames page.parameters.entries, '\n' ∉ folded.toList := by
  intro folded member held
  obtain ⟨entry, inside, rfl⟩ := List.mem_map.mp member
  rw [lineEnd_mem_lower (ascii_of_build built entry inside)] at held
  have unbroken := (page.parameters.wellNamed entry inside).unbroken
  rw [hasBlank, List.any_eq_false] at unbroken
  exact unbroken '\n' held (by decide)

/-- In a built page, accepted overrides are refused exactly for a line end in a name. -/
theorem withOverrides_accepted_iff {page : Page} {overrides : Overrides}
    (built : build applet preferences = .ok page) (accepted : Overrides.Accepted overrides) :
    (∃ next, page.withOverrides overrides = .ok next) ↔
      ∀ entry ∈ overrides, '\n' ∉ entry.1.toList := by
  have outcome := page.parameters.map_entries_withOverrides accepted.nonempty accepted.distinct
  constructor
  · rintro ⟨next, overridden⟩ entry member held
    obtain ⟨merged, done, -⟩ := withOverrides_eq_ok overridden
    have new : entry ∈ ParameterSet.unknown (foldedNames page.parameters.entries) overrides := by
      refine ParameterSet.mem_unknown.mpr ⟨member, fun old => ?_⟩
      have ascii := Overrides.ascii_of_followsPattern (accepted.named entry member)
      exact lineEnd_not_mem_lower built _ old ((lineEnd_mem_lower ascii).mpr held)
    rw [done] at outcome
    split at outcome
    · next unbroken =>
      have blank :=
        (Overrides.hasBlank_iff_of_followsPattern (accepted.named entry member)).mpr held
      exact List.find?_eq_none.mp unbroken entry new blank
    · cases outcome
  · intro clean
    have unbroken : (ParameterSet.unknown (foldedNames page.parameters.entries) overrides).find?
        (fun entry => hasBlank entry.1) = none := by
      apply List.find?_eq_none.mpr
      intro entry new blank
      have member := (ParameterSet.mem_unknown.mp new).1
      exact clean entry member
        ((Overrides.hasBlank_iff_of_followsPattern (accepted.named entry member)).mp blank)
    rw [unbroken] at outcome
    rw [withOverrides]
    cases result : page.parameters.withOverrides overrides with
    | ok merged => exact ⟨_, rfl⟩
    | error error => rw [result] at outcome; cases outcome

end Page

end AppletPage
