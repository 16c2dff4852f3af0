import AppletPage.Proofs.Page.Override
import AppletPage.Proofs.Parameter.Wiring

/-! Accepted overrides leave the wiring of an applet as it is. -/

namespace AppletPage

open Text

namespace Overrides

theorem isLocked_eq (name : String) : isLocked name = isWiring (lower name) := by
  have counted : isWiring "plugins.count" = true := by decide
  have listed : ∀ folded : String, (decide (folded ∈ lockedNames) : Bool) =
      (folded = "port" || folded = "server.classname" || folded = "plugins.count") := by
    intro folded
    simp [lockedNames, Bool.or_assoc]
  by_cases count : lower name = "plugins.count"
  · rw [count, counted, isLocked, listed, count]
    rfl
  · rw [isLocked, isWiring, listed]
    simp [count, lockedPrefix]

theorem Accepted.outside {overrides : Overrides} (accepted : Accepted overrides) :
    ∀ entry ∈ overrides, isWiring (lower entry.1) = false := fun entry member =>
  isLocked_eq entry.1 ▸ accepted.free entry member

end Overrides

namespace Page

/-- Users cannot rewire the applet: accepted overrides clash with no name of the page, and what is
overridden has the wiring, the plugins and the other fields of the page, as its document shows. -/
theorem withOverrides_wiring (page : Page) {given : Json} {overrides : Overrides}
    (valid : Overrides.validate given = .ok overrides) :
    (∀ name, page.withOverrides overrides ≠ .error (.duplicateName name)) ∧
      ∀ next, page.withOverrides overrides = .ok next →
        next.parameters.wiring = page.parameters.wiring ∧
        next.parameters.plugins = page.parameters.plugins ∧
        { next with parameters := page.parameters } = page ∧
        ∃ read, parse next.text = .ok read ∧ read.wiring = page.parameters.wiring ∧
          read.plugins = page.parameters.plugins := by
  have accepted := Overrides.accepted_of_validate valid
  constructor
  · intro name refused
    have failed := withOverrides_eq_error refused
    rcases page.parameters.withOverrides_accepted accepted with ⟨merged, done, -⟩ | ⟨other, blank⟩
    · rw [done] at failed
      cases failed
    · rw [blank] at failed
      cases failed
  · intro next overridden
    obtain ⟨merged, done, rfl⟩ := withOverrides_eq_ok overridden
    have entries := ParameterSet.entries_of_withOverrides done
    have wiring : merged.wiring = page.parameters.wiring := by
      rw [ParameterSet.wiring, entries, ParameterSet.filter_merge isWiring accepted.outside]
      rfl
    have plugins := ParameterSet.plugins_of_wiring wiring
    have read := parseChars_chars { page with parameters := merged }
    rw [← parse_text_eq] at read
    exact ⟨wiring, plugins, rfl, merged, read, wiring, plugins⟩

def single : Page where
  title := "Chess"
  code := "chess.Applet"
  archive := ["chess.jar"]
  width := 640
  height := 480
  fallbackText := "No applet."
  parameters :=
    (ParameterSet.ofList
      [("port", "5000"), ("plugins.count", "1"), ("plugins.0.classname", "chess.Console"),
       ("savePrefsUrl", "/prefs")]).toOption.getD .empty

theorem withOverrides_wiring_single :
    ∃ next, single.withOverrides [("SavePrefsURL", "/own"), ("Colour", "red")] = .ok next ∧
      next.parameters.wiring =
        [("port", "5000"), ("plugins.count", "1"), ("plugins.0.classname", "chess.Console")] := by
  have valid : Overrides.validate
      (.object [("SavePrefsURL", .string "/own"), ("Colour", .string "red")]) =
      .ok [("SavePrefsURL", "/own"), ("Colour", "red")] := by rfl
  have wiring : single.parameters.wiring =
      [("port", "5000"), ("plugins.count", "1"), ("plugins.0.classname", "chess.Console")] := by
    decide
  have done : (single.withOverrides
      [("SavePrefsURL", "/own"), ("Colour", "red")]).toOption.isSome = true := by
    decide
  cases overridden : single.withOverrides [("SavePrefsURL", "/own"), ("Colour", "red")] with
  | error error => rw [overridden] at done; cases done
  | ok next =>
      have kept := ((withOverrides_wiring single valid).2 next overridden).1
      exact ⟨next, rfl, kept.trans wiring⟩

end Page

end AppletPage
