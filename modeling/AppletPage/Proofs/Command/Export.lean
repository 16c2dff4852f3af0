import AppletPage.Command.Export
import AppletPage.Proofs.Files.Writing
import AppletPage.Proofs.Host.Layout
import AppletPage.Proofs.Json.RoundTrip

/-! What the command writes where the home of a page stands. -/

namespace AppletPage.Command

open HostAction Text

/-- The options name a home that has its directories and a configuration that makes a page. -/
structure Exports (options : Options) (home : Pathname) (config : Config) (page : Page)
    (host : Host) : Prop where
  named : homeOf options host = .ok home
  plain : home.IsPlain
  stands : (Layout.ofHome home).Stands host.files
  loaded : (Layout.loadConfig (Layout.ofHome home)).run host = (.ok config, host)
  built : Page.build config.applet (some config.preferences) = .ok page

variable {arguments : List String} {options : Options} {home : Pathname} {config : Config}
  {page : Page} {host : Host}

theorem run_loadPage (exports : Exports options home config page host) :
    (loadPage options).run host = (.ok page, host) := by
  rw [loadPage, run_bind, Work.run_get]
  simp only [run_bind, exports.named, run_ofExcept_ok,
    Layout.run_ensure_of_stands exports.plain exports.stands, exports.loaded, exports.built]

theorem run_page (parsed : parse arguments = .ok (.run options))
    (exports : Exports options home config page host)
    (noList : options.listParameters = false) (noPlace : options.out = none) :
    (run arguments).run host = (.ok (.done page.text), host) := by
  rw [run, parsed]
  simp only [run_bind, exportPage, run_loadPage exports, noList, noPlace, Bool.false_eq_true,
    if_false]
  rfl

theorem read_of_run {out : String} {outcome : Outcome} {after : Host}
    (parsed : parse arguments = .ok (.run options))
    (exports : Exports options home config page host)
    (noList : options.listParameters = false) (placed : options.out = some (.text out))
    (done : (run arguments).run host = (.ok outcome, after)) :
    outcome = .done "" ∧ after.files.read (Pathname.ofText out) = .ok page.bytes := by
  rw [run, parsed] at done
  obtain ⟨printed, between, exported, last⟩ := run_bind_eq_ok done
  cases last
  rw [exportPage, run_bind, run_loadPage exports] at exported
  simp only [noList, placed, Bool.false_eq_true, if_false] at exported
  obtain ⟨_, _, ran, last⟩ := run_bind_eq_ok exported
  cases last
  obtain ⟨files, made, rfl⟩ := run_ofFiles_eq_ok ran
  obtain ⟨_, _, -, written⟩ := Work.run_bind_eq_ok made
  exact ⟨rfl, FileAction.read_of_write written⟩

/-! The list of parameters and plugins. -/

theorem itemsExact_parameterItem (entries : List (String × String)) :
    Json.ItemsExact (entries.map App.parameterItem) := by
  induction entries with
  | nil => trivial
  | cons entry rest ih => exact ⟨⟨by simp, trivial, trivial, trivial⟩, ih⟩

theorem depthOfItems_parameterItem_le (entries : List (String × String)) :
    Json.depthOfItems (entries.map App.parameterItem) ≤ 2 := by
  induction entries with
  | nil => exact Nat.zero_le 2
  | cons entry rest ih => exact Nat.max_le.mpr ⟨Nat.le_refl 2, ih⟩

theorem read_parameterListing (page : Page) (plugins : List String) :
    Json.read ((parameterListing page plugins).write Json.Style.indented ++ "\n") =
      .ok (parameterListing page plugins) := by
  have ending : ∀ c ∈ "\n".toList, Json.isSpace c = true := List.all_eq_true.mp (by decide)
  refine Json.read_written Json.Style.indented ?_ ?_ ending
  · exact ⟨by simp, itemsExact_parameterItem _, Json.itemsExact_string plugins, trivial⟩
  · have items := depthOfItems_parameterItem_le page.parameters.entries
    have texts := Json.depthOfItems_string_le plugins
    simp only [parameterListing, Json.strings, Json.depth, Json.depthOfFields, Json.depthLimit]
    omega

theorem run_list {plugins : List String} (parsed : parse arguments = .ok (.run options))
    (exports : Exports options home config page host) (list : options.listParameters = true)
    (listed : page.parameters.plugins = .ok plugins) :
    (run arguments).run host =
      (.ok (.done ((parameterListing page plugins).write Json.Style.indented ++ "\n")), host) := by
  rw [run, parsed]
  simp only [run_bind, exportPage, run_loadPage exports, list, if_true, listed, run_ofExcept_ok]
  rfl

end AppletPage.Command
