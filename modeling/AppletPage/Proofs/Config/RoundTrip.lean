import AppletPage.Config.Printer
import AppletPage.Proofs.Config.Bounds
import AppletPage.Proofs.Json.RoundTrip

/-! A configuration, read back from the value it is written as. A name whose value is absent is not
written, and a name that is missing is read as absent. -/

namespace AppletPage.Config

/-! Values. -/

theorem port_integer {port : Int} (valid : IsPort port) :
    Config.port (.integer port) = .ok port := by
  rw [Config.port, positive, integer, atLeast, if_neg (Int.not_lt.mpr valid.positive), atMost,
    if_neg (Int.not_lt.mpr valid.bounded)]

theorem positive_integer {size : Int} (valid : 1 ≤ size) : positive (.integer size) = .ok size := by
  rw [positive, integer, atLeast, if_neg (Int.not_lt.mpr valid)]

theorem nonemptyText_string {text : String} (nonempty : text ≠ "") :
    nonemptyText (.string text) = .ok text := by
  rw [nonemptyText, if_neg nonempty]

theorem listFrom_text (items : List String) (index : Nat) :
    Checked.listFrom text index (items.map .string) = .ok items := by
  induction items generalizing index with
  | nil => rfl
  | cons item rest ih =>
      rw [List.map_cons, Checked.listFrom, ih]
      rfl

theorem texts_strings (items : List String) : texts (.strings items) = .ok items :=
  listFrom_text items 0

/-! Fields. -/

section

variable {α β : Type} {fields : List (String × Json)} {name : String} {usual value : α}
  {check : Json → Checked α}

theorem apply_ok {function : Checked (α → β)} {argument : Checked α} {f : α → β} {x : α}
    (first : function = .ok f) (second : argument = .ok x) :
    function.apply argument = .ok (f x) := by
  rw [first, second]
  rfl

theorem field_present {given : Json} (found : Mapping.get? fields name = some given)
    (valid : check given = .ok value) : field fields name usual check = .ok value := by
  rw [field, found]
  dsimp only
  rw [valid]
  rfl

end

/-! Parts, field by field from the last to the first. -/

theorem readNetwork_toJson {network : Network} (httpPort : IsPort network.httpPort) :
    record "NetworkConfig" readNetwork network.toJson = .ok network := by
  obtain ⟨bindHost, port⟩ := network
  refine apply_ok ?_ (field_present rfl (port_integer httpPort))
  exact apply_ok rfl (field_present rfl rfl)

theorem readApplet_toJson {applet : Applet} (lasting : applet.Lasting) :
    record "AppletConfig" readApplet applet.toJson = .ok applet := by
  obtain ⟨title, code, archive, width, height, fallbackText, port, serverClassname, plugins, boards,
    pieces⟩ := applet
  refine apply_ok ?_ (field_present rfl (texts_strings pieces))
  refine apply_ok ?_ (field_present rfl (texts_strings boards))
  refine apply_ok ?_ (field_present rfl (texts_strings plugins))
  refine apply_ok ?_ (field_present rfl (nonemptyText_string lasting.serverClassname))
  refine apply_ok ?_ (field_present rfl (port_integer lasting.port))
  refine apply_ok ?_ (field_present rfl rfl)
  refine apply_ok ?_ (field_present rfl (positive_integer lasting.height.positive))
  refine apply_ok ?_ (field_present rfl (positive_integer lasting.width.positive))
  refine apply_ok ?_ (field_present rfl (texts_strings archive))
  refine apply_ok ?_ (field_present rfl (nonemptyText_string lasting.code))
  exact apply_ok rfl (field_present rfl rfl)

theorem readPreferences_toJson (preferences : Preferences) :
    record "PrefsConfig" readPreferences (preferences.toJson false) = .ok preferences := by
  obtain ⟨enabled, savePrefsUrl, reserveSpaceUrl⟩ := preferences
  cases savePrefsUrl <;> cases reserveSpaceUrl <;> rfl

theorem readDirectories_toJson (directories : Directories) :
    record "PathOverrides" readDirectories (directories.toJson false) = .ok directories := by
  obtain ⟨logs, prefs⟩ := directories
  cases logs <;> cases prefs <;> rfl

theorem readLogging_toJson {logging : Logging} (lasting : logging.Lasting) :
    record "LoggingConfig" readLogging logging.toJson = .ok logging := by
  obtain ⟨maxSize, backupCount⟩ := logging
  refine apply_ok ?_ (field_present rfl (positive_integer lasting.backupCount.positive))
  exact apply_ok rfl (field_present rfl (positive_integer lasting.maxSize.positive))

theorem ofJson_toJsonWith {config : Config} (lasting : Lasting config) :
    ofJson (config.toJsonWith false) = .ok config := by
  obtain ⟨version, network, applet, preferences, directories, logging⟩ := config
  refine apply_ok ?_ (field_present rfl (readLogging_toJson lasting.logging))
  refine apply_ok ?_ (field_present rfl (readDirectories_toJson directories))
  refine apply_ok ?_ (field_present rfl (readPreferences_toJson preferences))
  refine apply_ok ?_ (field_present rfl (readApplet_toJson lasting.applet))
  refine apply_ok ?_ (field_present rfl (readNetwork_toJson lasting.httpPort))
  exact apply_ok rfl (field_present rfl rfl)

/-! The text of a configuration. -/

theorem IsSize.exact {size : Int} (valid : IsSize size) : Json.IsExact (.integer size) :=
  Text.length_toDigits_le (by decide) valid.fits

theorem isExact_strings (items : List String) : Json.IsExact (.strings items) :=
  Json.itemsExact_string items

theorem isExact_applet {applet : Applet} (lasting : applet.Lasting) : Json.IsExact applet.toJson :=
  ⟨by simp, trivial, trivial, isExact_strings applet.archive, lasting.width.exact,
    lasting.height.exact, trivial, lasting.port.isSize.exact, trivial,
    isExact_strings applet.plugins, isExact_strings applet.boards, isExact_strings applet.pieces,
    trivial⟩

theorem isExact_preferences (preferences : Preferences) :
    Json.IsExact (preferences.toJson false) := by
  obtain ⟨enabled, savePrefsUrl, reserveSpaceUrl⟩ := preferences
  cases savePrefsUrl <;> cases reserveSpaceUrl <;>
    simp [Preferences.toJson, optionalField, Json.IsExact, Json.FieldsExact]

theorem isExact_directories (directories : Directories) :
    Json.IsExact (directories.toJson false) := by
  obtain ⟨logs, prefs⟩ := directories
  cases logs <;> cases prefs <;>
    simp [Directories.toJson, optionalField, Json.IsExact, Json.FieldsExact]

theorem isExact_toJsonWith {config : Config} (lasting : Lasting config) :
    Json.IsExact (config.toJsonWith false) :=
  ⟨by simp, trivial, ⟨by simp, trivial, lasting.httpPort.isSize.exact, trivial⟩,
    isExact_applet lasting.applet, isExact_preferences config.preferences,
    isExact_directories config.directories,
    ⟨by simp, lasting.logging.maxSize.exact, lasting.logging.backupCount.exact, trivial⟩, trivial⟩

theorem depth_applet_le (applet : Applet) : Json.depth applet.toJson ≤ 3 := by
  have strings (items : List String) : Json.depth (.strings items) ≤ 2 := by
    have items := Json.depthOfItems_string_le items
    simp only [Json.strings, Json.depth]
    omega
  have archive := strings applet.archive
  have plugins := strings applet.plugins
  have boards := strings applet.boards
  have pieces := strings applet.pieces
  simp only [Applet.toJson, Json.depth, Json.depthOfFields]
  omega

theorem depth_preferences_le (preferences : Preferences) :
    Json.depth (preferences.toJson false) ≤ 3 := by
  obtain ⟨enabled, savePrefsUrl, reserveSpaceUrl⟩ := preferences
  cases savePrefsUrl <;> cases reserveSpaceUrl <;>
    simp [Preferences.toJson, optionalField, Json.depth, Json.depthOfFields]

theorem depth_directories_le (directories : Directories) :
    Json.depth (directories.toJson false) ≤ 3 := by
  obtain ⟨logs, prefs⟩ := directories
  cases logs <;> cases prefs <;>
    simp [Directories.toJson, optionalField, Json.depth, Json.depthOfFields]

theorem depth_toJsonWith_le (config : Config) :
    Json.depth (config.toJsonWith false) ≤ Json.depthLimit := by
  have applet := depth_applet_le config.applet
  have preferences := depth_preferences_le config.preferences
  have directories := depth_directories_le config.directories
  simp only [toJsonWith, Network.toJson, Logging.toJson, Json.depth, Json.depthOfFields,
    Json.depthLimit]
  omega

end AppletPage.Config
