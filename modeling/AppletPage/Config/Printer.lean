import AppletPage.Config.Basic
import AppletPage.Json.Printer

/-! Configurations as JSON values, with or without the names whose value is absent. -/

namespace AppletPage.Config

def Network.toJson (network : Network) : Json :=
  .object [("bind_host", .string network.bindHost), ("http_port", .integer network.httpPort)]

def Applet.toJson (applet : Applet) : Json :=
  .object
    [("title", .string applet.title), ("code", .string applet.code),
     ("archive", .strings applet.archive), ("width", .integer applet.width),
     ("height", .integer applet.height), ("fallback_text", .string applet.fallbackText),
     ("port", .integer applet.port), ("server_classname", .string applet.serverClassname),
     ("plugins", .strings applet.plugins), ("boards", .strings applet.boards),
     ("pieces", .strings applet.pieces)]

def optionalField (name : String) (value : Option String) (always : Bool) :
    List (String × Json) :=
  match value with
  | some text => [(name, .string text)]
  | none => if always then [(name, .null)] else []

def Preferences.toJson (preferences : Preferences) (always : Bool) : Json :=
  .object
    (("enabled", .bool preferences.enabled)
      :: optionalField "save_prefs_url" preferences.savePrefsUrl always
      ++ optionalField "reserve_space_url" preferences.reserveSpaceUrl always)

def Directories.toJson (directories : Directories) (always : Bool) : Json :=
  .object
    (optionalField "logs_dir" directories.logs always
      ++ optionalField "prefs_dir" directories.prefs always)

def Logging.toJson (logging : Logging) : Json :=
  .object
    [("max_size_mb", .integer logging.maxSize), ("backup_count", .integer logging.backupCount)]

/-- The value of a configuration; names whose value is absent are there if `always` is set. -/
def toJsonWith (config : Config) (always : Bool) : Json :=
  .object
    [("version", .string config.version), ("network", config.network.toJson),
     ("applet", config.applet.toJson), ("prefs", config.preferences.toJson always),
     ("paths", config.directories.toJson always), ("logging", config.logging.toJson)]

def toJson (config : Config) : Json := config.toJsonWith true

def fileText (config : Config) : String :=
  (config.toJsonWith false).write Json.Style.portable ++ "\n"

end AppletPage.Config
