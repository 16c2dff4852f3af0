import AppletPage.Config.Basic
import AppletPage.Config.Field

/-! Reading a configuration from a JSON value. A name that is missing has its usual value, a name
that is not known is passed over, and all issues are reported in the order of the names. -/

namespace AppletPage.Config

variable {α : Type}

def field (fields : List (String × Json)) (name : String) (usual : α)
    (check : Json → Checked α) : Checked α :=
  match Mapping.get? fields name with
  | none => .ok usual
  | some value => (check value).under (.name name)

def record (name : String) (build : List (String × Json) → Checked α) (value : Json) :
    Checked α :=
  match value with
  | .object fields => build fields
  | _ => .fail (.notRecord name)

def readNetwork (fields : List (String × Json)) : Checked Network :=
  let usual : Network := {}
  Checked.give Network.mk
    |>.apply (field fields "bind_host" usual.bindHost text)
    |>.apply (field fields "http_port" usual.httpPort port)

def readApplet (fields : List (String × Json)) : Checked Applet :=
  let usual : Applet := {}
  Checked.give Applet.mk
    |>.apply (field fields "title" usual.title text)
    |>.apply (field fields "code" usual.code nonemptyText)
    |>.apply (field fields "archive" usual.archive texts)
    |>.apply (field fields "width" usual.width positive)
    |>.apply (field fields "height" usual.height positive)
    |>.apply (field fields "fallback_text" usual.fallbackText text)
    |>.apply (field fields "port" usual.port port)
    |>.apply (field fields "server_classname" usual.serverClassname nonemptyText)
    |>.apply (field fields "plugins" usual.plugins texts)
    |>.apply (field fields "boards" usual.boards texts)
    |>.apply (field fields "pieces" usual.pieces texts)

def readPreferences (fields : List (String × Json)) : Checked Preferences :=
  let usual : Preferences := {}
  Checked.give Preferences.mk
    |>.apply (field fields "enabled" usual.enabled boolean)
    |>.apply (field fields "save_prefs_url" usual.savePrefsUrl optionalText)
    |>.apply (field fields "reserve_space_url" usual.reserveSpaceUrl optionalText)

def readDirectories (fields : List (String × Json)) : Checked Directories :=
  Checked.give Directories.mk
    |>.apply (field fields "logs_dir" none optionalText)
    |>.apply (field fields "prefs_dir" none optionalText)

def readLogging (fields : List (String × Json)) : Checked Logging :=
  let usual : Logging := {}
  Checked.give Logging.mk
    |>.apply (field fields "max_size_mb" usual.maxSize positive)
    |>.apply (field fields "backup_count" usual.backupCount positive)

def readFields (fields : List (String × Json)) : Checked Config :=
  Checked.give Config.mk
    |>.apply (field fields "version" "1" text)
    |>.apply (field fields "network" {} (record "NetworkConfig" readNetwork))
    |>.apply (field fields "applet" {} (record "AppletConfig" readApplet))
    |>.apply (field fields "prefs" {} (record "PrefsConfig" readPreferences))
    |>.apply (field fields "paths" {} (record "PathOverrides" readDirectories))
    |>.apply (field fields "logging" {} (record "LoggingConfig" readLogging))

def ofJson (value : Json) : Checked Config := record "PageConfig" readFields value

end AppletPage.Config
