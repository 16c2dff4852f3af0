import AppletPage.Host.Basic
import AppletPage.Text.Blank

/-! The home of a page: the directory that holds its configuration, its preferences and its
journal. It is the one that the environment names, or else the usual one of the platform. -/

namespace AppletPage

open Text

namespace Home

def withoutSlashes (text : String) : String :=
  String.ofList (text.toList.reverse.dropWhile (· = '/')).reverse

def ownHome? (host : Host) : Option String :=
  match host.lookup? "HOME" with
  | some home => some home
  | none => Mapping.get? host.homes host.self

def homeOf (host : Host) (part : String) : Option String :=
  match part.toList with
  | ['~'] => ownHome? host
  | '~' :: user => Mapping.get? host.homes (String.ofList user)
  | _ => none

/-- The name with a tilde at its start replaced by the home directory it stands for. -/
def expand (host : Host) (path : Pathname) : Except FileError Pathname :=
  match path.root, path.parts with
  | .none, part :: rest =>
      if part.toList.head? ≠ some '~' then .ok path
      else if part.toList.contains '\x00' then .error .zeroByte
      else
        match homeOf host part with
        | none => .error .noHome
        | some home =>
            let home := withoutSlashes home
            let home := if home = "" then "/" else home
            if home.toList.head? = some '~' then .error .noHome
            else
              let base := Pathname.ofText home
              .ok { base with parts := base.parts ++ rest }
  | _, _ => .ok path

def userHome (host : Host) : Except FileError Pathname := expand host (Pathname.ofText "~")

def usual (host : Host) (platform : Platform) : Except FileError Pathname := do
  let below (names : List String) : Except FileError Pathname :=
    (userHome host).map fun home => { home with parts := home.parts ++ names }
  match platform with
  | .windows =>
      match host.setting? "LOCALAPPDATA" <|> host.setting? "APPDATA" with
      | some base => return (Pathname.ofText base).child "JinPage"
      | none => below ["AppData", "Local", "JinPage"]
  | .darwin => below ["Library", "Application Support", "JinPage"]
  | .linux =>
      match host.setting? "XDG_DATA_HOME" with
      | some base => return (Pathname.ofText base).child "jinpage"
      | none => below [".local", "share", "jinpage"]

def variableName : String := "JINPAGE_HOME"

def anchored (host : Host) (path : Pathname) : Except FileError Pathname :=
  if path.isAbsolute then .ok path else (userHome host).map (·.join path)

def resolve (host : Host) (setting : Option String) (platform : Platform) :
    Except FileError Pathname :=
  let named := trim (setting.getD "")
  if named = "" then do
    host.files.resolve (← usual host platform)
  else do
    let path ← expand host (Pathname.ofText named)
    host.files.resolve (← anchored host path)

def ofEnvironment (host : Host) (platform : Platform := .linux) : Except FileError Pathname :=
  resolve host (host.lookup? variableName) platform

end Home

end AppletPage
