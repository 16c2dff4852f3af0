import AppletPage.Config.Basic
import AppletPage.Parameter.Override
import AppletPage.Parameter.Plugin
import AppletPage.Parameter.Token

/-! Pages that hold the applet, and the parameters that a configuration gives it. -/

namespace AppletPage

structure Page where
  title : String
  code : String
  archive : List String
  width : Int
  height : Int
  fallbackText : String
  parameters : ParameterSet
deriving DecidableEq

namespace Page

def portKey : String := "port"

def serverKey : String := "server.classname"

def boardsKey : String := "resources.boards"

def piecesKey : String := "resources.pieces"

def savePrefsKey : String := "savePrefsUrl"

def reserveSpaceKey : String := "reserveSpaceUrl"

/-- The class names of plugins, of which the first has a number, each under its number. -/
def pluginEntries (index : Nat) : List String → List (String × String)
  | [] => []
  | name :: rest => (Plugin.classnameKey index, name) :: pluginEntries (index + 1) rest

def urlEntry (name : String) (url : Option String) : List (String × String) :=
  match url with
  | some text => if text = "" then [] else [(name, text)]
  | none => []

def preferenceEntries : Option Config.Preferences → List (String × String)
  | none => []
  | some preferences =>
      urlEntry savePrefsKey preferences.savePrefsUrl
        ++ urlEntry reserveSpaceKey preferences.reserveSpaceUrl

def parametersFor (applet : Config.Applet) (preferences : Option Config.Preferences) :
    Except ParameterError ParameterSet := do
  let boards ← joinTokens applet.boards
  let pieces ← joinTokens applet.pieces
  ParameterSet.ofList
    ([(portKey, toString applet.port), (serverKey, applet.serverClassname),
      (Plugin.countKey, toString applet.plugins.length)]
      ++ pluginEntries 0 applet.plugins
      ++ [(boardsKey, boards), (piecesKey, pieces)]
      ++ preferenceEntries preferences)

def build (applet : Config.Applet) (preferences : Option Config.Preferences) :
    Except ParameterError Page :=
  match parametersFor applet preferences with
  | .error error => .error error
  | .ok parameters =>
      .ok
        { title := applet.title
          code := applet.code
          archive := applet.archive
          width := applet.width
          height := applet.height
          fallbackText := applet.fallbackText
          parameters }

def withOverrides (page : Page) (overrides : List (String × String)) :
    Except ParameterError Page :=
  match page.parameters.withOverrides overrides with
  | .ok parameters => .ok { page with parameters }
  | .error error => .error error

end Page

end AppletPage
