import AppletPage.Config.Issue
import AppletPage.Files.Failure
import AppletPage.Json.Pairs
import AppletPage.Json.Reader
import AppletPage.Page.Parse
import AppletPage.Preference.User
import AppletPage.Text.Wide

/-! Everything that keeps work from being done. -/

namespace AppletPage

open Text

inductive NumberError where
  | noInteger (text : String)
  | longInteger (digits : Nat)
deriving DecidableEq

inductive Failure where
  | parameter (error : ParameterError)
  | pluginList (error : PluginError)
  | markup (error : Markup.MarkupError)
  | encoding (malformed : Utf8.Malformed)
  | unencodable (error : Unencodable)
  | json (error : Json.ReadError)
  | pair (error : Json.PairError)
  | mapping (error : Json.MappingError)
  | config (issues : List Issue)
  | overrides (error : OverridesError)
  | username (invalid : User.InvalidName)
  /-- A file of preferences that holds none. -/
  | corrupt (name : String)
  | file (error : FileError)
  | number (error : NumberError)
  | emptyList
  /-- Data of too many levels for an answer. -/
  | deepData
  /-- Data of too many levels for a text. -/
  | deepText

namespace NumberError

def excerptLength : Nat := 200

def message : NumberError → String
  | noInteger text =>
      "invalid literal for int() with base 10: "
        ++ String.ofList ((quote text).toList.take excerptLength)
  | longInteger digits => Json.longIntegerMessage digits

end NumberError

namespace Failure

def depthMessage : String := "Maximum serialization depth exceeded"

def ofParse : Page.ParseError → Failure
  | .markup error => markup error
  | .parameter error => parameter error
  | .encoding malformed => encoding malformed

def message : Failure → String
  | parameter error => error.message
  | pluginList error => error.message
  | markup error => error.message
  | encoding malformed => malformed.message
  | unencodable error => error.message
  | json error => error.message
  | pair error => error.message
  | mapping error => error.message
  | config _ => "Invalid configuration"
  | overrides error => error.message
  | username invalid => invalid.message
  | corrupt name => "Corrupt preferences file: " ++ name
  | file error => error.message
  | number error => error.message
  | emptyList => "'list' object has no attribute 'parent'"
  | deepData => depthMessage
  | deepText => "Error serializing to JSON: ValueError: " ++ depthMessage

end Failure

end AppletPage
