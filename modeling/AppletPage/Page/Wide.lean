import AppletPage.Json.Reader
import AppletPage.Page.Render
import AppletPage.Text.Wide

/-! Pages of any texts, and the bytes of their documents. A document has none if a number of the
page is too long to be written, or if a text holds a surrogate outside of a pair. -/

namespace AppletPage

open Markup Text

/-- A page whose texts may hold surrogates outside of pairs, with parameters of any names. -/
structure WidePage where
  title : Wide
  code : Wide
  archive : List Wide
  width : Int
  height : Int
  fallbackText : Wide
  entries : List (Wide × Wide)

inductive RenderError where
  | longNumber
  | unencodable (error : Unencodable)
deriving DecidableEq

def RenderError.message : RenderError → String
  | longNumber =>
      "Exceeds the limit (" ++ toString Json.digitLimit
        ++ " digits) for integer string conversion; use sys.set_int_max_str_digits() to increase the limit"
  | unencodable error => error.message

/-- A number has no more digits than are written. -/
def IsShort (value : Int) : Prop := (Nat.toDigits 10 value.natAbs).length ≤ Json.digitLimit

instance (value : Int) : Decidable (IsShort value) :=
  inferInstanceAs (Decidable (_ ≤ Json.digitLimit))

namespace WidePage

def isScalar (page : WidePage) : Bool :=
  page.title.isScalar && page.code.isScalar && page.archive.all Wide.isScalar
    && page.fallbackText.isScalar
    && page.entries.all fun entry => entry.1.isScalar && entry.2.isScalar

def escaped (text : Wide) : Wide := text.rewrite escapeChar

def escapedNumber (value : Int) : Wide := escaped (Wide.ofText (toString value))

def archiveText (archive : List Wide) : Wide := (Wide.ofText ", ").intercalate archive

def parameterLine (entry : Wide × Wide) : Wide :=
  Page.lineOf Wide.ofChars (escaped entry.1) (escaped entry.2)

def points (page : WidePage) : Wide :=
  Page.layOut Wide.ofChars (escaped page.title) (escaped page.code)
    (escaped (archiveText page.archive)) (escapedNumber page.width) (escapedNumber page.height)
    (page.entries.flatMap parameterLine) (escaped page.fallbackText)

def render (page : WidePage) : Except RenderError Bytes :=
  if IsShort page.width ∧ IsShort page.height then page.points.encode.mapError .unencodable
  else .error .longNumber

end WidePage

namespace Page

def wide (page : Page) : WidePage where
  title := .ofText page.title
  code := .ofText page.code
  archive := page.archive.map .ofText
  width := page.width
  height := page.height
  fallbackText := .ofText page.fallbackText
  entries := page.parameters.entries.map fun entry => (.ofText entry.1, .ofText entry.2)

def render (page : Page) : Except RenderError Bytes := page.wide.render

end Page

end AppletPage
