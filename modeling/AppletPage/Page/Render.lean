import AppletPage.Markup.Escape
import AppletPage.Page.Basic
import AppletPage.Text.Utf8

/-! The document of a page. Every text of the page stands in it escaped, so that all markup is the
document's own. -/

namespace AppletPage.Page

open Markup

def escaped (text : String) : List Char := escape text.toList

def documentHead : List Char :=
  ("<!DOCTYPE HTML PUBLIC \"-//W3C//DTD HTML 4.01 Transitional//EN\">\n" ++
    "<html>\n" ++
    "<head>\n" ++
    "<meta http-equiv=\"Content-Type\" content=\"text/html; charset=utf-8\">\n" ++
    "<title>").toList

def bodyHead : List Char :=
  ("</title>\n" ++
    "</head>\n" ++
    "\n" ++
    "<body>\n" ++
    "\n" ++
    "<center>\n" ++
    "<applet code=\"").toList

def archiveHead : List Char := "\"\n        archive=\"".toList

def widthHead : List Char := "\"\n        width=\"".toList

def heightHead : List Char := "\" height=\"".toList

def appletEnd : List Char := "\">\n".toList

def parameterHead : List Char := "  <param name=\"".toList

def valueHead : List Char := "\" value=\"".toList

def parameterEnd : List Char := "\">\n".toList

def fallbackHead : List Char := "\n  ".toList

def documentEnd : List Char :=
  ("\n</applet>\n" ++
    "</center>\n" ++
    "\n" ++
    "</body>\n" ++
    "</html>\n").toList

/-! The document over any kind of characters, of which the fixed ones are given. -/

variable {α : Type} (fixed : List Char → List α)

def lineOf (name value : List α) : List α :=
  fixed parameterHead ++ name ++ fixed valueHead ++ value ++ fixed parameterEnd

def layOut (title code archive width height lines fallbackText : List α) : List α :=
  fixed documentHead ++ title
    ++ fixed bodyHead ++ code
    ++ fixed archiveHead ++ archive
    ++ fixed widthHead ++ width
    ++ fixed heightHead ++ height
    ++ fixed appletEnd ++ lines
    ++ fixed fallbackHead ++ fallbackText ++ fixed documentEnd

/-! The document of a page of characters. -/

def parameterLine (entry : String × String) : List Char :=
  lineOf id (escaped entry.1) (escaped entry.2)

def archiveText (archive : List String) : String := String.intercalate ", " archive

def chars (page : Page) : List Char :=
  layOut id (escaped page.title) (escaped page.code) (escaped (archiveText page.archive))
    (escaped (toString page.width)) (escaped (toString page.height))
    (page.parameters.entries.flatMap parameterLine) (escaped page.fallbackText)

def text (page : Page) : String := String.ofList page.chars

/-- The bytes of a page's text. They are what `render` gives unless a number is too long. -/
def bytes (page : Page) : Text.Bytes := Text.Utf8.encode page.text

end AppletPage.Page
