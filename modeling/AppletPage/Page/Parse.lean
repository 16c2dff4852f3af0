import AppletPage.Markup.Construct
import AppletPage.Page.Basic
import AppletPage.Text.Malformed

/-! Reading the parameters back from a document: those of the `param` tags inside an applet. -/

namespace AppletPage.Page

open Markup Text

/-- The name and the value of a `param` tag, if it has a name; a missing value is empty. -/
def parameterOf? (tag : Tag) : Option (String × String) :=
  (tag.value? "name").map fun name => (name, (tag.value? "value").getD "")

/-- The parameters among constructs that follow at a depth of open applets. -/
def parametersAt (depth : Nat) : List Construct → List (String × String)
  | [] => []
  | .startTag tag :: rest =>
      if tag.name = "applet" then
        parametersAt (if tag.selfClosing then depth else depth + 1) rest
      else if tag.name = "param" && depth ≠ 0 then
        (parameterOf? tag).toList ++ parametersAt depth rest
      else
        parametersAt depth rest
  | .endTag name :: rest =>
      parametersAt (if name = "applet" then depth - 1 else depth) rest
  | .other :: rest => parametersAt depth rest

inductive ParseError where
  | markup (error : MarkupError)
  | parameter (error : ParameterError)
  | encoding (malformed : Utf8.Malformed)
deriving DecidableEq

def parseChars (document : List Char) : Except ParseError ParameterSet :=
  match Construct.list document with
  | .error error => .error (.markup error)
  | .ok constructs =>
      match ParameterSet.ofList (parametersAt 0 constructs) with
      | .error error => .error (.parameter error)
      | .ok parameters => .ok parameters

def parse (document : String) : Except ParseError ParameterSet := parseChars document.toList

def parseBytes (document : Bytes) : Except ParseError ParameterSet :=
  match Utf8.decodeChars document with
  | .error malformed => .error (.encoding malformed)
  | .ok document => parseChars document

end AppletPage.Page
