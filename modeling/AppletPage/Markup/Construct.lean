import AppletPage.Markup.Tag
import AppletPage.Text.Quoted

/-! Documents cut into constructs: start tags, end tags, and all else. Reading is lenient: a
construct that does not end is passed over up to the next bracket. -/

namespace AppletPage.Markup

open Text

inductive Construct where
  | startTag (tag : Tag)
  | endTag (name : String)
  | other
deriving DecidableEq

inductive MarkupError where
  | longReference (digits : Nat)
  | unknownSection (keyword : String)
  | unnamedSection (excerpt : String)
deriving DecidableEq

namespace MarkupError

def message : MarkupError → String
  | longReference digits => Json.longIntegerMessage digits
  | unknownSection keyword => "unknown status keyword " ++ quote keyword ++ " in marked section"
  | unnamedSection excerpt => "expected name token at " ++ quote excerpt

end MarkupError

namespace Construct

abbrev Step := Except MarkupError (Construct × List Char)

def pass (rest : List Char) : Step := .ok (.other, rest)

/-- Passes over text in which references are read, from `text` to `rest`. -/
def passText (text rest : List Char) : Step :=
  match Reference.decode text with
  | .ok _ => pass rest
  | .error error => .error (.longReference error.digits)

def after? (mark : Char) (text : List Char) : Option (List Char) :=
  match text.dropWhile (· ≠ mark) with
  | [] => none
  | _ :: rest => some rest

/-- Passes over a construct that does not end: through the first closing bracket, or up to the next
opening one, or its first character alone. -/
def unfinished (text : List Char) : Step :=
  match text with
  | [] => pass []
  | c :: rest =>
      match after? '>' rest with
      | some next => passText (c :: rest.takeWhile (· ≠ '>') ++ ['>']) next
      | none =>
          if rest.contains '<' then
            passText (c :: rest.takeWhile (· ≠ '<')) (rest.dropWhile (· ≠ '<'))
          else
            passText [c] rest

/-- Passes over `text` to the end of the construct, if there is one. -/
def passTo (text : List Char) (rest? : Option (List Char)) : Step :=
  match rest? with
  | some rest => pass rest
  | none => unfinished text

/-! Comments, declarations and sections. -/

/-- What follows the marks of a list with blanks between them, if the text starts so. -/
def marksEnd? : List Char → List Char → Option (List Char)
  | [], text => some text
  | mark :: marks, text =>
      match text.dropWhile isBlank with
      | c :: rest => if c = mark then marksEnd? marks rest else none
      | [] => none

/-- What follows the first place that has `first`, and then the marks with blanks before each. -/
def closing? (first : List Char) (marks : List Char) : List Char → Option (List Char)
  | [] => none
  | c :: rest =>
      match if first.isPrefixOf (c :: rest) then marksEnd? marks ((c :: rest).drop first.length)
        else none with
      | some next => some next
      | none => closing? first marks rest

def commentEnd? (text : List Char) : Option (List Char) := closing? ['-', '-'] ['>'] text

def sectionWords : List String := ["temp", "cdata", "ignore", "include", "rcdata"]

def conditionWords : List String := ["if", "else", "endif"]

def inSectionName (c : Char) : Bool :=
  isLetter c || isDigit c || c = '-' || c = '_' || c = '.'

def excerptLength : Nat := 20

/-- A section, whose `text` starts with its opening and goes on with `body` behind it. -/
def markedSection (text body : List Char) : Step :=
  match body with
  | [] => unfinished text
  | c :: _ =>
      if isLetter c then
        let name := body.takeWhile inSectionName
        let afterName := body.dropWhile inSectionName
        let blanks := afterName.takeWhile isBlank
        if (afterName.dropWhile isBlank).isEmpty then unfinished text
        else
          let word := lower (String.ofList name)
          if word ∈ sectionWords then passTo text (closing? [']'] [']', '>'] body)
          else if word ∈ conditionWords then passTo text (closing? [']'] ['>'] body)
          else .error (.unknownSection (String.ofList (name ++ blanks)))
      else
        .error (.unnamedSection (String.ofList (text.take excerptLength)))

/-! Tags. -/

def rawNames : List String := ["script", "style"]

def endTagOf? (name : List Char) (text : List Char) : Option (List Char) :=
  match text with
  | '<' :: '/' :: rest =>
      let rest := rest.dropWhile isBlank
      if (rest.take name.length).map Char.toLower = name then
        marksEnd? ['>'] (rest.drop name.length)
      else
        none
  | _ => none

def afterRaw (name : List Char) : List Char → List Char
  | [] => []
  | c :: rest =>
      match endTagOf? name (c :: rest) with
      | some next => next
      | none => afterRaw name rest

/-- A start tag, whose `text` starts with its opening bracket and goes on with `body`. -/
def startTagFrom (text body : List Char) : Step :=
  match Tag.scan body with
  | (_, _, .unfinished) => unfinished text
  | (name, attributes, ending) =>
      match Tag.decodeAttributes attributes with
      | .error error => .error (.longReference error.digits)
      | .ok attributes =>
          let name := lower (String.ofList name)
          match ending with
          | .complete selfClosing rest =>
              let next :=
                if !selfClosing && name ∈ rawNames then afterRaw name.toList rest else rest
              .ok (.startTag { name, attributes, selfClosing }, next)
          | .junk rest => pass rest
          | .unfinished => unfinished text

/-- The name of an end tag that ends right behind it, with blanks at both sides. -/
def plainEndName? (body : List Char) : Option (List Char) :=
  let body := body.dropWhile isBlank
  let inName (c : Char) := inSectionName c || c = ':'
  match body with
  | c :: _ =>
      if isLetter c then
        (marksEnd? ['>'] (body.dropWhile inName)).map fun _ => body.takeWhile inName
      else
        none
  | [] => none

/-- The name of an end tag: a plain one, or any text that could start a start tag. -/
def endName? (body : List Char) : Option (List Char) :=
  match plainEndName? body with
  | some name => some name
  | none =>
      match body with
      | c :: _ => if isLetter c then some (body.takeWhile Tag.isNameChar) else none
      | [] => none

/-- An end tag, whose `text` starts with its opening and goes on with `body` behind it. -/
def endTagFrom (text body : List Char) : Step :=
  match after? '>' body with
  | none => unfinished text
  | some rest =>
      match endName? body with
      | some name => .ok (.endTag (lower (String.ofList name)), rest)
      | none => pass rest

def step (text : List Char) : Step :=
  match text with
  | '<' :: '/' :: body => endTagFrom text body
  | '<' :: '!' :: '-' :: '-' :: body => passTo text (commentEnd? body)
  | '<' :: '!' :: '[' :: body => markedSection text body
  | '<' :: '!' :: body => passTo text (after? '>' body)
  | '<' :: '?' :: body => passTo text (after? '>' body)
  | '<' :: c :: rest => if isLetter c then startTagFrom text (c :: rest) else pass (c :: rest)
  | ['<'] => pass []
  | text => passText (text.takeWhile (· ≠ '<')) (text.dropWhile (· ≠ '<'))

/-- The constructs of a text but for its first `skip` characters, which are passed over. -/
def listAfter : (skip : Nat) → List Char → Except MarkupError (List Construct)
  | _, [] => .ok []
  | skip + 1, _ :: rest => listAfter skip rest
  | 0, c :: rest =>
      match step (c :: rest) with
      | .error error => .error error
      | .ok (construct, next) =>
          match listAfter (rest.length - next.length) rest with
          | .ok others => .ok (construct :: others)
          | .error error => .error error

def list (document : List Char) : Except MarkupError (List Construct) := listAfter 0 document

end Construct

end AppletPage.Markup
