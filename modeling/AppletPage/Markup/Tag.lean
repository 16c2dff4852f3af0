import AppletPage.Markup.Reference
import AppletPage.Text.Blank
import AppletPage.Text.Lower

/-! Start tags: a name, and attributes with or without values. Reading is lenient. What cannot be
read as a whole tag is either unfinished, or junk that is passed over. -/

namespace AppletPage.Markup

open Text

/-- The name of an attribute, and its value if it has one. Neither has been decoded. -/
abbrev RawAttribute := List Char × Option (List Char)

namespace Attribute

def mayFollow (previous : Char) : Bool :=
  previous = '\'' || previous = '"' || previous = '/' || isBlank previous

def beginsName (c : Char) : Bool := !(isBlank c || c = '/' || c = '>')

def inName (c : Char) : Bool := !(isBlank c || c = '/' || c = '=' || c = '>')

def inBareValue (c : Char) : Bool := !(c = '>' || isBlank c)

def quoted? (mark : Char) (text : List Char) : Option (List Char × List Char) :=
  match text.dropWhile (· ≠ mark) with
  | [] => none
  | _ :: rest => some (text.takeWhile (· ≠ mark), rest)

/-- The value behind `equals` signs and `blanks`. A mark without its partner opens no value: then
the value is empty if a blank stands before it, or else begins at the last sign of several. -/
def valueFrom (equals : Nat) (blanks text : List Char) : Option (List Char × List Char) :=
  match text with
  | [] => some ([], [])
  | c :: rest =>
      if c = '\'' ∨ c = '"' then
        match quoted? c rest with
        | some found => some found
        | none =>
            match blanks.getLast? with
            | some blank => some ([], blank :: text)
            | none =>
                if 2 ≤ equals then
                  some ('=' :: text.takeWhile inBareValue, text.dropWhile inBareValue)
                else
                  none
      else
        some (text.takeWhile inBareValue, text.dropWhile inBareValue)

def value? (text : List Char) : Option (List Char × List Char) :=
  let signs := text.dropWhile isBlank
  let equals := (signs.takeWhile (· = '=')).length
  if equals = 0 then none
  else
    let rest := signs.dropWhile (· = '=')
    valueFrom equals (rest.takeWhile isBlank) (rest.dropWhile isBlank)

/-- The blanks and slashes before the next attribute; a slash before the end of the tag is not one
of them. -/
def separators : List Char → List Char × List Char
  | '/' :: '>' :: rest => ([], '/' :: '>' :: rest)
  | c :: rest =>
      if isBlank c || c = '/' then
        let (found, rest) := separators rest
        (c :: found, rest)
      else
        ([], c :: rest)
  | [] => ([], [])

/-- The last character of what was read from `text` to `rest`, or the one before. -/
def lastRead (previous : Char) (text rest : List Char) : Char :=
  ((text.take (text.length - rest.length)).getLast?).getD previous

/-- All attributes that follow one another behind the character `previous`. -/
def scan : (fuel : Nat) → (previous : Char) → List Char → List RawAttribute × List Char
  | 0, _, text => ([], text)
  | _ + 1, _, [] => ([], [])
  | fuel + 1, previous, c :: rest =>
      if mayFollow previous && beginsName c then
        let name := c :: rest.takeWhile inName
        let afterName := rest.dropWhile inName
        let (value, afterValue) :=
          match value? afterName with
          | some (value, rest) => (some value, rest)
          | none => (none, afterName)
        let next := (separators afterValue).2
        let (others, rest) := scan fuel (lastRead c (c :: rest) next) next
        ((name, value) :: others, rest)
      else
        ([], c :: rest)

end Attribute

structure Tag where
  name : String
  attributes : List (String × Option String)
  selfClosing : Bool
deriving DecidableEq

namespace Tag

def isNameChar (c : Char) : Bool :=
  !(c = '\t' || c = '\n' || c = '\r' || c = '\x0c' || c = ' ' || c = '/' || c = '>'
    || c = '\x00')

inductive Ending where
  | complete (selfClosing : Bool) (rest : List Char)
  | junk (rest : List Char)
  | unfinished

def ending : List Char → Ending
  | [] => .unfinished
  | '>' :: rest => .complete false rest
  | '/' :: '>' :: rest => .complete true rest
  | c :: rest => if c = '/' || c = '=' || isLetter c then .unfinished else .junk (c :: rest)

/-- The name, the attributes and the ending of a start tag behind its opening bracket. -/
def scan (text : List Char) : List Char × List RawAttribute × Ending :=
  let name := text.takeWhile isNameChar
  let rest := text.dropWhile isNameChar
  let isGap (c : Char) := isBlank c || c = '/'
  let gap := rest.takeWhile isGap
  let rest := rest.dropWhile isGap
  match rest with
  | '>' :: rest => (name, [], .complete (gap.getLast? = some '/') rest)
  | _ =>
      let previous := ((name ++ gap).getLast?).getD ' '
      let (attributes, rest) := Attribute.scan rest.length previous rest
      (name, attributes, ending rest)

def decodeAttributes :
    List RawAttribute → Except LongReference (List (String × Option String))
  | [] => .ok []
  | (name, value) :: rest => do
      let value ← match value with
        | none => pure none
        | some text => (Reference.decode text).map fun text => some (String.ofList text)
      let others ← decodeAttributes rest
      return (lower (String.ofList name), value) :: others

def value? (tag : Tag) (name : String) : Option String :=
  ((tag.attributes.reverse.find? (·.1 = name)).bind (·.2))

end Tag

end AppletPage.Markup
