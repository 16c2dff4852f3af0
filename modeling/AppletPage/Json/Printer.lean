import AppletPage.Json.Basic
import AppletPage.Number.Shortest
import AppletPage.Text.Quoted

/-! Writing JSON text, on one line or indented, with all characters or with ASCII alone. -/

namespace AppletPage.Json

open Text

structure Style where
  /-- The width of one level, if the text is indented. -/
  indent : Option Nat := none
  asciiOnly : Bool := false

namespace Style

def compact : Style := {}

def indented : Style := { indent := some 2 }

def portable : Style := { indent := some 2, asciiOnly := true }

end Style

def unitEscape (unit : Nat) : List Char := '\\' :: 'u' :: hexDigits 4 unit

def escapeByNumber (c : Char) : List Char :=
  if c.toNat < 0x10000 then unitEscape c.toNat
  else
    let rest := c.toNat - 0x10000
    unitEscape (0xd800 + rest / 0x400) ++ unitEscape (0xdc00 + rest % 0x400)

def escapeChar (asciiOnly : Bool) (c : Char) : List Char :=
  if c = '"' then ['\\', '"']
  else if c = '\\' then ['\\', '\\']
  else if c = '\n' then ['\\', 'n']
  else if c = '\r' then ['\\', 'r']
  else if c = '\t' then ['\\', 't']
  else if c = '\x08' then ['\\', 'b']
  else if c = '\x0c' then ['\\', 'f']
  else if c.toNat < 0x20 || (asciiOnly && 0x7f ≤ c.toNat) then escapeByNumber c
  else [c]

def writeString (style : Style) (text : String) : List Char :=
  '"' :: text.toList.flatMap (escapeChar style.asciiOnly) ++ ['"']

def Style.newLine (style : Style) (depth : Nat) : List Char :=
  match style.indent with
  | none => []
  | some width => '\n' :: List.replicate (width * depth) ' '

def Style.colon (style : Style) : List Char :=
  match style.indent with
  | none => [':']
  | some _ => [':', ' ']

mutual

def writeAt (style : Style) (depth : Nat) : Json → List Char
  | .null => "null".toList
  | .bool true => "true".toList
  | .bool false => "false".toList
  | .integer value => (toString value).toList
  | .real .nan => "NaN".toList
  | .real (.infinite false) => "Infinity".toList
  | .real (.infinite true) => "-Infinity".toList
  | .real value => value.text.toList
  | .string text => writeString style text
  | .array [] => ['[', ']']
  | .array (item :: rest) =>
      '[' :: style.newLine (depth + 1) ++ writeAt style (depth + 1) item
        ++ writeItems style (depth + 1) rest ++ style.newLine depth ++ [']']
  | .object [] => ['{', '}']
  | .object ((name, field) :: rest) =>
      '{' :: style.newLine (depth + 1) ++ writeString style name ++ style.colon
        ++ writeAt style (depth + 1) field ++ writeFields style (depth + 1) rest
        ++ style.newLine depth ++ ['}']

def writeItems (style : Style) (depth : Nat) : List Json → List Char
  | [] => []
  | item :: rest =>
      ',' :: style.newLine depth ++ writeAt style depth item ++ writeItems style depth rest

def writeFields (style : Style) (depth : Nat) : List (String × Json) → List Char
  | [] => []
  | (name, field) :: rest =>
      ',' :: style.newLine depth ++ writeString style name ++ style.colon
        ++ writeAt style depth field ++ writeFields style depth rest

end

def write (style : Style) (value : Json) : String := String.ofList (writeAt style 0 value)

end AppletPage.Json
