import AppletPage.Json.Reader
import AppletPage.Markup.Named
import AppletPage.Text.Range

/-! Reading character references: by decimal or hexadecimal number, or by name. A semicolon ends a
reference and may be missing. A name that is not known stands for its longest known beginning and
the rest of it, or for itself. -/

namespace AppletPage.Markup

open Text

inductive Reference where
  | decimal (digits : List Char)
  | hexadecimal (digits : List Char)
  | named (name : List Char)
deriving DecidableEq

/-- A decimal reference of more digits than are read. -/
structure LongReference where
  digits : Nat
deriving DecidableEq

namespace Reference

def isNameChar (c : Char) : Bool :=
  !(c = '\t' || c = '\n' || c = '\x0c' || c = ' ' || c = '<' || c = '&' || c = '#' || c = ';')

def nameLimit : Nat := 32

def semicolon : List Char → Nat
  | ';' :: _ => 1
  | _ => 0

/-- The reference behind an ampersand, and its length. -/
def scan? (text : List Char) : Option (Reference × Nat) :=
  match text with
  | '#' :: rest =>
      let digits := rest.takeWhile isDigit
      if !digits.isEmpty then
        some (.decimal digits, 1 + digits.length + semicolon (rest.dropWhile isDigit))
      else
        match rest with
        | c :: rest =>
            let digits := rest.takeWhile isHexDigit
            if (c = 'x' ∨ c = 'X') ∧ !digits.isEmpty then
              some (.hexadecimal digits,
                2 + digits.length + semicolon (rest.dropWhile isHexDigit))
            else
              none
        | [] => none
  | _ =>
      let name := (text.take nameLimit).takeWhile isNameChar
      if name.isEmpty then none
      else
        let ending := semicolon (text.drop name.length)
        some (.named (text.take (name.length + ending)), name.length + ending)

/-- The characters that stand for controls which no document holds. -/
def replacedControls : List (Nat × Nat) :=
  [(0x00, 0xfffd), (0x80, 0x20ac), (0x82, 0x201a), (0x83, 0x0192), (0x84, 0x201e), (0x85, 0x2026),
   (0x86, 0x2020), (0x87, 0x2021), (0x88, 0x02c6), (0x89, 0x2030), (0x8a, 0x0160), (0x8b, 0x2039),
   (0x8c, 0x0152), (0x8e, 0x017d), (0x91, 0x2018), (0x92, 0x2019), (0x93, 0x201c), (0x94, 0x201d),
   (0x95, 0x2022), (0x96, 0x2013), (0x97, 0x2014), (0x98, 0x02dc), (0x99, 0x2122), (0x9a, 0x0161),
   (0x9b, 0x203a), (0x9c, 0x0153), (0x9e, 0x017e), (0x9f, 0x0178)]

/-- The controls that stand for themselves although no document should hold them. -/
def keptControls : List Nat := [0x0d, 0x81, 0x8d, 0x8f, 0x90, 0x9d]

def droppedRanges : List Range :=
  [(0x01, 0x08), (0x0b, 0x0b), (0x0e, 0x1f), (0x7f, 0x9f), (0xfdd0, 0xfdef)]

/-- A number that is a character of no text: a control, or a code point that is never assigned. -/
def isDropped (number : Nat) : Bool :=
  inRanges droppedRanges number || 0xfffe ≤ number % 0x10000

def ofNumber (number : Nat) : List Char :=
  match replacedControls.lookup number with
  | some code => [Char.ofNat code]
  | none =>
      if number ∈ keptControls then [Char.ofNat number]
      else if (0xd800 ≤ number ∧ number ≤ 0xdfff) ∨ 0x10ffff < number then [Char.ofNat 0xfffd]
      else if isDropped number then []
      else [Char.ofNat number]

/-- The longest beginning of a name, from `length` characters down to two, that is a name. -/
def longestPrefix? (name : List Char) : (length : Nat) → Option (List Char)
  | 0 | 1 => none
  | length + 2 =>
      match named? (name.take (length + 2)) with
      | some chars => some (chars ++ name.drop (length + 2))
      | none => longestPrefix? name (length + 1)

def ofName (name : List Char) : List Char :=
  match named? name with
  | some chars => chars
  | none => (longestPrefix? name (name.length - 1)).getD ('&' :: name)

def chars : Reference → Except LongReference (List Char)
  | decimal digits =>
      if Json.digitLimit < digits.length then .error ⟨digits.length⟩
      else .ok (ofNumber (natOfDigits digits))
  | hexadecimal digits => .ok (ofNumber (natOfHexDigits digits))
  | named name => .ok (ofName name)

/-- Reads the references of a text but for its first `skip` characters, which are passed over. -/
def decodeAfter : (skip : Nat) → List Char → Except LongReference (List Char)
  | _, [] => .ok []
  | skip + 1, _ :: rest => decodeAfter skip rest
  | 0, c :: rest =>
      match if c = '&' then scan? rest else none with
      | none =>
          match decodeAfter 0 rest with
          | .ok text => .ok (c :: text)
          | .error error => .error error
      | some (reference, length) =>
          match reference.chars with
          | .error error => .error error
          | .ok chars =>
              match decodeAfter length rest with
              | .ok text => .ok (chars ++ text)
              | .error error => .error error

def decode (text : List Char) : Except LongReference (List Char) := decodeAfter 0 text

end Reference

end AppletPage.Markup
