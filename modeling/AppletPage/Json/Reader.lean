import AppletPage.Json.Basic
import AppletPage.Text.Ascii
import AppletPage.Text.Encoding

/-! Reading JSON text. Beside the standard's values, `NaN`, `Infinity` and `-Infinity` are read, an
integer keeps all its digits up to a limit, and a repeated name of an object keeps its first place
and its last value. What cannot be read is reported with the first place that fits no value. -/

namespace AppletPage.Json

open Number Text

inductive Problem where
  | byteOrderMark
  | expectingValue
  | expectingName
  | expectingColon
  | expectingComma
  | extraData
  | unterminatedString
  | invalidControl
  | invalidEscape
  | invalidUnicodeEscape
deriving DecidableEq

/-- Where reading stops: a problem, with the number of characters from its place to the end, an
integer of more digits than are read, or an array or object within too many others. -/
inductive Stop where
  | malformed (problem : Problem) (left : Nat)
  | longInteger (digits : Nat)
  | tooDeep
deriving DecidableEq

abbrev Scan (α : Type) := Except Stop (α × List Char)

def digitLimit : Nat := 4300

def isSpace (c : Char) : Bool := c = ' ' || c = '\t' || c = '\n' || c = '\r'

def skipSpace (text : List Char) : List Char := text.dropWhile isSpace

def stop {α : Type} (problem : Problem) (at_ : List Char) : Except Stop α :=
  .error (.malformed problem at_.length)

/-! Strings. -/

def unit? (a b c d : Char) : Option Nat := do
  let a ← hexValue? a
  let b ← hexValue? b
  let c ← hexValue? c
  let d ← hexValue? d
  return ((a * 16 + b) * 16 + c) * 16 + d

def simpleEscape? : Char → Option Char
  | '"' => some '"'
  | '\\' => some '\\'
  | '/' => some '/'
  | 'b' => some '\x08'
  | 'f' => some '\x0c'
  | 'n' => some '\n'
  | 'r' => some '\r'
  | 't' => some '\t'
  | _ => none

def prepend (c : Char) (scanned : Except Stop (List Char × List Char)) :
    Except Stop (List Char × List Char) :=
  match scanned with
  | .ok (text, rest) => .ok (c :: text, rest)
  | .error stop => .error stop

/-- The rest of a string that starts, with its opening mark, at `opening`. An escape by number, and
a pair of them, is read only if the text goes on behind it. Strings with surrogates outside of pairs
are accepted, but what is in them is modelled as far as it is characters only. -/
def stringBody (opening : List Char) : List Char → Except Stop (List Char × List Char)
  | [] => stop .unterminatedString opening
  | '"' :: rest => .ok ([], rest)
  | '\\' :: 'u' :: a :: b :: c :: d :: '\\' :: 'u' :: e :: f :: g :: h :: rest =>
      match unit? a b c d with
      | none =>
          stop .invalidUnicodeEscape
            ('u' :: a :: b :: c :: d :: '\\' :: 'u' :: e :: f :: g :: h :: rest)
      | some high =>
          if Encoding.isHighSurrogate high && !rest.isEmpty then
            match unit? e f g h with
            | none => stop .invalidUnicodeEscape ('u' :: e :: f :: g :: h :: rest)
            | some low =>
                if Encoding.isLowSurrogate low then
                  prepend (Encoding.joinSurrogates high low) (stringBody opening rest)
                else
                  prepend (Encoding.loneUnit high)
                    (stringBody opening ('\\' :: 'u' :: e :: f :: g :: h :: rest))
          else
            prepend (Encoding.loneUnit high)
              (stringBody opening ('\\' :: 'u' :: e :: f :: g :: h :: rest))
  | '\\' :: 'u' :: a :: b :: c :: d :: rest =>
      match unit? a b c d with
      | none => stop .invalidUnicodeEscape ('u' :: a :: b :: c :: d :: rest)
      | some unit =>
          if rest.isEmpty then
            stop .invalidUnicodeEscape ('u' :: a :: b :: c :: d :: rest)
          else
            prepend (Encoding.loneUnit unit) (stringBody opening rest)
  | '\\' :: 'u' :: rest => stop .invalidUnicodeEscape ('u' :: rest)
  | ['\\'] => stop .unterminatedString opening
  | '\\' :: c :: rest =>
      match simpleEscape? c with
      | some escaped => prepend escaped (stringBody opening rest)
      | none => stop .invalidEscape ('\\' :: c :: rest)
  | c :: rest =>
      if c.toNat < 0x20 then stop .invalidControl (c :: rest)
      else prepend c (stringBody opening rest)

/-! Numbers. -/

def fraction (text : List Char) : List Char × List Char :=
  match text with
  | '.' :: rest =>
      let digits := rest.takeWhile isDigit
      if digits.isEmpty then ([], text) else (digits, rest.dropWhile isDigit)
  | _ => ([], text)

def signedDigits (text : List Char) : Option (Int × List Char) :=
  let read (negative : Bool) (text : List Char) :=
    let digits := text.takeWhile isDigit
    if digits.isEmpty then none
    else
      let value : Int := natOfDigits digits
      some (if negative then -value else value, text.dropWhile isDigit)
  match text with
  | '+' :: rest => read false rest
  | '-' :: rest => read true rest
  | _ => read false text

def power? (text : List Char) : Option (Int × List Char) :=
  match text with
  | c :: rest => if c = 'e' ∨ c = 'E' then signedDigits rest else none
  | [] => none

def numberFrom (negative : Bool) (whole rest : List Char) : Scan Json :=
  let (places, rest) := fraction rest
  match power? rest with
  | none =>
      if places.isEmpty then
        if digitLimit < whole.length then
          .error (.longInteger whole.length)
        else
          let value : Int := natOfDigits whole
          .ok (.integer (if negative then -value else value), rest)
      else
        real places 0 rest
  | some (power, rest) => real places power rest
where
  real (places : List Char) (power : Int) (rest : List Char) : Scan Json :=
    let digits := whole ++ places
    .ok (.real (Binary64.ofDecimal negative (natOfDigits digits) digits.length
      (power - places.length)), rest)

/-- A number that starts at `start`, of which `text` is what follows the sign. -/
def number (start : List Char) (negative : Bool) (text : List Char) : Scan Json :=
  match text with
  | '0' :: rest => numberFrom negative ['0'] rest
  | c :: rest =>
      if isDigit c then numberFrom negative (c :: rest.takeWhile isDigit) (rest.dropWhile isDigit)
      else stop .expectingValue start
  | [] => stop .expectingValue start

/-! Values. Each nested value and each further item uses one unit of fuel, and each array or object
takes one level of `room` from the values in it. -/

/-- The most arrays and objects that may lie in each other. The number stands for what the stack of
the reader leaves at the call, which is more or less by a few levels from one caller to another. -/
def depthLimit : Nat := 990

def atom (text : List Char) : Scan Json :=
  match text with
  | '"' :: rest =>
      match stringBody text rest with
      | .ok (value, rest) => .ok (.string (String.ofList value), rest)
      | .error stop => .error stop
  | 'n' :: 'u' :: 'l' :: 'l' :: rest => .ok (.null, rest)
  | 't' :: 'r' :: 'u' :: 'e' :: rest => .ok (.bool true, rest)
  | 'f' :: 'a' :: 'l' :: 's' :: 'e' :: rest => .ok (.bool false, rest)
  | 'N' :: 'a' :: 'N' :: rest => .ok (.real .nan, rest)
  | 'I' :: 'n' :: 'f' :: 'i' :: 'n' :: 'i' :: 't' :: 'y' :: rest =>
      .ok (.real (.infinite false), rest)
  | '-' :: 'I' :: 'n' :: 'f' :: 'i' :: 'n' :: 'i' :: 't' :: 'y' :: rest =>
      .ok (.real (.infinite true), rest)
  | '-' :: rest => number text true rest
  | _ => number text false text

mutual

def value : (fuel room : Nat) → List Char → Except Stop (Json × List Char)
  | 0, _, text => stop .expectingValue text
  | fuel + 1, room, text =>
      match text with
      | '[' :: rest =>
          match room with
          | 0 => .error .tooDeep
          | room + 1 =>
              match skipSpace rest with
              | ']' :: rest => .ok (.array [], rest)
              | rest => do
                  let (items, rest) ← items fuel room rest
                  return (.array items, rest)
      | '{' :: rest =>
          match room with
          | 0 => .error .tooDeep
          | room + 1 =>
              match skipSpace rest with
              | '}' :: rest => .ok (.object [], rest)
              | rest => do
                  let (fields, rest) ← fields fuel room rest
                  return (.object (Mapping.ofList fields), rest)
      | text => atom text

def items : (fuel room : Nat) → List Char → Except Stop (List Json × List Char)
  | 0, _, text => stop .expectingValue text
  | fuel + 1, room, text => do
      let (item, rest) ← value fuel room text
      match skipSpace rest with
      | ']' :: rest => return ([item], rest)
      | ',' :: rest => do
          let (others, rest) ← items fuel room (skipSpace rest)
          return (item :: others, rest)
      | rest => stop .expectingComma rest

def fields : (fuel room : Nat) → List Char → Except Stop (List (String × Json) × List Char)
  | 0, _, text => stop .expectingName text
  | fuel + 1, room, text =>
      match text with
      | '"' :: afterMark => do
          let (name, rest) ← stringBody text afterMark
          match skipSpace rest with
          | ':' :: rest => do
              let (field, rest) ← value fuel room (skipSpace rest)
              match skipSpace rest with
              | '}' :: rest => return ([(String.ofList name, field)], rest)
              | ',' :: rest => do
                  let (others, rest) ← fields fuel room (skipSpace rest)
                  return ((String.ofList name, field) :: others, rest)
              | rest => stop .expectingComma rest
          | rest => stop .expectingColon rest
      | _ => stop .expectingName text

end

/-- The one value that a text holds, with space around it and at most `room` levels of arrays and
objects in it. -/
def whole (room : Nat) (text : List Char) : Except Stop Json := do
  let (value, rest) ← value (2 * text.length + 2) room (skipSpace text)
  match skipSpace rest with
  | [] => return value
  | rest => stop .extraData rest

/-! Reports. -/

/-- The place of a problem: characters before it, its line and its column. -/
structure Place where
  offset : Nat
  line : Nat
  column : Nat
deriving DecidableEq

def Place.of (text : List Char) (offset : Nat) : Place :=
  let before := text.take offset
  { offset
    line := before.count '\n' + 1
    column := (before.reverse.takeWhile (· ≠ '\n')).length + 1 }

inductive ReadError where
  | malformed (problem : Problem) (place : Place)
  | longInteger (digits : Nat)
  | tooDeep
deriving DecidableEq

def Problem.message : Problem → String
  | .byteOrderMark => "Unexpected UTF-8 BOM (decode using utf-8-sig)"
  | .expectingValue => "Expecting value"
  | .expectingName => "Expecting property name enclosed in double quotes"
  | .expectingColon => "Expecting ':' delimiter"
  | .expectingComma => "Expecting ',' delimiter"
  | .extraData => "Extra data"
  | .unterminatedString => "Unterminated string starting at"
  | .invalidControl => "Invalid control character at"
  | .invalidEscape => "Invalid \\escape"
  | .invalidUnicodeEscape => "Invalid \\uXXXX escape"

def longIntegerMessage (digits : Nat) : String :=
  "Exceeds the limit (" ++ toString digitLimit
    ++ " digits) for integer string conversion: value has " ++ toString digits
    ++ " digits; use sys.set_int_max_str_digits() to increase the limit"

def ReadError.message : ReadError → String
  | .malformed problem place =>
      problem.message ++ ": line " ++ toString place.line ++ " column " ++ toString place.column
        ++ " (char " ++ toString place.offset ++ ")"
  | .longInteger digits => longIntegerMessage digits
  | .tooDeep => "Arrays and objects lie too deep in each other"

def Stop.located (text : List Char) : Stop → ReadError
  | .malformed problem left => .malformed problem (Place.of text (text.length - left))
  | .longInteger digits => .longInteger digits
  | .tooDeep => .tooDeep

def readDecoded (text : String) (room : Nat := depthLimit) : Except ReadError Json :=
  (whole room text.toList).mapError (Stop.located text.toList)

/-- Reads a text; a byte order mark at its start is no part of a value. -/
def read (text : String) : Except ReadError Json :=
  match text.toList with
  | c :: _ =>
      if c.toNat = 0xfeff then .error (.malformed .byteOrderMark (Place.of [] 0))
      else readDecoded text
  | [] => readDecoded text

end AppletPage.Json
