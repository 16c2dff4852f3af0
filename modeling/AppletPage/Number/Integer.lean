import AppletPage.Failure
import AppletPage.Text.Blank
import AppletPage.Text.Digit

/-! Integers in text: digits of any script, a sign before them, low lines between two of them, and
blanks around the whole. -/

namespace AppletPage.Number

open Text

/-- The blanks of ASCII that may stand around a number in ASCII. -/
def isAsciiBlank (c : Char) : Bool := ('\t' ≤ c && c ≤ '\x0d') || c = ' '

/-- The characters of a number in their plain forms: the blanks and digits beyond ASCII as spaces
and as digits of ASCII. -/
def plainForm (text : List Char) : List Char :=
  text.map fun c =>
    if c.toNat < 0x80 then c
    else if isBlank c then ' '
    else
      match digitValue? c with
      | some value => Char.ofNat (0x30 + value)
      | none => c

/-- Digits and low lines at the start of a text: the digits, whether every low line stands between
two digits, and the rest. -/
def scanDigits (previous : Char) : List Char → List Char × Bool × List Char
  | [] => ([], previous ≠ '_', [])
  | c :: rest =>
      if isDigit c then
        let (digits, spaced, rest) := scanDigits c rest
        (c :: digits, spaced, rest)
      else if c = '_' then
        let (digits, spaced, rest) := scanDigits c rest
        (digits, spaced && previous ≠ '_', rest)
      else
        ([], previous ≠ '_', c :: rest)

def signed (text : List Char) : Bool × List Char :=
  match text with
  | '-' :: rest => (true, rest)
  | '+' :: rest => (false, rest)
  | _ => (false, text)

def integerOfText (text : String) : Except NumberError Int :=
  let (negative, body) := signed ((plainForm text.toList).dropWhile isAsciiBlank)
  let (digits, spaced, rest) := scanDigits '_' body
  if digits.isEmpty || !spaced then .error (.noInteger text)
  else if Json.digitLimit < digits.length then .error (.longInteger digits.length)
  else if !rest.all isAsciiBlank then .error (.noInteger text)
  else
    let value : Int := natOfDigits digits
    .ok (if negative then -value else value)

end AppletPage.Number
