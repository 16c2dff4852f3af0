import AppletPage.Config.Issue
import AppletPage.Text.Blank
import AppletPage.Text.Digit

/-! The values that a configuration accepts: integers, truth values and texts. An integer may also
be given as an integral number, as a truth value or in text, and a truth value as a number or in
text. -/

namespace AppletPage.Config

open Number Text

/-! Integers in text. -/

def integerLimit : Nat := 4300

/-- What a text is as a plain integer. -/
inductive Plain where
  | value (value : Int)
  | tooLong
  | malformed
deriving DecidableEq

/-- Digits without needless zeros. Too many of them are refused whatever stands behind them. -/
def plainDigits (text : List Char) : Plain :=
  let digits := text.takeWhile isDigit
  if digits.isEmpty || (digits.head? = some '0' && digits.length ≠ 1) then .malformed
  else if integerLimit < digits.length then .tooLong
  else if digits.length ≠ text.length then .malformed
  else .value (natOfDigits digits)

def plainInteger (text : List Char) : Plain :=
  match text with
  | '-' :: digits =>
      match plainDigits digits with
      | .value value => .value (-value)
      | other => other
  | digits => plainDigits digits

/-- A blank other than the information separators. -/
def isOuterBlank (c : Char) : Bool := isBlank c && !(0x1c ≤ c.toNat && c.toNat ≤ 0x1f)

/-- What follows the zeros and low lines after a first zero `previous`: the text from the first
other digit or minus sign, or from the character before a point. -/
def afterZeros? (previous : Char) : List Char → Option (List Char)
  | [] => some [previous]
  | c :: rest =>
      if c = '0' ∨ c = '_' then afterZeros? c rest
      else if isDigit c ∨ c = '-' then some (c :: rest)
      else if c = '.' then some (previous :: c :: rest)
      else none

def dropZeros? (text : List Char) : Option (List Char) :=
  match text with
  | [] => none
  | c :: rest =>
      if c = '0' then afterZeros? c rest
      else if isDigit c then some text
      else none

def dropPlaces? (text : List Char) : Option (List Char) :=
  match text.dropWhile (· ≠ '.') with
  | [] => some text
  | _ :: places =>
      if !places.isEmpty && places.all (· = '0') then some (text.takeWhile (· ≠ '.')) else none

/-- Whether low lines stand one by one between other characters. -/
def linesInside (previous : Char) : List Char → Bool
  | [] => previous ≠ '_'
  | c :: rest => !(previous = '_' && c = '_') && linesInside c rest

def dropLines (text : List Char) : List Char :=
  if linesInside '_' text then text.filter (· ≠ '_') else text

def dropPlus? (text : List Char) : Option (List Char) :=
  match text with
  | '+' :: '-' :: _ => none
  | '+' :: rest => some rest
  | _ => some text

/-- Digits with zeros before them or behind their point, or low lines between them, as plain
ones. -/
def tidyDigits? (text : List Char) : Option (List Char) := do
  let trimmed ← dropZeros? text
  let whole ← dropPlaces? trimmed
  return dropLines whole

def tidyInteger? (text : List Char) : Option (List Char) := do
  match ← dropPlus? (trimBy isOuterBlank text) with
  | '-' :: digits => return '-' :: (← tidyDigits? digits)
  | digits => tidyDigits? digits

/-- An integer that has to be tidied must not be too long either, but is then no integer at all. -/
def integerOfText (text : List Char) : Checked Int :=
  match plainInteger text with
  | .value value => .ok value
  | .tooLong => .fail .integerTooLong
  | .malformed =>
      match (tidyInteger? text).map plainInteger with
      | some (.value value) => .ok value
      | _ => .fail .noIntegerText

/-! Values. -/

def wordBound : Int := Nat.pow 2 63

def isWord (value : Int) : Bool := -wordBound ≤ value && value < wordBound

def integerOfReal (value : Binary64) : Checked Int :=
  if !value.isFinite then .fail .notFinite
  else
    match value.toInt? with
    | none => .fail .fractional
    | some integer =>
        if -wordBound < integer && integer < wordBound then .ok integer else .fail .integerTooLong

def integer (value : Json) : Checked Int :=
  match value with
  | .bool value => .ok (if value then 1 else 0)
  | .integer value => .ok value
  | .real value => integerOfReal value
  | .string text => integerOfText text.toList
  | _ => .fail .notInteger

def atLeast (bound : Int) (checked : Checked Int) : Checked Int :=
  match checked with
  | .ok value => if value < bound then .fail (.below bound) else .ok value
  | .error issues => .error issues

def atMost (bound : Int) (checked : Checked Int) : Checked Int :=
  match checked with
  | .ok value => if bound < value then .fail (.above bound) else .ok value
  | .error issues => .error issues

def positive (value : Json) : Checked Int := atLeast 1 (integer value)

def port (value : Json) : Checked Int := atMost 65535 (positive value)

def falseWords : List String := ["0", "f", "n", "no", "off", "false"]

def trueWords : List String := ["1", "t", "y", "yes", "on", "true"]

def booleanOfInteger (value : Int) : Checked Bool :=
  if value = 0 then .ok false
  else if value = 1 then .ok true
  else if isWord value then .fail .noBooleanText
  else .fail .notBoolean

def boolean (value : Json) : Checked Bool :=
  match value with
  | .bool value => .ok value
  | .integer value => booleanOfInteger value
  | .real value =>
      match integerOfReal value with
      | .ok integer => booleanOfInteger integer
      | .error _ => .fail .notBoolean
  | .string text =>
      let word := String.ofList (text.toList.map Char.toLower)
      if word ∈ falseWords then .ok false
      else if word ∈ trueWords then .ok true
      else .fail .noBooleanText
  | _ => .fail .notBoolean

def text (value : Json) : Checked String :=
  match value with
  | .string text => .ok text
  | _ => .fail .notText

def nonemptyText (value : Json) : Checked String :=
  match value with
  | .string text => if text = "" then .fail .emptyText else .ok text
  | _ => .fail .notText

def optionalText (value : Json) : Checked (Option String) :=
  match value with
  | .null => .ok none
  | .string text => .ok (some text)
  | _ => .fail .notText

def texts (value : Json) : Checked (List String) :=
  match value with
  | .array items => Checked.listFrom text 0 items
  | _ => .fail .notList

end AppletPage.Config
