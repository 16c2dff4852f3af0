import AppletPage.Text.Invisible

/-! Text between quotation marks, with every character that has no visible form spelled out. A
text with an apostrophe and no quotation mark stands between quotation marks, any other between
apostrophes. -/

namespace AppletPage.Text

def isVisible (c : Char) : Bool :=
  if c.toNat < 0x7f then 0x20 ≤ c.toNat else !inRanges invisibleRanges c.toNat

def hexDigit (value : Nat) : Char :=
  if value < 10 then Char.ofNat (0x30 + value) else Char.ofNat (0x57 + value)

def hexDigits : (width : Nat) → Nat → List Char
  | 0, _ => []
  | width + 1, value => hexDigits width (value / 16) ++ [hexDigit (value % 16)]

/-- A character by its number, in the shortest of the three forms that has room for it. -/
def spelledOut (c : Char) : List Char :=
  if c.toNat < 0x100 then '\\' :: 'x' :: hexDigits 2 c.toNat
  else if c.toNat < 0x10000 then '\\' :: 'u' :: hexDigits 4 c.toNat
  else '\\' :: 'U' :: hexDigits 8 c.toNat

def quoteChar (mark : Char) (c : Char) : List Char :=
  if c = mark || c = '\\' then ['\\', c]
  else if c = '\t' then ['\\', 't']
  else if c = '\n' then ['\\', 'n']
  else if c = '\r' then ['\\', 'r']
  else if isVisible c then [c]
  else spelledOut c

def quotationMark (text : List Char) : Char :=
  if text.contains '\'' && !text.contains '"' then '"' else '\''

def quote (text : String) : String :=
  let mark := quotationMark text.toList
  String.ofList (mark :: text.toList.flatMap (quoteChar mark) ++ [mark])

end AppletPage.Text
