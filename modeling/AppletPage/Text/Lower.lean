import AppletPage.Text.CaseContext
import AppletPage.Text.CaseRun

/-! Small letters. Every capital letter has its own small form, except that a capital sigma is
written in its final form at the end of a word. -/

namespace AppletPage.Text

private def dottedCapitalI : Nat := 0x130

def lowerChar (c : Char) : List Char :=
  if c.toNat < 0x80 then
    [c.toLower]
  else if c.toNat = dottedCapitalI then
    ['i', Char.ofNat 0x307]
  else
    match caseRuns.findSome? (·.lower? c.toNat) with
    | some code => [Char.ofNat code]
    | none => [c]

def isCased (c : Char) : Bool := inRanges casedRanges c.toNat

def isSkipped (c : Char) : Bool := inRanges skippedRanges c.toNat

def nextIsCased (text : List Char) : Bool :=
  match text.find? (!isSkipped ·) with
  | some c => isCased c
  | none => false

/-- The small sigma for a place: final after a letter with case when none follows. -/
def sigma (before after : List Char) : Char :=
  if nextIsCased before && !nextIsCased after then Char.ofNat 0x3c2 else Char.ofNat 0x3c3

/-- The small form of a text that follows the reversed text `before`. -/
def lowerFrom (before : List Char) : List Char → List Char
  | [] => []
  | c :: rest =>
      (if c.toNat = 0x3a3 then [sigma before rest] else lowerChar c) ++ lowerFrom (c :: before) rest

def lower (text : String) : String := String.ofList (lowerFrom [] text.toList)

end AppletPage.Text
