import AppletPage.Text.Range

/-! Blank characters, and the texts between them: trimming, and cutting into words. -/

namespace AppletPage.Text

/-- Tabulators, line ends, the four information separators, and the spaces of every width. -/
def blankRanges : List Range :=
  [(0x09, 0x0d), (0x1c, 0x20), (0x85, 0x85), (0xa0, 0xa0), (0x1680, 0x1680), (0x2000, 0x200a),
   (0x2028, 0x2029), (0x202f, 0x202f), (0x205f, 0x205f), (0x3000, 0x3000)]

def isBlank (c : Char) : Bool := inRanges blankRanges c.toNat

def hasBlank (text : String) : Bool := text.toList.any isBlank

def trimBy (drop : Char → Bool) (text : List Char) : List Char :=
  ((text.dropWhile drop).reverse.dropWhile drop).reverse

def trim (text : String) : String := String.ofList (trimBy isBlank text.toList)

/-- The words of a text that continues the reversed word `word`. -/
def wordsFrom (word : List Char) : List Char → List (List Char)
  | [] => if word.isEmpty then [] else [word.reverse]
  | c :: rest =>
      if isBlank c then
        if word.isEmpty then wordsFrom [] rest else word.reverse :: wordsFrom [] rest
      else
        wordsFrom (c :: word) rest

def words (text : String) : List String := (wordsFrom [] text.toList).map String.ofList

end AppletPage.Text
