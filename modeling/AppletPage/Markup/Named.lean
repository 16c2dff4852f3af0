import AppletPage.Markup.NamedLines
import AppletPage.Text.Ascii
import AppletPage.Text.Split

/-! The characters that a name stands for. -/

namespace AppletPage.Markup

open Text

def readNamed (entry : List Char) : List Char × List Char :=
  (entry.takeWhile (· ≠ ':'),
    (splitAt '+' ((entry.dropWhile (· ≠ ':')).drop 1)).map fun digits =>
      Char.ofNat (natOfHexDigits digits))

def markupNames : List (List Char × List Char) :=
  [("amp;".toList, ['&']), ("lt;".toList, ['<']), ("gt;".toList, ['>']),
   ("quot;".toList, ['"']), ("apos;".toList, ['\''])]

def otherNames : List (List Char × List Char) :=
  namedLines.flatMap fun line => (splitAt ' ' line.toList).map readNamed

def named? (name : List Char) : Option (List Char) :=
  match markupNames.lookup name with
  | some chars => some chars
  | none => otherNames.lookup name

end AppletPage.Markup
