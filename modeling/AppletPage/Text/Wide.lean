import AppletPage.Text.Quoted
import AppletPage.Text.Utf8

/-! Texts that may hold surrogates outside of pairs. Such a surrogate is no character and has no
bytes, so that a text that holds one cannot be encoded. -/

namespace AppletPage.Text

/-- A character, or one of the 2048 surrogates by its number among them. -/
inductive Point where
  | char (c : Char)
  | surrogate (index : Fin 0x800)
deriving DecidableEq

abbrev Wide := List Point

/-- The surrogates that keep a text from being encoded: the place of the first, which it is, and
how many follow it at once. -/
structure Unencodable where
  start : Nat
  first : Fin 0x800
  more : Nat
deriving DecidableEq

def Unencodable.message (error : Unencodable) : String :=
  let what :=
    if error.more = 0 then
      "character '\\u" ++ String.ofList (hexDigits 4 (0xd800 + error.first.val)) ++ "' in position "
        ++ toString error.start
    else
      "characters in position " ++ toString error.start ++ "-"
        ++ toString (error.start + error.more)
  "'utf-8' codec can't encode " ++ what ++ ": surrogates not allowed"

namespace Wide

def ofChars (text : List Char) : Wide := text.map .char

def ofText (text : String) : Wide := ofChars text.toList

def isChar : Point → Bool
  | .char _ => true
  | .surrogate _ => false

def isScalar (text : Wide) : Bool := text.all isChar

def rewritePoint (f : Char → List Char) : Point → Wide
  | .char c => ofChars (f c)
  | .surrogate index => [.surrogate index]

/-- A text with every character written as others; surrogates are kept. -/
def rewrite (f : Char → List Char) (text : Wide) : Wide := text.flatMap (rewritePoint f)

/-- The characters of a text; those behind a surrogate are left out. -/
def chars : Wide → List Char
  | .char c :: rest => c :: chars rest
  | _ => []

def encodeFrom (place : Nat) : Wide → Except Unencodable Bytes
  | [] => .ok []
  | .char c :: rest => (encodeFrom (place + 1) rest).map (Utf8.encodeChar c ++ ·)
  | .surrogate index :: rest =>
      .error { start := place, first := index, more := (rest.takeWhile fun p => !isChar p).length }

def encode (text : Wide) : Except Unencodable Bytes := encodeFrom 0 text

end Wide

end AppletPage.Text
