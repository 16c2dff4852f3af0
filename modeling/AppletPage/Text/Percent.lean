import AppletPage.Text.Ascii
import AppletPage.Text.Utf8

/-! Text in addresses: a byte may be written as a percent sign and two hexadecimal digits. -/

namespace AppletPage.Text.Percent

def byte? (high low : Char) : Option UInt8 := do
  let high ← hexValue? high
  let low ← hexValue? low
  return UInt8.ofNat (high * 16 + low)

def decodeBytes : List Char → Bytes
  | '%' :: high :: low :: rest =>
      match byte? high low with
      | some byte => byte :: decodeBytes rest
      | none => Utf8.encodeChar '%' ++ decodeBytes (high :: low :: rest)
  | c :: rest => Utf8.encodeChar c ++ decodeBytes rest
  | [] => []

def decode (text : List Char) : String := Utf8.decodeLossy (decodeBytes text)

def isPlain (c : Char) : Bool :=
  isLetter c || isDigit c || "_.-~:/%#?=@[]!$&'()*+,;".toList.contains c

def upperHexDigit (value : Nat) : Char :=
  if value < 10 then Char.ofNat (0x30 + value) else Char.ofNat (0x37 + value)

def encodeByte (byte : UInt8) : List Char :=
  ['%', upperHexDigit (byte.toNat / 16), upperHexDigit (byte.toNat % 16)]

def encodeChar (c : Char) : List Char :=
  if isPlain c then [c] else (Utf8.encodeChar c).flatMap encodeByte

def encode (text : String) : String := String.ofList (text.toList.flatMap encodeChar)

end AppletPage.Text.Percent
