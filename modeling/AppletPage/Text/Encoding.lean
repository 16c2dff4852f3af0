import AppletPage.Text.Utf8

/-! Text in bytes of an unnamed encoding. A mark at the start tells the encoding; without one, the
places of the zero bytes do, since the text is known to start with ASCII characters. -/

namespace AppletPage.Text

inductive Encoding where
  | utf8
  | utf16 (bigEndian : Bool)
  | utf32 (bigEndian : Bool)
deriving DecidableEq

namespace Encoding

def detect : Bytes → Encoding × Bytes
  | 0x00 :: 0x00 :: 0xfe :: 0xff :: rest => (.utf32 true, rest)
  | 0xff :: 0xfe :: 0x00 :: 0x00 :: rest => (.utf32 false, rest)
  | 0xfe :: 0xff :: rest => (.utf16 true, rest)
  | 0xff :: 0xfe :: rest => (.utf16 false, rest)
  | 0xef :: 0xbb :: 0xbf :: rest => (.utf8, rest)
  | bytes@(a :: b :: c :: d :: _) =>
      if a = 0 then
        (if b = 0 then .utf32 true else .utf16 true, bytes)
      else if b = 0 then
        (if c = 0 ∧ d = 0 then .utf32 false else .utf16 false, bytes)
      else
        (.utf8, bytes)
  | [a, b] => (if a = 0 then .utf16 true else if b = 0 then .utf16 false else .utf8, [a, b])
  | bytes => (.utf8, bytes)

def pair (bigEndian : Bool) (a b : UInt8) : Nat :=
  if bigEndian then a.toNat * 0x100 + b.toNat else b.toNat * 0x100 + a.toNat

def units16 (bigEndian : Bool) : Bytes → Option (List Nat)
  | [] => some []
  | [_] => none
  | a :: b :: rest => (units16 bigEndian rest).map (pair bigEndian a b :: ·)

def units32 (bigEndian : Bool) : Bytes → Option (List Nat)
  | [] => some []
  | a :: b :: c :: d :: rest =>
      let unit :=
        if bigEndian then pair true a b * 0x10000 + pair true c d
        else pair false c d * 0x10000 + pair false a b
      (units32 bigEndian rest).map (unit :: ·)
  | _ => none

def isHighSurrogate (unit : Nat) : Bool := 0xd800 ≤ unit && unit < 0xdc00

def isLowSurrogate (unit : Nat) : Bool := 0xdc00 ≤ unit && unit < 0xe000

def joinSurrogates (high low : Nat) : Char :=
  Char.ofNat (0x10000 + (high - 0xd800) * 0x400 + (low - 0xdc00))

/-- A unit that is no character by itself is outside of the texts that are modelled; the replacement
character stands where it is read. -/
def loneUnit (unit : Nat) : Char :=
  if isHighSurrogate unit || isLowSurrogate unit then Char.ofNat 0xfffd else Char.ofNat unit

def charsOfUnits16 : List Nat → List Char
  | [] => []
  | [unit] => [loneUnit unit]
  | unit :: next :: rest =>
      if isHighSurrogate unit && isLowSurrogate next then
        joinSurrogates unit next :: charsOfUnits16 rest
      else
        loneUnit unit :: charsOfUnits16 (next :: rest)

def charsOfUnits32 (units : List Nat) : Option (List Char) :=
  if units.all (· < 0x110000) then some (units.map loneUnit) else none

/-- The bytes of a text with the replacement character, as above, for every unit that is no
character by itself and is written as one of three bytes. -/
def withoutSurrogates : Bytes → Bytes
  | 0xed :: second :: third :: rest =>
      if 0xa0 ≤ second && second < 0xc0 && 0x80 ≤ third && third < 0xc0 then
        Utf8.encodeChar (Char.ofNat 0xfffd) ++ withoutSurrogates rest
      else
        0xed :: withoutSurrogates (second :: third :: rest)
  | byte :: rest => byte :: withoutSurrogates rest
  | [] => []

/-- The text, if the bytes are one in the encoding. Units that are no characters by themselves may
be among them. -/
def decode? (encoding : Encoding) (bytes : Bytes) : Option String :=
  match encoding with
  | .utf8 => (Utf8.decode (withoutSurrogates bytes)).toOption
  | .utf16 bigEndian =>
      (units16 bigEndian bytes).map fun units => String.ofList (charsOfUnits16 units)
  | .utf32 bigEndian =>
      ((units32 bigEndian bytes).bind charsOfUnits32).map String.ofList

end Encoding

def decodeDetected? (bytes : Bytes) : Option String :=
  let (encoding, rest) := Encoding.detect bytes
  encoding.decode? rest

end AppletPage.Text
