/-! Text as bytes: one to four bytes a character, the shortest form only. Reading goes byte by
byte; bytes that form no character are kept as broken pieces, each with its place and fault. -/

namespace AppletPage.Text

abbrev Bytes := List UInt8

namespace Utf8

def tailByte (value : Nat) : UInt8 := UInt8.ofNat (0x80 + value % 0x40)

def encodeChar (c : Char) : Bytes :=
  let code := c.toNat
  if code < 0x80 then
    [UInt8.ofNat code]
  else if code < 0x800 then
    [UInt8.ofNat (0xc0 + code / 0x40), tailByte code]
  else if code < 0x10000 then
    [UInt8.ofNat (0xe0 + code / 0x1000), tailByte (code / 0x40), tailByte code]
  else
    [UInt8.ofNat (0xf0 + code / 0x40000), tailByte (code / 0x1000), tailByte (code / 0x40),
      tailByte code]

def encodeChars (text : List Char) : Bytes := text.flatMap encodeChar

def encode (text : String) : Bytes := encodeChars text.toList

inductive Fault where
  | badStart
  | badContinuation
  | endOfData
deriving DecidableEq

inductive Piece where
  | char (c : Char)
  | broken (offset : Nat) (bytes : Bytes) (fault : Fault)
deriving DecidableEq

/-- A character that has begun: its bytes so far in reverse, how many are still owed, the value
so far, and the bounds of the next byte. -/
structure Pending where
  taken : Bytes
  owed : Nat
  value : Nat
  low : Nat := 0x80
  high : Nat := 0xbf

def begin (offset : Nat) (byte : UInt8) : List Piece × Option Pending :=
  let n := byte.toNat
  if n < 0x80 then ([.char (Char.ofNat n)], none)
  else if n < 0xc2 then ([.broken offset [byte] .badStart], none)
  else if n < 0xe0 then ([], some { taken := [byte], owed := 1, value := n - 0xc0 })
  else if n = 0xe0 then ([], some { taken := [byte], owed := 2, value := 0, low := 0xa0 })
  else if n = 0xed then ([], some { taken := [byte], owed := 2, value := 0xd, high := 0x9f })
  else if n < 0xf0 then ([], some { taken := [byte], owed := 2, value := n - 0xe0 })
  else if n = 0xf0 then ([], some { taken := [byte], owed := 3, value := 0, low := 0x90 })
  else if n < 0xf4 then ([], some { taken := [byte], owed := 3, value := n - 0xf0 })
  else if n = 0xf4 then ([], some { taken := [byte], owed := 3, value := 4, high := 0x8f })
  else ([.broken offset [byte] .badStart], none)

namespace Pending

def broken (pending : Pending) (offset : Nat) (fault : Fault) : Piece :=
  .broken (offset - pending.taken.length) pending.taken.reverse fault

def step (pending : Pending) (offset : Nat) (byte : UInt8) : List Piece × Option Pending :=
  let n := byte.toNat
  if pending.low ≤ n ∧ n ≤ pending.high then
    let value := pending.value * 0x40 + (n - 0x80)
    if pending.owed = 1 then
      ([.char (Char.ofNat value)], none)
    else
      ([], some { taken := byte :: pending.taken, owed := pending.owed - 1, value })
  else
    let (pieces, next) := begin offset byte
    (pending.broken offset .badContinuation :: pieces, next)

end Pending

def step (offset : Nat) (pending : Option Pending) (byte : UInt8) : List Piece × Option Pending :=
  match pending with
  | none => begin offset byte
  | some pending => pending.step offset byte

def piecesFrom (offset : Nat) (pending : Option Pending) : Bytes → List Piece
  | [] =>
      match pending with
      | none => []
      | some pending => [pending.broken offset .endOfData]
  | byte :: rest =>
      let (pieces, next) := step offset pending byte
      pieces ++ piecesFrom (offset + 1) next rest

def pieces (bytes : Bytes) : List Piece := piecesFrom 0 none bytes

structure Malformed where
  offset : Nat
  bytes : Bytes
  fault : Fault
deriving DecidableEq

def charsOfPieces : List Piece → Except Malformed (List Char)
  | [] => .ok []
  | .char c :: rest =>
      match charsOfPieces rest with
      | .ok text => .ok (c :: text)
      | .error malformed => .error malformed
  | .broken offset bytes fault :: _ => .error ⟨offset, bytes, fault⟩

def decodeChars (bytes : Bytes) : Except Malformed (List Char) := charsOfPieces (pieces bytes)

def decode (bytes : Bytes) : Except Malformed String := (decodeChars bytes).map String.ofList

def Piece.orReplacement : Piece → Char
  | .char c => c
  | .broken .. => Char.ofNat 0xfffd

/-- Reads any bytes: each broken piece becomes one replacement character. -/
def decodeLossy (bytes : Bytes) : String := String.ofList ((pieces bytes).map Piece.orReplacement)

end Utf8

end AppletPage.Text
