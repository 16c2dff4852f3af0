import AppletPage.Text.Quoted
import AppletPage.Text.Utf8

/-! The report on bytes that are no text. -/

namespace AppletPage.Text.Utf8

def Fault.message : Fault → String
  | .badStart => "invalid start byte"
  | .badContinuation => "invalid continuation byte"
  | .endOfData => "unexpected end of data"

/-- Names one byte by its value and place, and several by their places alone. -/
def Malformed.message (malformed : Malformed) : String :=
  let place :=
    match malformed.bytes with
    | [byte] =>
        "byte 0x" ++ String.ofList (hexDigits 2 byte.toNat) ++ " in position "
          ++ toString malformed.offset
    | bytes =>
        "bytes in position " ++ toString malformed.offset ++ "-"
          ++ toString (malformed.offset + bytes.length - 1)
  "'utf-8' codec can't decode " ++ place ++ ": " ++ malformed.fault.message

end AppletPage.Text.Utf8
