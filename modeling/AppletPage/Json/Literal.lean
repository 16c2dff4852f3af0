import AppletPage.Json.Basic
import AppletPage.Number.Shortest
import AppletPage.Text.Quoted

/-! Values as they are named in reports: texts are quoted, absence is `None`. -/

namespace AppletPage.Json

open Text

mutual

def literal : Json → String
  | .null => "None"
  | .bool true => "True"
  | .bool false => "False"
  | .integer value => toString value
  | .real value => value.text
  | .string text => quote text
  | .array items => "[" ++ String.intercalate ", " (literals items) ++ "]"
  | .object fields => "\x7b" ++ String.intercalate ", " (fieldLiterals fields) ++ "\x7d"

def literals : List Json → List String
  | [] => []
  | item :: rest => literal item :: literals rest

def fieldLiterals : List (String × Json) → List String
  | [] => []
  | (name, field) :: rest => (quote name ++ ": " ++ literal field) :: fieldLiterals rest

end

def plain : Json → String
  | .string text => text
  | value => value.literal

end AppletPage.Json
