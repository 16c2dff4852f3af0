import AppletPage.Service.Request
import AppletPage.Service.Response
import AppletPage.Text.Malformed

/-! The body of a request that stores preferences: JSON with the overrides under one name. -/

namespace AppletPage

open Number Text

namespace Body

/-- What a body is before it is looked at: nothing, a value, or bytes of another type. -/
inductive Payload where
  | missing
  | value (value : Json)
  | bytes (bytes : Bytes)

inductive Unread where
  | malformed (problem : Json.Problem) (offset : Nat)
  | unreadable

inductive Issue where
  | missing
  | malformed (problem : Json.Problem) (offset : Nat)
  | noRecord (input : Json)
  | noOverrides (input : Json)

def isJsonType (contentType : Bytes) : Bool :=
  let header := contentType.map fun byte => Char.ofNat byte.toNat
  let type := lower (trim (String.ofList (header.takeWhile (· ≠ ';'))))
  match splitAt '/' type.toList with
  | [main, subtype] =>
      main = "application".toList &&
        (subtype = "json".toList || "+json".toList.isSuffixOf subtype)
  | _ => false

def readValue (bytes : Bytes) : Except Unread Json :=
  match decodeDetected? bytes with
  | none => .error .unreadable
  | some text =>
      match Json.readDecoded text with
      | .ok value => .ok value
      | .error (.malformed problem place) => .error (.malformed problem place.offset)
      | .error (.longInteger _) | .error .tooDeep => .error .unreadable

def payload (request : Request) : Except Unread Payload :=
  if request.body.isEmpty then .ok .missing
  else if (request.contentType.map isJsonType).getD false then
    (readValue request.body).map .value
  else
    .ok (.bytes request.body)

mutual

/-- The value with null in the place of numbers that are not finite. -/
def finite : Json → Json
  | .real value => if value.isFinite then .real value else .null
  | .array items => .array (finiteItems items)
  | .object fields => .object (finiteFields fields)
  | value => value

def finiteItems : List Json → List Json
  | [] => []
  | item :: rest => finite item :: finiteItems rest

def finiteFields : List (String × Json) → List (String × Json)
  | [] => []
  | (name, field) :: rest => (name, finite field) :: finiteFields rest

end

namespace Issue

def location : Issue → List Json
  | missing | noRecord _ => [.string "body"]
  | malformed _ offset => [.string "body", .ofNat offset]
  | noOverrides _ => [.string "body", .string "overrides"]

def type : Issue → String
  | missing => "missing"
  | malformed .. => "json_invalid"
  | noRecord _ => "model_attributes_type"
  | noOverrides _ => "dict_type"

def message : Issue → String
  | missing => "Field required"
  | malformed .. => "JSON decode error"
  | noRecord _ => "Input should be a valid dictionary or object to extract fields from"
  | noOverrides _ => "Input should be a valid dictionary"

def input : Issue → Json
  | missing => .null
  | malformed .. => .object []
  | noRecord input | noOverrides input => finite input

def context : Issue → List (String × Json)
  | malformed problem _ => [("ctx", .object [("error", .string problem.message)])]
  | _ => []

def toJson (issue : Issue) : Json :=
  .object
    ([("type", .string issue.type), ("loc", .array issue.location),
      ("msg", .string issue.message), ("input", issue.input)] ++ issue.context)

def details (issue : Issue) : Json := .array [issue.toJson]

end Issue

def overridesOf (value : Json) : Except Issue (List (String × Json)) :=
  match value with
  | .object fields =>
      match Mapping.get? fields "overrides" with
      | none => .ok []
      | some (.object overrides) => .ok overrides
      | some other => .error (.noOverrides other)
  | value => .error (.noRecord value)

inductive Refusal where
  | answer (response : Response)
  | failure (failure : Failure)

def Issue.refusal (issue : Issue) : Refusal :=
  match Envelope.writable .deepData issue.details with
  | .ok details => .answer (.error 422 "Request validation failed" details)
  | .error failure => .failure failure

def unreadableMessage : String := "There was an error parsing the body"

def overrides (request : Request) : Except Refusal (List (String × Json)) :=
  match payload request with
  | .error (.malformed problem offset) => .error (Issue.malformed problem offset).refusal
  | .error .unreadable => .error (.answer (.error 400 unreadableMessage))
  | .ok .missing => .error Issue.missing.refusal
  | .ok (.value value) =>
      match overridesOf value with
      | .ok overrides => .ok overrides
      | .error issue => .error issue.refusal
  | .ok (.bytes bytes) =>
      match Utf8.decode bytes with
      | .ok text => .error (Issue.noRecord (.string text)).refusal
      | .error malformed => .error (.failure (.encoding malformed))

end Body

end AppletPage
