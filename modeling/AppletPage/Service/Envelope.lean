import AppletPage.Failure

/-! The envelope of every answer in JSON: data, or an error with a code, a message and details. -/

namespace AppletPage

namespace Envelope

def code (status : Int) : String :=
  if status = 404 then "not_found"
  else if status = 405 then "method_not_allowed"
  else if status = 422 then "validation_error"
  else if 400 ≤ status ∧ status < 500 then "client_error"
  else "server_error"

def ok (data : Json) : Json :=
  .object [("ok", .bool true), ("data", data), ("error", .null)]

def fail (code message : String) (details : Json := .null) : Json :=
  .object
    [("ok", .bool false), ("data", .null),
     ("error",
      .object [("code", .string code), ("message", .string message), ("details", details)])]

def depthLimit : Nat := 255

def writable (tooDeep : Failure) (data : Json) : Except Failure Json :=
  if data.depth ≤ depthLimit then .ok data else .error tooDeep

def okChecked (data : Json) : Except Failure Json := (writable .deepText data).map ok

def textOf (name : String) (value : Json) : Checked String :=
  match value with
  | .string text => .ok text
  | _ => (Checked.fail .notText).under (.name name)

def failChecked (code message details : Json) : Except Failure Json := do
  let checked : Checked (String × String) :=
    Checked.give (fun code message => (code, message))
      |>.apply (textOf "code" code)
      |>.apply (textOf "message" message)
  let (code, message) ← checked.mapError Failure.config
  return fail code message (← writable .deepText details)

end Envelope

end AppletPage
