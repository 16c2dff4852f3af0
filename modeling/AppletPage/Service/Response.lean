import AppletPage.Failure
import AppletPage.Json.Printer
import AppletPage.Service.Envelope

/-! Answers to requests. -/

namespace AppletPage

structure Response where
  status : Nat
  body : String := ""
  contentType : Option String := none
  location : Option String := none
  /-- The failure behind an answer that does not tell it. -/
  raised : Option Failure := none

namespace Response

def jsonType : String := "application/json"

def htmlType : String := "text/html; charset=utf-8"

def json (status : Nat) (value : Json) : Response :=
  { status, body := value.write Json.Style.compact, contentType := some jsonType }

def ok (data : Json) : Response := json 200 (Envelope.ok data)

def error (status : Nat) (message : String) (details : Json := .null) : Response :=
  json status (Envelope.fail (Envelope.code status) message details)

def html (text : String) : Response :=
  { status := 200, body := text, contentType := some htmlType }

def redirect (status : Nat) (location : String) : Response :=
  { status, location := some location }

/-- The one answer for every failure that no other answer is made for. -/
def unhandled (failure : Failure) : Response :=
  { json 500 (Envelope.fail "internal_error" "Internal server error") with
    raised := some failure }

end Response

end AppletPage
