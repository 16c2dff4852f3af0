import AppletPage.Json.Basic

/-! What is wrong with a document, and where. -/

namespace AppletPage

inductive Segment where
  | name (name : String)
  | index (index : Nat)
deriving DecidableEq

def Segment.toJson : Segment → Json
  | .name text => .string text
  | .index place => .ofNat place

inductive Fault where
  | notInteger
  | noIntegerText
  | integerTooLong
  | fractional
  | notFinite
  | below (bound : Int)
  | above (bound : Int)
  | notBoolean
  | noBooleanText
  | notText
  | emptyText
  | notList
  | notRecord (record : String)
deriving DecidableEq

namespace Fault

def rule : Fault → String
  | notInteger => "int_type"
  | noIntegerText => "int_parsing"
  | integerTooLong => "int_parsing_size"
  | fractional => "int_from_float"
  | notFinite => "finite_number"
  | below _ => "greater_than_equal"
  | above _ => "less_than_equal"
  | notBoolean => "bool_type"
  | noBooleanText => "bool_parsing"
  | notText => "string_type"
  | emptyText => "string_too_short"
  | notList => "list_type"
  | notRecord _ => "model_type"

def message : Fault → String
  | notInteger => "Input should be a valid integer"
  | noIntegerText => "Input should be a valid integer, unable to parse string as an integer"
  | integerTooLong => "Unable to parse input string as an integer, exceeded maximum size"
  | fractional => "Input should be a valid integer, got a number with a fractional part"
  | notFinite => "Input should be a finite number"
  | below bound => "Input should be greater than or equal to " ++ toString bound
  | above bound => "Input should be less than or equal to " ++ toString bound
  | notBoolean => "Input should be a valid boolean"
  | noBooleanText => "Input should be a valid boolean, unable to interpret input"
  | notText => "Input should be a valid string"
  | emptyText => "String should have at least 1 character"
  | notList => "Input should be a valid list"
  | notRecord record => "Input should be a valid dictionary or instance of " ++ record

end Fault

structure Issue where
  fault : Fault
  location : List Segment := []
deriving DecidableEq

/-- The issue as one of the value that holds its value at `segment`. -/
def Issue.under (segment : Segment) (issue : Issue) : Issue :=
  { issue with location := segment :: issue.location }

abbrev Checked (α : Type) := Except (List Issue) α

namespace Checked

variable {α β : Type}

def give (value : α) : Checked α := .ok value

def fail (fault : Fault) : Checked α := .error [{ fault }]

def under (segment : Segment) (checked : Checked α) : Checked α :=
  checked.mapError (·.map (·.under segment))

def apply (function : Checked (α → β)) (argument : Checked α) : Checked β :=
  match function, argument with
  | .ok f, .ok x => .ok (f x)
  | .ok _, .error issues => .error issues
  | .error issues, .ok _ => .error issues
  | .error first, .error second => .error (first ++ second)

/-- The checked values of a list, of which the first has a number. -/
def listFrom (check : Json → Checked α) (index : Nat) : List Json → Checked (List α)
  | [] => .ok []
  | item :: rest =>
      apply ((under (.index index) (check item)).map List.cons)
        (listFrom check (index + 1) rest)

end Checked

end AppletPage
