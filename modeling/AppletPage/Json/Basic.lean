import AppletPage.Mapping
import AppletPage.Number.Binary64

/-! JSON values. Integers are kept apart from other numbers, and an object keeps the order of its
names. -/

namespace AppletPage

open Number

inductive Json where
  | null
  | bool (value : Bool)
  | integer (value : Int)
  | real (value : Binary64)
  | string (value : String)
  | array (items : List Json)
  | object (fields : List (String × Json))
deriving Inhabited

namespace Json

def ofNat (n : Nat) : Json := .integer n

def strings (items : List String) : Json := .array (items.map .string)

def ofOption (value : Option String) : Json := (value.map Json.string).getD .null

def field? (value : Json) (name : String) : Option Json :=
  match value with
  | .object fields => Mapping.get? fields name
  | _ => none

/-- Equality as keys: a truth value is the number zero or one, and numbers are compared by value. -/
def sameKey : Json → Json → Bool
  | .null, .null => true
  | .string a, .string b => a = b
  | .bool a, .bool b => a = b
  | .integer a, .integer b => a = b
  | .real a, .real b => a.sameNumber b
  | .bool a, .integer b | .integer b, .bool a => b = if a then 1 else 0
  | .bool a, .real b | .real b, .bool a => b.toInt? = some (if a then 1 else 0)
  | .integer a, .real b | .real b, .integer a => b.toInt? = some a
  | _, _ => false

mutual

/-- The number of levels of a value: one, and one more for each array or object around a value. -/
def depth : Json → Nat
  | .array items => 1 + depthOfItems items
  | .object fields => 1 + depthOfFields fields
  | _ => 1

def depthOfItems : List Json → Nat
  | [] => 0
  | item :: rest => max (depth item) (depthOfItems rest)

def depthOfFields : List (String × Json) → Nat
  | [] => 0
  | (_, field) :: rest => max (depth field) (depthOfFields rest)

end

end Json

end AppletPage
