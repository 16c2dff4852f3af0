import AppletPage.Json.Pairs
import AppletPage.Parameter.Set

/-! Values of a set under names of any kind. Only a text is the name of a parameter, and an array or
an object cannot even be asked for. -/

namespace AppletPage

inductive LookupError where
  | missing (name : Json)
  | noKey (kind : String)

namespace LookupError

def message : LookupError → String
  | missing name => name.literal
  | noKey kind => (Json.MappingError.noKey kind).message

end LookupError

namespace ParameterSet

def value? (set : ParameterSet) (name : Json) : Except LookupError (Option String) :=
  match name with
  | .string text => .ok (set.get? text)
  | other => if other.isKey then .ok none else .error (.noKey other.kind)

def valueOr (set : ParameterSet) (name other : Json) : Except LookupError Json :=
  (set.value? name).map fun found => (found.map Json.string).getD other

def valueAt (set : ParameterSet) (name : Json) : Except LookupError String :=
  match set.value? name with
  | .error error => .error error
  | .ok none => .error (.missing name)
  | .ok (some found) => .ok found

def has (set : ParameterSet) (name : Json) : Except LookupError Bool :=
  (set.value? name).map Option.isSome

end ParameterSet

end AppletPage
