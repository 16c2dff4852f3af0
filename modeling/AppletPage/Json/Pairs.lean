import AppletPage.Json.Literal

/-! Values taken apart: into the two halves of a pair, and into a mapping. An array has its items,
a text its characters and an object its names; no other value has parts. -/

namespace AppletPage.Json

def kind : Json → String
  | .null => "NoneType"
  | .bool _ => "bool"
  | .integer _ => "int"
  | .real _ => "float"
  | .string _ => "str"
  | .array _ => "list"
  | .object _ => "dict"

def parts? : Json → Option (List Json)
  | .array items => some items
  | .string text => some (text.toList.map fun c => .string (String.singleton c))
  | .object fields => some (fields.map fun field => .string field.1)
  | _ => none

inductive PairError where
  | tooFew (count : Nat)
  | tooMany
  | noParts (kind : String)
deriving DecidableEq

namespace PairError

def message : PairError → String
  | tooFew count => "not enough values to unpack (expected 2, got " ++ toString count ++ ")"
  | tooMany => "too many values to unpack (expected 2)"
  | noParts kind => "cannot unpack non-iterable " ++ kind ++ " object"

end PairError

def pair (value : Json) : Except PairError (Json × Json) :=
  match value.parts? with
  | none => .error (.noParts value.kind)
  | some [first, second] => .ok (first, second)
  | some (_ :: _ :: _) => .error .tooMany
  | some few => .error (.tooFew few.length)

inductive MappingError where
  | noParts (kind : String)
  | partWithoutParts (index : Nat)
  | partLength (index length : Nat)
  | noKey (kind : String)
deriving DecidableEq

namespace MappingError

def message : MappingError → String
  | noParts kind => "'" ++ kind ++ "' object is not iterable"
  | partWithoutParts index =>
      "cannot convert dictionary update sequence element #" ++ toString index ++ " to a sequence"
  | partLength index length =>
      "dictionary update sequence element #" ++ toString index ++ " has length " ++ toString length
        ++ "; 2 is required"
  | noKey kind => "unhashable type: '" ++ kind ++ "'"

end MappingError

def isKey : Json → Bool
  | .array _ | .object _ => false
  | _ => true

def putPairs (index : Nat) (entries : Mapping Json Json) :
    List Json → Except MappingError (Mapping Json Json)
  | [] => .ok entries
  | part :: rest =>
      match part.parts? with
      | none => .error (.partWithoutParts index)
      | some [key, value] =>
          if key.isKey then putPairs (index + 1) (Mapping.putBy key.sameKey key value entries) rest
          else .error (.noKey key.kind)
      | some halves => .error (.partLength index halves.length)

/-- An object as a mapping, or the mapping that the pairs among the parts of a value make. -/
def toMapping (value : Json) : Except MappingError (Mapping Json Json) :=
  match value with
  | .object fields => .ok (fields.map fun field => (.string field.1, field.2))
  | value =>
      match value.parts? with
      | none => .error (.noParts value.kind)
      | some parts => putPairs 0 [] parts

end AppletPage.Json
