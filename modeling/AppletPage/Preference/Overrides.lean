import AppletPage.Json.Pairs
import AppletPage.Parameter.Token
import AppletPage.Text.Ascii
import AppletPage.Text.Split

/-! The parameters that a user may override, checked in stages: the form of the whole, names that
are locked, names that are equal in small letters, and lists of tokens. The first stage with a
violation reports all of its violations. -/

namespace AppletPage

open Text

abbrev Overrides := List (String × String)

inductive Stage where
  | form
  | locked
  | clash
  | tokens
deriving DecidableEq

inductive FormRule where
  | pattern
  | type
deriving DecidableEq

structure Violation where
  path : List Json
  message : String
  rule : Option FormRule := none

inductive OverridesError where
  | rejected (stage : Stage) (violations : List Violation)
  /-- A name that is no text, of an otherwise well formed mapping. -/
  | nameNotText (kind : String)

namespace Stage

def message : Stage → String
  | form => "Invalid preference overrides"
  | locked => "Locked parameters cannot be overridden"
  | clash => "Duplicate parameter names"
  | tokens => "Invalid resource token list"

end Stage

def FormRule.name : FormRule → String
  | .pattern => "pattern"
  | .type => "type"

def Violation.toJson (violation : Violation) : Json :=
  .object
    ([("path", .array violation.path), ("message", .string violation.message)]
      ++ match violation.rule with
        | some rule => [("validator", .string rule.name)]
        | none => [])

namespace OverridesError

def message : OverridesError → String
  | rejected stage _ => stage.message
  | nameNotText kind => "'" ++ kind ++ "' object has no attribute 'lower'"

end OverridesError

namespace Overrides

/-! The form: an object whose names follow a pattern and whose values are texts. -/

def inName (c : Char) : Bool := isLetter c || isDigit c || c = '_' || c = '.' || c = '-'

/-- A letter and then letters, digits, low lines, points and hyphens; a line end may follow. -/
def followsPattern (name : String) : Bool :=
  match withoutLineEnd name.toList with
  | [] => false
  | c :: rest => isLetter c && rest.all inName

def namePattern : String := "^[A-Za-z][A-Za-z0-9_.-]*$"

def patternViolation? (name : Json) : Option Violation :=
  match name with
  | .string text =>
      if followsPattern text then none
      else
        some
          { path := []
            message := quote text ++ " does not match " ++ quote namePattern
            rule := some .pattern }
  | _ => none

def typeViolation (path : List Json) (value : Json) (type : String) : Violation :=
  { path
    message := value.literal ++ " is not of type " ++ quote type
    rule := some .type }

def valueViolation? (entry : Json × Json) : Option Violation :=
  match entry.2 with
  | .string _ => none
  | value => some (typeViolation [entry.1] value "string")

def Violation.key (violation : Violation) : String × String :=
  (String.intercalate "/" (violation.path.map Json.plain), violation.message)

def keyOrder (a b : String × String) : Bool :=
  if a.1 = b.1 then codeOrder a.2 b.2 else codeOrder a.1 b.1

def sortViolations (violations : List Violation) : List Violation :=
  (Mapping.sortBy keyOrder (violations.map fun v => (Violation.key v, v))).map (·.2)

def formViolations (entries : Mapping Json Json) : List Violation :=
  sortViolations
    (entries.filterMap (fun entry => patternViolation? entry.1)
      ++ entries.filterMap valueViolation?)

def textEntries : Mapping Json Json → Except OverridesError Overrides
  | [] => .ok []
  | (name, value) :: rest =>
      match name, value with
      | .string name, .string value =>
          match textEntries rest with
          | .ok others => .ok ((name, value) :: others)
          | .error error => .error error
      | .string _, value => .error (.rejected .form [typeViolation [name] value "string"])
      | name, _ => .error (.nameNotText name.kind)

/-! Names that tie the applet to its server and its plugins. -/

def lockedNames : List String := ["port", "server.classname", "plugins.count"]

def lockedPrefix : String := "plugins."

def isLocked (name : String) : Bool :=
  let folded := lower name
  folded ∈ lockedNames || lockedPrefix.toList.isPrefixOf folded.toList

def sortNames (names : List String) : List String :=
  (Mapping.sortBy codeOrder (names.map fun name => (name, ()))).map (·.1)

def lockedViolations (entries : Overrides) : List Violation :=
  (sortNames ((entries.map (·.1)).filter isLocked)).map fun name =>
    { path := [.string name], message := "locked" }

/-! Names that are equal in small letters. -/

/-- The names that equal an earlier one in small letters; each is reported with the first such. -/
def clashesAfter (seen : List (String × String)) : List String → List Violation
  | [] => []
  | name :: rest =>
      match seen.lookup (lower name) with
      | some other =>
          { path := [.string name], message := "same name as " ++ quote other }
            :: clashesAfter seen rest
      | none => clashesAfter ((lower name, name) :: seen) rest

def clashes (entries : Overrides) : List Violation := clashesAfter [] (entries.map (·.1))

/-! Lists of tokens, which are written with single spaces. -/

def tokenNames : List String := ["resources.boards", "resources.pieces"]

def isTokenList (name : String) : Bool := lower name ∈ tokenNames

def tidy (entry : String × String) : Except ParameterError (String × String) :=
  if isTokenList entry.1 then
    (joinTokens (splitTokens entry.2)).map fun value => (entry.1, value)
  else
    .ok entry

def tokenViolation? (entry : String × String) : Option Violation :=
  match tidy entry with
  | .ok _ => none
  | .error error => some { path := [.string entry.1], message := error.message }

def tidyEntries (entries : Overrides) : Overrides :=
  entries.filterMap fun entry => (tidy entry).toOption

/-! All stages. -/

def pass (stage : Stage) (violations : List Violation) : Except OverridesError Unit :=
  if violations.isEmpty then .ok () else .error (.rejected stage violations)

def validateMapping (entries : Mapping Json Json) : Except OverridesError Overrides := do
  pass .form (formViolations entries)
  let named ← textEntries entries
  pass .locked (lockedViolations named)
  pass .clash (clashes named)
  pass .tokens (named.filterMap tokenViolation?)
  return tidyEntries named

/-- The overrides that a value describes, in the order and with the spelling of its names. -/
def validate (value : Json) : Except OverridesError Overrides :=
  match value with
  | .object fields => validateMapping (fields.map fun field => (.string field.1, field.2))
  | value => .error (.rejected .form [typeViolation [] value "object"])

end Overrides

end AppletPage
