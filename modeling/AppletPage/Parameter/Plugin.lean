import AppletPage.Json.Reader
import AppletPage.Parameter.Set

/-! The plugins that a set names: a count, and under each number below it a class name. -/

namespace AppletPage

open Text

inductive PluginError where
  | badCount (text : String)
  | longCount (digits : Nat)
  | missing (index count : Nat)
deriving DecidableEq

namespace Plugin

def countKey : String := "plugins.count"

def classnameKey (index : Nat) : String := "plugins." ++ toString index ++ ".classname"

end Plugin

namespace PluginError

def message : PluginError → String
  | badCount text => "plugins.count is not a non-negative integer: " ++ quote text
  | longCount digits => Json.longIntegerMessage digits
  | missing index count =>
      "Missing " ++ Plugin.classnameKey index ++ " (plugins.count=" ++ toString count ++ ")"

end PluginError

namespace Plugin

/-- The number that a text holds in ASCII digits alone, with blanks around it. -/
def readCount (text : String) : Except PluginError Nat :=
  let digits := trimBy isBlank text.toList
  if digits.isEmpty || !digits.all isDigit then .error (.badCount text)
  else if Json.digitLimit < digits.length then .error (.longCount digits.length)
  else .ok (natOfDigits digits)

def classname? (set : ParameterSet) (index : Nat) : Option String :=
  match set.get? (classnameKey index) with
  | none => none
  | some value =>
      let name := trim value
      if name = "" then none else some name

/-- The class names of the last `left` of `count` plugins. -/
def readFrom (set : ParameterSet) (count : Nat) :
    (left : Nat) → (index : Nat) → Except PluginError (List String)
  | 0, _ => .ok []
  | left + 1, index =>
      match classname? set index with
      | none => .error (.missing index count)
      | some name =>
          match readFrom set count left (index + 1) with
          | .error error => .error error
          | .ok others => .ok (name :: others)

def shortName (name : String) : String :=
  String.ofList (name.toList.reverse.takeWhile (· ≠ '.')).reverse

end Plugin

/-- The class names of the plugins, in order; none if there is no count. -/
def ParameterSet.plugins (set : ParameterSet) : Except PluginError (List String) :=
  match set.get? Plugin.countKey with
  | none => .ok []
  | some text =>
      match Plugin.readCount text with
      | .error error => .error error
      | .ok count => Plugin.readFrom set count count 0

end AppletPage
