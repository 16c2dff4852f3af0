import AppletPage.Parameter.Set

/-! Lists of tokens in the value of one parameter, with a space between two tokens. -/

namespace AppletPage

open Text

def isToken (token : String) : Bool := token ≠ "" && !hasBlank token

namespace Token

/-- Refuses the first token that is none, or that is among those `seen` before it. -/
def check (seen : List String) : List String → Except ParameterError Unit
  | [] => .ok ()
  | token :: rest =>
      if !isToken token then .error (.invalidToken token)
      else if token ∈ seen then .error (.duplicateToken token)
      else check (token :: seen) rest

def spaced (tokens : List String) : String := String.intercalate " " tokens

end Token

def joinTokens (tokens : List String) : Except ParameterError String :=
  match Token.check [] tokens with
  | .error error => .error error
  | .ok _ => .ok (Token.spaced tokens)

def splitTokens (value : String) : List String := words value

def ParameterSet.tokens (set : ParameterSet) (name : String) : List String :=
  match set.get? name with
  | some value => splitTokens value
  | none => []

end AppletPage
