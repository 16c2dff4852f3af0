import AppletPage.Text.Quoted

/-! Why parameters, or the tokens of a parameter's value, are refused. -/

namespace AppletPage

open Text

inductive ParameterError where
  | emptyName
  | blankInName (name : String)
  | valueNotText (name : String)
  | duplicateName (name : String)
  | invalidToken (token : String)
  | duplicateToken (token : String)
deriving DecidableEq

namespace ParameterError

def message : ParameterError → String
  | emptyName => "Parameter name must be a non-empty string"
  | blankInName name => "Parameter name contains whitespace: " ++ quote name
  | valueNotText name => "Value of " ++ quote name ++ " must be a string"
  | duplicateName name => "Duplicate parameter name: " ++ quote name
  | invalidToken token => "Invalid resource token: " ++ quote token
  | duplicateToken token => "Duplicate resource token: " ++ quote token

end ParameterError

end AppletPage
