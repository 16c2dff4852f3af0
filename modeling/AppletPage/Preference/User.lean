import AppletPage.Preference.Overrides

/-! The names of users: up to 64 letters, digits, low lines and hyphens; a line end may follow. -/

namespace AppletPage

open Text

namespace User

def nameLimit : Nat := 64

def inName (c : Char) : Bool := isLetter c || isDigit c || c = '_' || c = '-'

def isName (name : String) : Bool :=
  let name := withoutLineEnd name.toList
  !name.isEmpty && name.length ≤ nameLimit && name.all inName

structure InvalidName where
  name : Option String
deriving DecidableEq

def InvalidName.message (invalid : InvalidName) : String :=
  "Invalid username: " ++ match invalid.name with
    | some name => quote name
    | none => "None"

def check (name : Option String) : Except InvalidName String :=
  match name with
  | some name => if isName name then .ok name else .error ⟨some name⟩
  | none => .error ⟨none⟩

end User

end AppletPage
