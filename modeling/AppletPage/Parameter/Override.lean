import AppletPage.Parameter.Set

/-! Overriding parameters. Names are matched in small letters: a name that is there keeps its place
and spelling and takes the last value given for it, and the other names follow in order. -/

namespace AppletPage.ParameterSet

open Text

variable {ν : Type}

/-- The values given for names in small letters, the last one for each. -/
def foldedValues (overrides : List (String × ν)) : Mapping String ν :=
  Mapping.ofList (overrides.map fun entry => (lower entry.1, entry.2))

/-- The entries with the values that are given for their names. Taking a value uses it up; what is
left in the end is given for other names. -/
def takeValues (values : Mapping String ν) :
    List (String × ν) → List (String × ν) × Mapping String ν
  | [] => ([], values)
  | (name, value) :: rest =>
      let given := (Mapping.get? values (lower name)).getD value
      let (others, left) := takeValues (Mapping.erase values (lower name)) rest
      ((name, given) :: others, left)

def overridden (entries overrides : List (String × ν)) : List (String × ν) :=
  let (kept, left) := takeValues (foldedValues overrides) entries
  kept ++ overrides.filter fun entry => lower entry.1 ∈ Mapping.keys left

def withOverrides (set : ParameterSet) (overrides : List (String × String)) :
    Except ParameterError ParameterSet :=
  if overrides.isEmpty then .ok set else ofList (overridden set.entries overrides)

/-- The set with overrides applied whose values need not be texts. -/
def withValues (set : ParameterSet) (overrides : List (String × Json)) :
    Except ParameterError ParameterSet :=
  if overrides.isEmpty then .ok set
  else
    let entries := set.entries.map fun entry => (entry.1, Json.string entry.2)
    ofEntries ((overridden entries overrides).map fun entry => (.string entry.1, entry.2))

end AppletPage.ParameterSet
