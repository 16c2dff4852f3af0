import AppletPage.Json.Basic
import AppletPage.Parameter.Error
import AppletPage.Text.Blank
import AppletPage.Text.Lower

/-! Parameters of the applet: texts under names, in order. A name is not empty and has no blank,
and no two names are equal in small letters. -/

namespace AppletPage

open Text

structure WellNamed (name : String) : Prop where
  nonempty : name ≠ ""
  unbroken : hasBlank name = false

instance (name : String) : Decidable (WellNamed name) :=
  decidable_of_iff (name ≠ "" ∧ hasBlank name = false)
    ⟨fun named => ⟨named.1, named.2⟩, fun named => ⟨named.nonempty, named.unbroken⟩⟩

structure ParameterSet where
  entries : List (String × String)
  wellNamed : ∀ entry ∈ entries, WellNamed entry.1
  distinct : (entries.map fun entry => lower entry.1).Nodup

namespace ParameterSet

@[ext] theorem ext {a b : ParameterSet} (h : a.entries = b.entries) : a = b := by
  cases a
  cases b
  cases h
  rfl

instance : DecidableEq ParameterSet := fun a b =>
  if h : a.entries = b.entries then isTrue (ext h)
  else isFalse fun same => h (congrArg entries same)

def checkName (name : Json) : Except ParameterError String :=
  match name with
  | .string text =>
      if text = "" then .error .emptyName
      else if hasBlank text then .error (.blankInName text)
      else .ok text
  | _ => .error .emptyName

def checkValue (name : String) (value : Json) : Except ParameterError String :=
  match value with
  | .string text => .ok text
  | _ => .error (.valueNotText name)

/-- The entries that follow others whose names are `taken` in small letters. Each entry is checked
for its name, then its value, then its name's being new. -/
def check (taken : List String) :
    List (Json × Json) → Except ParameterError (List (String × String))
  | [] => .ok []
  | (name, value) :: rest =>
      match checkName name with
      | .error error => .error error
      | .ok name =>
          match checkValue name value with
          | .error error => .error error
          | .ok value =>
              if lower name ∈ taken then .error (.duplicateName name)
              else
                match check (lower name :: taken) rest with
                | .error error => .error error
                | .ok entries => .ok ((name, value) :: entries)

theorem wellNamed_of_checkName {name : Json} {text : String} (h : checkName name = .ok text) :
    WellNamed text := by
  cases name with
  | string given =>
      simp only [checkName] at h
      split at h
      · cases h
      · next nonempty =>
        split at h
        · cases h
        · next unbroken =>
          cases h
          exact ⟨nonempty, by simpa using unbroken⟩
  | _ => simp [checkName] at h

theorem check_sound {taken : List String} {given : List (Json × Json)}
    {entries : List (String × String)} (h : check taken given = .ok entries) :
    (∀ entry ∈ entries, WellNamed entry.1) ∧
      (entries.map fun entry => lower entry.1).Nodup ∧
      ∀ entry ∈ entries, lower entry.1 ∉ taken := by
  induction given generalizing taken entries with
  | nil => cases h; simp
  | cons pair rest ih =>
      obtain ⟨name, value⟩ := pair
      simp only [check] at h
      split at h
      · cases h
      · next text named =>
        split at h
        · cases h
        · split at h
          · cases h
          · next fresh =>
            split at h
            · cases h
            · next others checked =>
              cases h
              obtain ⟨named', distinct, apart⟩ := ih checked
              refine ⟨?_, ?_, ?_⟩
              · intro entry member
                rcases List.mem_cons.mp member with rfl | member
                · exact wellNamed_of_checkName named
                · exact named' entry member
              · simp only [List.map_cons, List.nodup_cons]
                refine ⟨?_, distinct⟩
                intro member
                obtain ⟨entry, inside, same⟩ := List.mem_map.mp member
                exact apart entry inside (by simp [same])
              · intro entry member
                rcases List.mem_cons.mp member with rfl | member
                · exact fresh
                · exact fun old => apart entry member (List.mem_cons_of_mem _ old)

/-- The set with the given entries, if every one of them is in order. -/
def ofEntries (given : List (Json × Json)) : Except ParameterError ParameterSet :=
  match checked : check [] given with
  | .error error => .error error
  | .ok entries => .ok ⟨entries, (check_sound checked).1, (check_sound checked).2.1⟩

def textEntries (entries : List (String × String)) : List (Json × Json) :=
  entries.map fun entry => (.string entry.1, .string entry.2)

def ofList (entries : List (String × String)) : Except ParameterError ParameterSet :=
  ofEntries (textEntries entries)

def empty : ParameterSet := ⟨[], by simp, by simp⟩

instance : Inhabited ParameterSet := ⟨empty⟩

def size (set : ParameterSet) : Nat := set.entries.length

def names (set : ParameterSet) : List String := set.entries.map (·.1)

def toMapping (set : ParameterSet) : Mapping String String := Mapping.ofList set.entries

def get? (set : ParameterSet) (name : String) : Option String := Mapping.get? set.entries name

def contains (set : ParameterSet) (name : String) : Bool := (set.get? name).isSome

end ParameterSet

end AppletPage
