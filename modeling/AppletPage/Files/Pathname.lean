import AppletPage.Text.Split

/-! Names of files as they are written: a root, and parts without empty ones and without single
points. -/

namespace AppletPage

/-- Where a name starts: at the working directory, or at the root, which may be written with two
slashes. -/
inductive Root where
  | none
  | single
  | double
deriving DecidableEq

structure Pathname where
  root : Root
  parts : List String
deriving DecidableEq

namespace Pathname

def partsOf (text : List Char) : List String :=
  ((Text.splitAt '/' text).filter fun piece => piece ≠ [] && piece ≠ ['.']).map String.ofList

/-- Exactly two slashes make the double root, and any other number of them the single one. -/
def rootOf : List Char → Root
  | '/' :: '/' :: '/' :: _ => .single
  | '/' :: '/' :: _ => .double
  | '/' :: _ => .single
  | _ => .none

def ofText (text : String) : Pathname := ⟨rootOf text.toList, partsOf text.toList⟩

def rootText : Root → String
  | .none => ""
  | .single => "/"
  | .double => "//"

def toText (path : Pathname) : String :=
  if path.root = .none && path.parts.isEmpty then "."
  else rootText path.root ++ String.intercalate "/" path.parts

def isAbsolute (path : Pathname) : Bool := path.root ≠ .none

def join (path other : Pathname) : Pathname :=
  if other.isAbsolute then other else { path with parts := path.parts ++ other.parts }

def child (path : Pathname) (name : String) : Pathname :=
  { path with parts := path.parts ++ [name] }

def parent (path : Pathname) : Pathname := { path with parts := path.parts.dropLast }

/-- The name of the directory above: without the last part, unless that is a pair of points or there
is none, when it has one more pair of points. -/
def above (path : Pathname) : Pathname :=
  match path.root, path.parts.getLast? with
  | .none, none | .none, some ".." => path.child ".."
  | _, _ => path.parent

/-- The name with each pair of points taking back the part before it; at the root there is none. -/
def withoutUps (path : Pathname) : Pathname :=
  { path with
    parts := path.parts.foldl
      (fun parts part => if part = ".." then parts.dropLast else parts ++ [part]) [] }

def lastPart (path : Pathname) : String := (path.parts.getLast?).getD ""

def ofAbsolute (parts : List String) : Pathname := ⟨.single, parts⟩

end Pathname

end AppletPage
