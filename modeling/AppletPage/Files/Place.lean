import AppletPage.Files.Failure
import AppletPage.Files.Pathname
import AppletPage.Files.Tree

/-! Where names lead, part by part and through links. What a link leads to is a name of its own,
which is followed just as it is written. -/

namespace AppletPage

open Text

/-- A name as it is followed: whether it starts at the root, its parts, single points among them,
and whether a slash ends it. -/
structure Trail where
  fromRoot : Bool
  parts : List String
  slash : Bool := false
deriving DecidableEq

namespace Trail

def ofText (text : String) : Trail :=
  let chars := text.toList
  { fromRoot := chars.head? = some '/'
    parts := ((splitAt '/' chars).filter (· ≠ [])).map String.ofList
    slash := chars.getLast? = some '/' }

end Trail

/-- How the last part of a name is taken. -/
inductive Ending where
  /-- A link there is followed. -/
  | followed
  /-- A link there is what the name leads to. -/
  | kept
  /-- A link there is followed, and a file can be made where nothing is. -/
  | created
deriving DecidableEq

/-- Where a name leads: to something, to a place in a directory where nothing is, or nowhere. -/
inductive Place where
  | present (path : Path) (node : Node)
  | vacant (directory : Path) (name : String)
  | nowhere (cause : FileCause)
deriving DecidableEq

namespace Files

def linkLimit : Nat := 40

def partLimit : Nat := 255

def nameLimit : Nat := 4095

/-- Where parts of a name lead before a link has to be followed. -/
inductive Advance where
  | stopped (place : Place)
  | link (directory : Path) (target : String) (rest : List String)

/-- Follows parts from `here`, where `node` is and of which the last `gone` directories are gone;
`slash` tells whether a slash ends the parts. A file cannot be made under a name that ends so. -/
def advance (files : Files) (ending : Ending) (slash : Bool) (here : Path) (gone : Nat)
    (node : Node) : List String → Advance
  | [] => .stopped (.present here node)
  | name :: rest =>
      if node ≠ .directory then .stopped (.nowhere .notDirectory)
      else if name = "." then advance files ending slash here gone node rest
      else if name = ".." then advance files ending slash here.dropLast (gone - 1) .directory rest
      else if ending = .created && slash && rest.isEmpty then .stopped (.nowhere .isDirectory)
      else if gone ≠ 0 then .stopped (.nowhere .notFound)
      else if partLimit < (Utf8.encode name).length then .stopped (.nowhere .nameTooLong)
      else
        match files.get? (here ++ [name]) with
        | none => .stopped (if rest.isEmpty then .vacant here name else .nowhere .notFound)
        | some (.link target) =>
            if rest.isEmpty && ending = .kept then
              .stopped (.present (here ++ [name]) (.link target))
            else
              .link here target rest
        | some node => advance files ending slash (here ++ [name]) 0 node rest

/-- Follows parts from a directory, through at most `links` links. What ends with a slash has to be
a directory, and so has what a link at the end leads to if the slash ends its target. -/
def follow (files : Files) (ending : Ending) :
    (links : Nat) → (here : Path) → (gone : Nat) → (slash : Bool) → List String → Place
  | links, here, gone, slash, parts =>
      match advance files ending slash here gone .directory parts with
      | .stopped (.present path node) =>
          if slash && node ≠ .directory then .nowhere .notDirectory else .present path node
      | .stopped place => place
      | .link directory target rest =>
          match links with
          | 0 => .nowhere .tooManyLinks
          | links + 1 =>
              let target := Trail.ofText target
              follow files ending links (if target.fromRoot then [] else directory) 0
                (slash || (rest.isEmpty && target.slash)) (target.parts ++ rest)

def hasZero (path : Pathname) : Bool := path.parts.any fun part => part.toList.contains '\x00'

def locate (files : Files) (path : Pathname) (ending : Ending := .followed) : Place :=
  if nameLimit < (Utf8.encode path.toText).length then .nowhere .nameTooLong
  else if path.isAbsolute then files.follow ending linkLimit [] 0 false path.parts
  else files.follow ending linkLimit files.workingDirectory files.gone false path.parts

/-- The absolute form of a name, in which each pair of points takes back the part before it. There
is none for a relative name if the working directory is gone. -/
def absolute (files : Files) (path : Pathname) : Except FileError Pathname :=
  if path.isAbsolute then .ok path.withoutUps
  else if files.gone ≠ 0 then .error (.system .notFound none none)
  else .ok ((Pathname.ofAbsolute files.workingDirectory).join path).withoutUps

/-! Looking at what a name leads to. -/

def «exists» (files : Files) (path : Pathname) : Except FileError Bool :=
  if hasZero path then .ok false
  else
    match files.locate path with
    | .present _ _ => .ok true
    | .vacant _ _ => .ok false
    | .nowhere .nameTooLong => .error (.system .nameTooLong (some path.toText) none)
    | .nowhere _ => .ok false

def isDirectory (files : Files) (path : Pathname) : Except FileError Bool :=
  if hasZero path then .ok false
  else
    match files.locate path with
    | .present _ node => .ok (node = .directory)
    | .vacant _ _ => .ok false
    | .nowhere .nameTooLong => .error (.system .nameTooLong (some path.toText) none)
    | .nowhere _ => .ok false

def read (files : Files) (path : Pathname) : Except FileError Bytes :=
  let fail (cause : FileCause) := Except.error (FileError.system cause (some path.toText) none)
  if hasZero path then .error .zeroByte
  else
    match files.locate path with
    | .present _ (.file content) => .ok content
    | .present _ .directory => fail .isDirectory
    | .present _ (.link _) => fail .tooManyLinks
    | .vacant _ _ => fail .notFound
    | .nowhere cause => fail cause

end Files

end AppletPage
