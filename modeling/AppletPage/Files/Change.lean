import AppletPage.Files.Place

/-! Changes of a file system. A change that fails leaves what it had done before. -/

namespace AppletPage

open Text

/-- A change with a result or a failure; the files are as the change left them in either case. -/
abbrev FileAction (α : Type) := ExceptT FileError (StateM Files) α

namespace FileAction

def fail {α : Type} (cause : FileCause) (path : Pathname) : FileAction α :=
  throw (.system cause (some path.toText) none)

def modify (change : Files → Files) : FileAction Unit :=
  StateT.modifyGet fun files => (.ok (), change files)

def makeDirectory (path : Pathname) : FileAction Unit := do
  if Files.hasZero path then throw .zeroByte
  match (← get).locate path .kept with
  | .present _ _ => fail .exists path
  | .vacant directory name => modify (·.put (directory ++ [name]) .directory)
  | .nowhere cause => fail cause path

/-- Makes a directory unless it is there already. Its parent has been tried, if there is one. -/
def ensureDirectory (path : Pathname) : FileAction Unit :=
  tryCatch (makeDirectory path) fun error => do
    match error with
    | .system .notFound _ _ => throw error
    | .system .. =>
        let there ← liftM ((← get).isDirectory path)
        if !there then throw error
    | _ => throw error

/-- Makes the directory whose last parts are `reversed`, and those above it that are missing. -/
def ensureDirectories (path : Pathname) : (reversed : List String) → FileAction Unit
  | [] => ensureDirectory { path with parts := [] }
  | last :: above =>
      let self := { path with parts := (last :: above).reverse }
      tryCatch (ensureDirectory self) fun error => do
        match error with
        | .system .notFound _ _ =>
            ensureDirectories path above
            ensureDirectory self
        | _ => throw error

def makeDirectories (path : Pathname) : FileAction Unit :=
  ensureDirectories path path.parts.reverse

def write (path : Pathname) (content : Bytes) : FileAction Unit := do
  if Files.hasZero path then throw .zeroByte
  match (← get).locate path .created with
  | .present place (.file _) => modify (·.put place (.file content))
  | .present _ .directory => fail .isDirectory path
  | .present _ (.link _) => fail .tooManyLinks path
  | .vacant directory name => modify (·.put (directory ++ [name]) (.file content))
  | .nowhere cause => fail cause path

def openForAppending (path : Pathname) : FileAction Path := do
  if Files.hasZero path then throw .zeroByte
  match (← get).locate path .created with
  | .present place (.file _) => return place
  | .present _ .directory => fail .isDirectory path
  | .present _ (.link _) => fail .tooManyLinks path
  | .vacant directory name =>
      modify (·.put (directory ++ [name]) (.file []))
      return directory ++ [name]
  | .nowhere cause => fail cause path

/-- Starts a file in the directory of a name. Its own name is drawn until nothing else has it, so
that of the given name only the directory matters; errors show it as `shown`. -/
def startDraft (temporary shown : Pathname) : FileAction Unit := do
  match (← get).locate temporary .kept with
  | .present place _ => modify (·.addDraft place.dropLast)
  | .vacant directory _ => modify (·.addDraft directory)
  | .nowhere cause => fail cause shown

/-- Gives the newest draft a name, in the place of what is there, but of no directory. Gives the
place of the file. -/
def renameDraft (shown path : Pathname) : FileAction Path := do
  let fail (cause : FileCause) : FileAction Path :=
    throw (.system cause (some shown.toText) (some path.toText))
  let placeAt (place : Path) : FileAction Path := do
    modify (·.placeDraft place)
    return place
  match (← get).locate path .kept with
  | .present _ .directory => fail .isDirectory
  | .present place _ => placeAt place
  | .vacant directory name => placeAt (directory ++ [name])
  | .nowhere cause => fail cause

def leaveDraft (temporary shown : Pathname) (content : Bytes) : FileAction Unit := do
  startDraft temporary shown
  modify (·.writeDraft content)

/-- Replaces what is at a name by a file with a content, but no directory. The content is put
together in a draft, which is removed if it cannot have the name. -/
def replace (temporary shown path : Pathname) (content : Bytes) : FileAction Path := do
  startDraft temporary shown
  modify (·.writeDraft content)
  tryCatch (renameDraft shown path) fun error => do
    modify (·.removeDraft)
    throw error

def makeLink (path : Pathname) (target : String) : FileAction Unit := do
  let fail (cause : FileCause) : FileAction Unit :=
    throw (.system cause (some target) (some path.toText))
  if Files.hasZero path || target.toList.contains '\x00' then throw .zeroByte
  if target = "" then fail .notFound
  if Files.nameLimit < (Utf8.encode target).length then fail .nameTooLong
  match (← get).locate path .kept with
  | .present _ _ => fail .exists
  | .vacant directory name => modify (·.put (directory ++ [name]) (.link target))
  | .nowhere cause => fail cause

def remove (path : Pathname) : FileAction Path := do
  if Files.hasZero path then throw .zeroByte
  match (← get).locate path .kept with
  | .present place _ =>
      modify (·.eraseBelow place)
      return place
  | .vacant _ _ => fail .notFound path
  | .nowhere cause => fail cause path

end FileAction

end AppletPage
