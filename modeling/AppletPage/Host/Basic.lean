import AppletPage.Failure
import AppletPage.Files.Change
import AppletPage.Files.Resolve

/-! The machine a service runs on: files, environment variables, the home directories of its users,
and the journal. -/

namespace AppletPage

open Text

/-- The file that lines are written to, and whether one was ever opened for them. A file that is
gone takes its lines with it. One that reaches the limit, in bytes, would be put away under another
name and begun anew. -/
structure Journal where
  opened : Bool := false
  place : Option Path := none
  limit : Nat := 0
deriving DecidableEq

inductive Platform where
  | linux
  | darwin
  | windows
deriving DecidableEq

def Platform.ofName (name : String) : Platform :=
  if "win".toList.isPrefixOf name.toList then .windows
  else if name = "darwin" then .darwin
  else .linux

structure Host where
  files : Files := {}
  environment : Mapping String String := []
  /-- The home directories of the users, of whom the service is one. -/
  homes : Mapping String String := []
  self : String := "root"
  journal : Journal := {}
  stamp : String := ""
  /-- What follows the line that tells of a failure. -/
  trace : Failure → String := fun _ => ""

/-- Work on a host, with a result or a failure; the host is as the work left it either way. -/
abbrev HostAction (α : Type) := ExceptT Failure (StateM Host) α

namespace HostAction

variable {α : Type}

def ofExcept {ε : Type} (wrap : ε → Failure) (result : Except ε α) : HostAction α :=
  match result with
  | .ok value => pure value
  | .error error => throw (wrap error)

def ofFiles (action : FileAction α) : HostAction α := fun host =>
  let (result, files) := action.run host.files
  (result.mapError Failure.file, { host with files })

def read (path : Pathname) : HostAction Bytes := do
  ofExcept Failure.file ((← get).files.read path)

def «exists» (path : Pathname) : HostAction Bool := do
  ofExcept Failure.file ((← get).files.exists path)

def resolve (path : Pathname) : HostAction Pathname := do
  ofExcept Failure.file ((← get).files.resolve path)

end HostAction

namespace Host

def lookup? (host : Host) (name : String) : Option String :=
  Mapping.get? host.environment name

def setting? (host : Host) (name : String) : Option String :=
  match host.lookup? name with
  | some value => if value = "" then none else some value
  | none => none

inductive Level where
  | info
  | warning
  | error
deriving DecidableEq

def Level.name : Level → String
  | .info => "INFO"
  | .warning => "WARNING"
  | .error => "ERROR"

def line (stamp source : String) (level : Level) (message : String) : String :=
  stamp ++ " - " ++ source ++ " - " ++ level.name ++ " - " ++ message ++ "\n"

/-- Writes a line to the journal, if it has a file. How a file is put away that reaches its limit is
not modelled: what a line does to the files is said of a journal below its limit only. -/
def log (source : String) (level : Level) (message : String) (host : Host) : Host :=
  match host.journal.place with
  | none => host
  | some place =>
      match host.files.get? place with
      | some (.file content) =>
          let content := content ++ Utf8.encode (line host.stamp source level message)
          { host with files := host.files.put place (.file content) }
      | _ => host

def closeJournal (host : Host) : Host := { host with journal := {} }

def withoutJournalBelow (gone : Path) (host : Host) : Host :=
  match host.journal.place with
  | some place =>
      if gone.isPrefixOf place then { host with journal := { host.journal with place := none } }
      else host
  | none => host

def remove (path : Pathname) : HostAction Unit := do
  let gone ← HostAction.ofFiles (FileAction.remove path)
  modify (withoutJournalBelow gone)

/-- Replaces what is at a name by a new file, whose content is put together in `temporary`. -/
def replace (temporary shown path : Pathname) (content : Bytes) : HostAction Unit := do
  let gone ← HostAction.ofFiles (FileAction.replace temporary shown path content)
  modify (withoutJournalBelow gone)

end Host

namespace HostAction

def log (source : String) (level : Host.Level) (message : String) : HostAction Unit :=
  modify (Host.log source level message)

/-- Opens the file of the journal. Its lines go there unless they go to an earlier one. -/
def openJournal (path : Pathname) (limit : Nat) : HostAction Unit := do
  let place ← ofFiles (FileAction.openForAppending path)
  modify fun host =>
    if host.journal.opened then host else { host with journal := ⟨true, some place, limit⟩ }

end HostAction

end AppletPage
