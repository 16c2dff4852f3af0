import AppletPage.Mapping
import AppletPage.Text.Utf8

/-! A file system: directories, files and links under the names that lead to them from the root. -/

namespace AppletPage

open Text

/-- The names that lead from the root to something, through directories alone. -/
abbrev Path := List String

inductive Node where
  | directory
  | file (content : Bytes)
  | link (target : String)
deriving DecidableEq

/-- A file that is being put together in a directory, under a name that nothing else has. -/
structure Draft where
  directory : Path
  content : Bytes := []
deriving DecidableEq

/-- What there is beside the root, and the directory in which relative names start. -/
structure Files where
  nodes : Mapping Path Node := []
  workingDirectory : Path := []
  /-- How many directories at the end of the working directory's path are gone. They stay gone for
  it even if there are others at their paths. -/
  gone : Nat := 0
  /-- The files under drawn names, the newest first. -/
  drafts : List Draft := []

namespace Files

def get? (files : Files) (path : Path) : Option Node :=
  if path.isEmpty then some .directory else Mapping.get? files.nodes path

def put (files : Files) (path : Path) (node : Node) : Files :=
  { files with nodes := Mapping.put files.nodes path node }

def eraseBelow (files : Files) (path : Path) : Files :=
  { files with
    nodes := files.nodes.filter fun entry => !path.isPrefixOf entry.1
    drafts := files.drafts.filter fun draft => !path.isPrefixOf draft.directory
    gone :=
      if path.isPrefixOf files.workingDirectory then
        max files.gone (files.workingDirectory.length + 1 - path.length)
      else
        files.gone }

/-! Drafts. All but the first of these concern the newest one. -/

def addDraft (files : Files) (directory : Path) : Files :=
  { files with drafts := { directory } :: files.drafts }

def writeDraft (files : Files) (content : Bytes) : Files :=
  match files.drafts with
  | draft :: others => { files with drafts := { draft with content } :: others }
  | [] => files

def removeDraft (files : Files) : Files := { files with drafts := files.drafts.tail }

def placeDraft (files : Files) (path : Path) : Files :=
  match files.drafts with
  | draft :: _ => files.removeDraft.put path (.file draft.content)
  | [] => files

def below (files : Files) (path : Path) : Mapping Path Node :=
  (files.nodes.filter fun entry => path.isPrefixOf entry.1 && path ≠ entry.1).map
    fun entry => (entry.1.drop path.length, entry.2)

end Files

end AppletPage
