import AppletPage.Command.Export

/-! The program that writes a page: the command, run on what is read from the machine, and its
changes carried out there. -/

namespace AppletPage.Program

open Text

def homeVariables : List String :=
  ["HOME", Home.variableName, "XDG_DATA_HOME", "LOCALAPPDATA", "APPDATA"]

def nodesTo (path : Path) (node : Node) : List (Path × Node) :=
  (List.range (path.length - 1)).map (fun n => (path.take (n + 1), Node.directory))
    ++ [(path, node)]

def bareMachine : IO Host := do
  let mut environment : Mapping String String := []
  for name in homeVariables do
    if let some value ← IO.getEnv name then
      environment := Mapping.put environment name value
  let here := (Pathname.ofText (toString (← IO.currentDir))).parts
  return { files := { nodes := nodesTo here .directory, workingDirectory := here }, environment }

def configFile? (host : Host) (arguments : List String) : Option Pathname :=
  match Command.parse arguments with
  | .ok (.run options) =>
      (Command.homeOf options host).toOption.map fun home => (Layout.ofHome home).configFile
  | _ => none

def machine (arguments : List String) : IO Host := do
  let host ← bareMachine
  match configFile? host arguments with
  | none => return host
  | some path =>
      try
        let content ← IO.FS.readBinFile path.toText
        let found := nodesTo path.parts (.file content.toList)
        return { host with files := { host.files with nodes := host.files.nodes ++ found } }
      catch _ =>
        return host

def carryOut (before after : Files) : IO Unit :=
  for (path, node) in after.nodes do
    if before.get? path ≠ some node then
      let name := (Pathname.ofAbsolute path).toText
      match node with
      | .directory => IO.FS.createDirAll name
      | .file content => IO.FS.writeBinFile name ⟨content.toArray⟩
      | .link _ => pure ()

end AppletPage.Program

open AppletPage Program

def main (arguments : List String) : IO UInt32 := do
  let before ← machine arguments
  let (result, after) := (Command.run arguments).run before
  carryOut before.files after.files
  match result with
  | .ok (.done output) =>
      IO.print output
      return 0
  | .ok .help =>
      IO.print Command.helpText
      return 0
  | .ok (.refused error) =>
      IO.eprint error.report
      return 2
  | .error failure =>
      IO.eprintln failure.message
      return 1
