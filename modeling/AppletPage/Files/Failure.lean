import AppletPage.Text.Quoted

/-! Why a file operation fails. -/

namespace AppletPage

open Text

inductive FileCause where
  | notFound
  | exists
  | notDirectory
  | isDirectory
  | nameTooLong
  | directoryNotEmpty
  | tooManyLinks
deriving DecidableEq

inductive FileError where
  | system (cause : FileCause) (path : Option String) (destination : Option String)
  | zeroByte
  | linkLoop (path : String)
  /-- Links of which too many lead through each other. -/
  | nestedLinks
  | noHome
deriving DecidableEq

namespace FileCause

def number : FileCause → Nat
  | notFound => 2
  | «exists» => 17
  | notDirectory => 20
  | isDirectory => 21
  | nameTooLong => 36
  | directoryNotEmpty => 39
  | tooManyLinks => 40

def message : FileCause → String
  | notFound => "No such file or directory"
  | «exists» => "File exists"
  | notDirectory => "Not a directory"
  | isDirectory => "Is a directory"
  | nameTooLong => "File name too long"
  | directoryNotEmpty => "Directory not empty"
  | tooManyLinks => "Too many levels of symbolic links"

end FileCause

namespace FileError

def message : FileError → String
  | system cause path destination =>
      "[Errno " ++ toString cause.number ++ "] " ++ cause.message
        ++ (match path with
          | some path => ": " ++ quote path
          | none => "")
        ++ (match destination with
          | some path => " -> " ++ quote path
          | none => "")
  | zeroByte => "embedded null byte"
  | linkLoop path => "Symlink loop from " ++ quote path
  | nestedLinks => "Too many links lead through each other"
  | noHome => "Could not determine home directory."

end FileError

end AppletPage
