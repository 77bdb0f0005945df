import ConnectionManager.Files
import ConnectionManager.Manifest.Reader

/-!
Where manifests are installed. Data directories are searched in order of priority; the first file
of the right name counts, whether or not it can be read.
-/

namespace ConnectionManager

structure Environment where
  home : Option String := none
  dataHome : Option String := none
  dataDirectories : Option String := none
  configHome : Option String := none

namespace Environment

def nonEmpty (setting : Option String) : Option String := setting.filter fun value => value ≠ ""

def userData? (environment : Environment) : Option String :=
  (nonEmpty environment.dataHome).or
    ((nonEmpty environment.home).map fun home => FilePath.join home ".local/share")

/-- The directory for settings of the user; a relative one does not count. -/
def userConfig? (environment : Environment) : Option String :=
  (environment.configHome.filter FilePath.isAbsolute).or
    ((nonEmpty environment.home).map fun home => FilePath.join home ".config")

def defaultDataDirectories : String := "/usr/local/share:/usr/share"

/-- The directories below which manifests may be installed. -/
def searchDirectories (environment : Environment) : List String :=
  let system := (nonEmpty environment.dataDirectories).getD defaultDataDirectories
  environment.userData?.toList
    ++ ((Text.pieces (· == ':') system.toList).filter fun part => !part.isEmpty).map String.ofList

end Environment

namespace Manifest

def pathBelow (directory manager : String) : String :=
  FilePath.join (FilePath.join (FilePath.join directory "telepathy") "managers")
    (manager ++ ".manager")

def findIn? (files : FileTree) (manager : String) (directories : List String) : Option String :=
  (directories.map fun directory => pathBelow directory manager).find? files.isFile

def find (files : FileTree) (manager : String) (environment : Environment) :
    Except ManifestError String :=
  match findIn? files manager environment.searchDirectories with
  | some path => .ok path
  | none => .error (.notFound manager)

def load (files : FileTree) (path : String) : Except ManifestError Manifest :=
  match files.readText? path with
  | none => .error .unreadable
  | some text => read text

end Manifest

end ConnectionManager
