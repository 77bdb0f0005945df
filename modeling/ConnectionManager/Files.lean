import ConnectionManager.Text.Bytes
import ConnectionManager.Text.Split

/-!
Paths and a tree of files. Paths are joined the way a file system reads them: a part that starts
at the root replaces what is before it. A path is followed name by name (`FileTree.place?`), so it
leads somewhere only if every directory that it names on the way is there.
-/

namespace ConnectionManager

namespace FilePath

def isAbsolute (path : String) : Bool := path.toList.head? == some '/'

def join (directory part : String) : String :=
  if isAbsolute part || directory = "" then part
  else if directory.toList.getLast? = some '/' then directory ++ part
  else directory ++ "/" ++ part

/-- The names in a path. Repeated slashes and single dots say nothing. -/
def components (path : String) : List (List Char) :=
  (Text.pieces (· == '/') path.toList).filter fun part => !part.isEmpty && part != ['.']

def withoutIdleStart : List Char → List Char
  | '/' :: rest | '.' :: '/' :: rest => withoutIdleStart rest
  | path => path

def below? (directory path : String) : Option String :=
  (Text.afterPrefix? (directory ++ "/").toList path.toList).map fun rest =>
    String.ofList (withoutIdleStart rest)

end FilePath

inductive FileNode
  | directory
  | file (content : Text.Bytes)

abbrev Place := List (List Char)

/-- Nodes by place. A later entry for a place hides an earlier one. -/
structure FileTree where
  nodes : List (Place × FileNode)

namespace FileTree

def empty : FileTree := ⟨[]⟩

def nodeAt? (tree : FileTree) (place : Place) : Option FileNode :=
  if place.isEmpty then some .directory
  else (tree.nodes.find? fun node => node.1 = place).map Prod.snd

def isDirectoryAt (tree : FileTree) (place : Place) : Bool :=
  match tree.nodeAt? place with
  | some .directory => true
  | _ => false

/-- Follows names from a place. Two dots lead to the directory above; the root is above itself. -/
def follow? (tree : FileTree) : Place → List (List Char) → Option Place
  | place, [] => some place
  | place, name :: rest =>
      if !tree.isDirectoryAt place then none
      else if name = ['.', '.'] then tree.follow? place.dropLast rest
      else tree.follow? (place ++ [name]) rest

/-- The place that a path leads to, whether or not there is something. -/
def place? (tree : FileTree) (path : String) : Option Place :=
  tree.follow? [] (FilePath.components path)

/-- Puts a node where names lead to from a place, and a directory at every place on the way. -/
def addFrom (tree : FileTree) (node : FileNode) : Place → List (List Char) → FileTree
  | place, [] => ⟨(place, node) :: tree.nodes⟩
  | place, name :: rest =>
      let tree : FileTree := ⟨(place, .directory) :: tree.nodes⟩
      if name = ['.', '.'] then tree.addFrom node place.dropLast rest
      else tree.addFrom node (place ++ [name]) rest

def add (tree : FileTree) (path : String) (node : FileNode) : FileTree :=
  tree.addFrom node [] (FilePath.components path)

def node? (tree : FileTree) (path : String) : Option FileNode :=
  (tree.place? path).bind tree.nodeAt?

def isFile (tree : FileTree) (path : String) : Bool :=
  match tree.node? path with
  | some (.file _) => true
  | _ => false

def readText? (tree : FileTree) (path : String) : Option (List Char) :=
  match tree.node? path with
  | some (.file content) => Text.ofUtf8? content
  | _ => none

end FileTree

end ConnectionManager
