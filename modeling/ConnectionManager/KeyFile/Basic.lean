/-!
Key files: named groups of key and value pairs in file order. A key may stand in its group more
than once; the last pair counts.
-/

namespace ConnectionManager

structure KeyFile.Group where
  name : List Char
  entries : List (List Char × List Char)
deriving DecidableEq

structure KeyFile where
  groups : List KeyFile.Group
deriving DecidableEq

namespace KeyFile

def lastValue? (key : List Char) (entries : List (List Char × List Char)) :
    Option (List Char) :=
  (entries.reverse.find? fun entry => entry.1 = key).map Prod.snd

def Group.get? (group : Group) (key : String) : Option (List Char) :=
  lastValue? key.toList group.entries

def group? (file : KeyFile) (name : List Char) : Option Group :=
  file.groups.find? fun group => group.name = name

end KeyFile

end ConnectionManager
