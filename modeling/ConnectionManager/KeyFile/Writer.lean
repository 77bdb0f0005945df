import ConnectionManager.KeyFile.Basic

/-!
Writing key files. Groups are separated by one empty line; an empty value leaves nothing after
the equals sign.
-/

namespace ConnectionManager.KeyFile

def entryText (entry : List Char × List Char) : List Char :=
  entry.1 ++ (if entry.2.isEmpty then [' ', '='] else [' ', '=', ' '] ++ entry.2) ++ ['\n']

def Group.text (group : Group) : List Char :=
  '[' :: group.name ++ [']', '\n'] ++ group.entries.flatMap entryText

def groupsText : List Group → List Char
  | [] => []
  | [group] => group.text
  | group :: rest => group.text ++ '\n' :: groupsText rest

def text (file : KeyFile) : List Char := groupsText file.groups

end ConnectionManager.KeyFile
