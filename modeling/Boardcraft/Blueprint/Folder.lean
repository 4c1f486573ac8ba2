import Boardcraft.Blueprint.Basic

/-!
# Folders of blueprints

Blueprints are kept in files, one in each, and go by the name of their file without its ending.
Files with another ending are passed over.  The files are read in the order of their names.
-/

namespace Boardcraft

/-- The files of a folder: each name with the text of the file. -/
abbrev Folder := Table Text Text

namespace Folder

def ending : Text := ".json"

/-- The name of a file without its ending, which a name that is nothing but the ending keeps. -/
def stem (file : Text) : Text :=
  if file = ending then file else file.dropEnd ending.points.length

def blueprintFiles (folder : Folder) : List (Text × Text) :=
  (folder.entries.filter fun f => f.1.endsWith ending).mergeSort fun a b => a.1.le b.1

/-- Reads the blueprint of a file; a fault is reported with the name of the file. -/
def readFile (file text : Text) : Except Blueprint.Error Blueprint :=
  (Blueprint.ofText text).mapError fun
    | .malformed fault => .malformed (.inFile file fault)
    | e => e

def load (folder : Folder) : Except Blueprint.Error (Table Text Blueprint) :=
  (blueprintFiles folder).foldlM
    (fun loaded (file, text) => do
      let b ← readFile file text
      return loaded.insert (stem file) b)
    .empty

end Folder

end Boardcraft
