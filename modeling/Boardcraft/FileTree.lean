import Boardcraft.Blueprint.Folder
import Boardcraft.Location

/-!
# Trees of files

Folders and files in memory.  Each has a place: the names on the way to it from the root, which is
always a folder.

A location is followed one part after the other.  Every part that is a name has to be a folder, also
where a later part leads up again, so that a location may lead nowhere even though it would lead
somewhere without its steps upwards.
-/

namespace Boardcraft

/-- The names on the way from the root. -/
abbrev Place := List Text

/-- Folders, the root aside, and files with what they hold. -/
structure FileTree where
  folders : List Place := []
  files : Table Place Text := .empty
  deriving Inhabited

namespace FileTree

def hasFolder (t : FileTree) (place : Place) : Bool := place.isEmpty || t.folders.contains place

/-- The place to which parts lead from a folder, if all of them are there. -/
def walk? (t : FileTree) (here : Place) : List Text → Option Place
  | [] => some here
  | part :: rest =>
      if part = Location.above then t.walk? here.dropLast rest
      else if t.hasFolder (here ++ [part]) then t.walk? (here ++ [part]) rest
      else none

/-- The tree with every folder on the way along parts, if no file is in the way. -/
def makeFolders? (t : FileTree) (here : Place) : List Text → Option FileTree
  | [] => some t
  | part :: rest =>
      let next := here ++ [part]
      if part = Location.above then t.makeFolders? here.dropLast rest
      else if t.files.contains next then none
      else if t.hasFolder next then t.makeFolders? next rest
      else makeFolders? { t with folders := t.folders ++ [next] } next rest

/-- The tree with a file at a place, which is empty where it was not there before.  No file can be
where a folder is. -/
def touch? (t : FileTree) (place : Place) : Option FileTree :=
  if t.hasFolder place then none
  else if t.files.contains place then some t
  else some { t with files := t.files.insert place "" }

def addFile (t : FileTree) (folder : Place) (name text : Text) : FileTree :=
  { t with files := t.files.insert (folder ++ [name]) text }

def filesOf (t : FileTree) (place : Place) : Folder :=
  .ofList (t.files.entries.filterMap fun (p, text) =>
    if p.dropLast = place then p.getLast?.map fun name => (name, text) else none)

def folder? (t : FileTree) (here p : Location) : Option Folder :=
  (t.walk? (here.start p).parts p.parts).map t.filesOf

end FileTree

end Boardcraft
