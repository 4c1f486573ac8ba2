import Boardcraft.Json.Reader
import Boardcraft.Settings.Basic

/-!
# The notation of settings files

A settings file is a JSON document or a list of sections.  A section is a name with a colon at the
start of a line; the lines below it that start with a blank are its fields, each a name, a colon and
a scalar.  A comment runs from a hash at the start of a word to the end of its line.

The notation has no nested sections, lists or texts over several lines; a file with such has not
the form of settings.
-/

namespace Boardcraft

namespace Settings

/-- A line without its comment.  A hash starts a comment at the start of the line or after a
blank. -/
def dropComment (afterBlank : Bool) : List CodePoint → List CodePoint
  | [] => []
  | c :: rest =>
      if c = '#' && afterBlank then [] else c :: dropComment (Text.isBlank c) rest

def trimBlanks (cs : List CodePoint) : List CodePoint :=
  ((cs.dropWhile Text.isBlank).reverse.dropWhile Text.isBlank).reverse

/-- The value of a scalar: a text in quotes, a word that stands for a value, a number, or a text as
it stands. -/
def scalar (cs : List CodePoint) : Value :=
  match cs with
  | [] => .null
  | .char '\'' :: rest => .str ⟨rest.takeWhile (· ≠ '\'')⟩
  | .char '"' :: rest => .str ⟨rest.takeWhile (· ≠ '"')⟩
  | cs =>
      match (Text.mk cs).string? with
      | some "null" | some "Null" | some "NULL" | some "~" => .null
      | some "true" | some "True" | some "TRUE" => .bool true
      | some "false" | some "False" | some "FALSE" => .bool false
      | _ =>
          match Json.number cs with
          | .ok (v, []) => v
          | _ => .str ⟨cs⟩

/-- The name and the scalar of a line, if it has a colon. -/
def splitField (cs : List CodePoint) : Option (Text × Value) :=
  match cs.dropWhile (· ≠ .char ':') with
  | .char ':' :: rest =>
      some (⟨trimBlanks (cs.takeWhile (· ≠ .char ':'))⟩, scalar (trimBlanks rest))
  | _ => none

/-- The sections of a file after those read so far, the latest first, each with its fields in
order. -/
def sectionsFrom (read : Fields) : List (List CodePoint) → Option Fields
  | [] => some read.reverse
  | line :: rest =>
      let cs := dropComment true line
      if (trimBlanks cs).isEmpty then sectionsFrom read rest
      else
        match splitField cs, (cs.head?.map Text.isBlank).getD false, read with
        | some field, false, _ => sectionsFrom (field :: read) rest
        | some field, true, (name, .object fields) :: others =>
            sectionsFrom ((name, .object (fields ++ [field])) :: others) rest
        | some field, true, (name, .null) :: others =>
            sectionsFrom ((name, .object [field]) :: others) rest
        | _, _, _ => none

/-- The document of a settings file.  A file that cannot be read holds a text, which has not the
form of settings. -/
def documentOf (text : Text) : Value :=
  match Json.read text with
  | .ok v => v
  | .error _ =>
      match sectionsFrom [] ((text.split '\n').map Text.points) with
      | some [] => .null
      | some sections => .object sections
      | none => .str text

end Settings

end Boardcraft
