import Boardcraft.Session.Screen

/-!
# Sessions on a plain terminal

The form of what a session shows where neither colours nor frames can be drawn: markup is left
out, and panels are set off by their titles.
-/

namespace Boardcraft

namespace Terminal

/-- Text without its markup.  `tag` holds the code points of a tag that has begun, last first; a
bracket that no other closes stands for itself. -/
def stripFrom (tag : Option (List CodePoint)) : List CodePoint → List CodePoint
  | [] => (tag.map fun begun => CodePoint.char '[' :: begun.reverse).getD []
  | c :: rest =>
      match tag with
      | some begun => if c = ']' then stripFrom none rest else stripFrom (some (c :: begun)) rest
      | none => if c = '[' then stripFrom (some []) rest else c :: stripFrom none rest

def strip (markup : Text) : Text := ⟨stripFrom none markup.points⟩

def bodyText : Body → Text
  | .markup text => strip text
  | .plain text => text

def panelText (p : Panel) : Text :=
  let around (s : Option Text) : List Text := (s.map fun t => "-- " ++ strip t ++ " --").toList
  Text.intercalate "\n" (around p.title ++ [bodyText p.body] ++ around p.subtitle)

def text : Item → Text
  | .line markup => strip markup ++ "\n"
  | .panel p => panelText p ++ "\n"
  | .prompt markup => strip markup

end Terminal

end Boardcraft
