import Boardcraft.Text.Quoted

/-!
# Locations of files

The places of files and folders as they are written: parts joined by slashes, from the root of the
file system if the first character is a slash.  Parts that are empty or a single dot say nothing and
are dropped.

Not every text can be the name of a file.  The last section says which places cannot be.
-/

namespace Boardcraft

structure Location where
  /-- The slashes at the front: none, one, or exactly two. -/
  root : String := ""
  parts : List Text
  deriving DecidableEq, Inhabited, Repr

namespace Location

/-- The slashes that stand for the root: two stay two, more are one. -/
def rootOf (slashes : Nat) : String :=
  if slashes = 0 then "" else if slashes = 2 then "//" else "/"

def ofText (t : Text) : Location :=
  { root := rootOf (t.points.takeWhile (· == .char '/')).length,
    parts := (t.split '/').filter fun part => !part.isEmpty && part ≠ "." }

def text (p : Location) : Text :=
  if p.root = "" ∧ p.parts = [] then "." else p.root ++ Text.intercalate "/" p.parts

def isRelative (p : Location) : Bool := p.root == ""

def parent (p : Location) : Location := { p with parts := p.parts.dropLast }

/-! ## Steps upwards -/

def above : Text := ".."

/-- Parts without steps upwards, after those passed so far, last first. -/
def descend (passed : List Text) : List Text → List Text
  | [] => passed.reverse
  | part :: rest => if part = above then descend passed.tail rest else descend (part :: passed) rest

/-- The folder from which a place is seen: the given one, or the root. -/
def start (here p : Location) : Location :=
  if p.isRelative then here else { root := "/", parts := [] }

def resolve (here p : Location) : Location :=
  let s := start here p
  { s with parts := descend s.parts.reverse p.parts }

/-- The parts of a relative place after a step upwards, last first.  A step that leads above the
folder from which the place is seen is kept. -/
def stepUp : List Text → List Text
  | [] => [above]
  | part :: passed => if part = above then above :: part :: passed else passed

/-- The places passed on the way along parts, after those passed so far, last first. -/
def stagesFrom (root : String) (passed : List Text) : List Text → List Location
  | [] => []
  | part :: rest =>
      if part = above then stagesFrom root (if root = "" then stepUp passed else passed.tail) rest
      else ⟨root, (part :: passed).reverse⟩ :: stagesFrom root (part :: passed) rest

/-! ## Places that cannot be -/

/-- Why nothing can be at a place. -/
inductive Fault where
  | zeroCharacter
  /-- Names hold halves of surrogate pairs, between two positions of the place as it is written. -/
  | halves (first : CodePoint) (start last : Nat)
  deriving DecidableEq, Repr

def Fault.message : Fault → String
  | zeroCharacter => "embedded null byte"
  | halves first start last =>
      "'utf-8' codec can't encode character" ++
        (if start = last then " " ++ Text.quoted ⟨[first]⟩ ++ " in position " ++ toString start
        else "s in position " ++ toString start ++ "-" ++ toString last) ++
        ": surrogates not allowed"

def isHalf (c : CodePoint) : Bool := c.char?.isNone

/-- Whether a code point is a half that stands for a byte of a name that is no text. -/
def isByte (c : CodePoint) : Bool := 0xDC80 ≤ c.value && c.value ≤ 0xDCFF

/-- The first stretch of halves that no name may hold, from a position on. -/
def halvesFrom (position : Nat) : List CodePoint → Option Fault
  | [] => none
  | c :: rest =>
      if isHalf c && !isByte c then
        some (.halves c position (position + (rest.takeWhile isHalf).length))
      else halvesFrom (position + 1) rest

def textFault? (t : Text) : Option Fault :=
  (halvesFrom 0 t.points).or
    (if t.points.contains (.char '\x00') then some .zeroCharacter else none)

/-- Why nothing can be at a place: the fault of the first stage on the way that has one. -/
def fault? (p : Location) : Option Fault :=
  (stagesFrom (if p.isRelative then "" else "/") [] p.parts).findSome? fun stage =>
    textFault? stage.text

end Location

end Boardcraft
