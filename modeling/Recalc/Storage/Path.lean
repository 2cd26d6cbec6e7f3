import Recalc.Storage.FileName

/-!
# Paths

A path is a list of names, from the root or from the working directory. Repeated slashes and
single dots do not count; two dots are kept, since where they lead depends on the disk.
-/

namespace Recalc

structure Path where
  absolute : Bool
  parts : List CodePoints
  deriving DecidableEq

namespace Path

/-- Cuts a text at its slashes. -/
def splitSlashes : CodePoints → List CodePoints
  | [] => [[]]
  | c :: rest =>
    if c = .char '/' then [] :: splitSlashes rest
    else
      match splitSlashes rest with
      | [] => [[c]]
      | part :: parts => (c :: part) :: parts

def ofText (s : CodePoints) : Path :=
  { absolute := s.head? == some (.char '/')
    parts := (splitSlashes s).filter fun part => part ≠ [] ∧ part ≠ [.char '.'] }

/-- Puts names together to a text. -/
def joined (names : List CodePoints) : CodePoints :=
  [CodePoint.char '/'].intercalate names

/-- The text of a path; the working directory itself is a dot. -/
def text (p : Path) : CodePoints :=
  if p.absolute then .char '/' :: joined p.parts
  else if p.parts.isEmpty then [.char '.']
  else joined p.parts

/-- The names as the system keeps them. -/
def fileNames (p : Path) : List String :=
  p.parts.map CodePoints.fileName

def current : Path := ⟨false, []⟩

/-- A path that starts where another one leads. -/
def append (p q : Path) : Path :=
  if q.absolute then q else ⟨p.absolute, p.parts ++ q.parts⟩

/-- A name inside a directory; a name with slashes is a path. -/
def child (p : Path) (name : CodePoints) : Path :=
  p.append (.ofText name)

/-- The last name, or nothing for a directory without one. -/
def name (p : Path) : CodePoints :=
  p.parts.getLast?.getD []

def parent (p : Path) : Path :=
  { p with parts := p.parts.dropLast }

/-- The path with another last name. -/
def withName (p : Path) (name : CodePoints) : Path :=
  { p with parts := p.parts.dropLast ++ [name] }

/-- The end of the last name from its last dot on. A dot at either end of the name does not
count. -/
def suffix (p : Path) : CodePoints :=
  let reversed := p.name.reverse
  let ending := reversed.takeWhile (· ≠ .char '.')
  let stem := reversed.dropWhile (· ≠ .char '.')
  match stem with
  | .char '.' :: _ :: _ => if ending.isEmpty then [] else .char '.' :: ending.reverse
  | _ => []

end Path

end Recalc
