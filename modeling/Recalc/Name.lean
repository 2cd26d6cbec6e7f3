import Std.Data.ExtTreeSet

/-!
# Names

A name is an ASCII letter or underscore, followed by letters, digits and underscores. Cells and
the variables of formulas have names; what names they may have is up to a naming policy, which
brings every name into a normal form and may refuse some of the normal forms.
-/

namespace Recalc

def isNameStart (c : Char) : Bool :=
  c.isAlpha || c = '_'

def isNamePart (c : Char) : Bool :=
  c.isAlphanum || c = '_'

def isNameChars : List Char → Bool
  | [] => false
  | c :: rest => isNameStart c && rest.all isNamePart

def isName (s : String) : Bool :=
  isNameChars s.toList

/-- A set of names, in the order of their code points. -/
abbrev Names := Std.ExtTreeSet String

/-- A naming policy: the normal form of a name, and whether a normal form is accepted. -/
structure Naming where
  normalize : String → String
  accepts : String → Bool

/-- Every name is its own normal form and is accepted. -/
def Naming.free : Naming :=
  { normalize := id, accepts := fun _ => true }

instance : Inhabited Naming := ⟨Naming.free⟩

/-- The normal form of a name that has the form of a name and is accepted. -/
def Naming.canonical? (naming : Naming) (name : String) : Option String :=
  let normal := naming.normalize name
  if isName normal && naming.accepts normal then some normal else none

end Recalc
