import Recalc.Xml.NameTable

/-!
# Characters of XML

Which characters a document may hold, and which of them form names. Two characters that no document
may hold mark the places of octets that are no character and of a character that the end of the
file cuts off.
-/

namespace Recalc.Xml

/-- Stands for octets that are no character. -/
def unreadable : Char := '\uFFFE'

/-- Stands for a character whose last octets are missing. -/
def cutOff : Char := '\uFFFF'

def isXmlChar (c : Char) : Bool :=
  let n := c.toNat
  n == 0x09 || n == 0x0A || n == 0x0D || (0x20 ≤ n && n != 0xFFFE && n != 0xFFFF)

def isSpace (c : Char) : Bool :=
  c = ' ' || c = '\t' || c = '\n' || c = '\r'

def isNameStart (c : Char) : Bool :=
  if c.toNat < 0x80 then c.isAlpha || c = '_' else letterRanges.contains c

def isNamePart (c : Char) : Bool :=
  if c.toNat < 0x80 then c.isAlphanum || c = '_' || c = '-' || c = '.'
  else letterRanges.contains c || markRanges.contains c

end Recalc.Xml
