/-!
# Characters of XML

The classes of characters that the grammar of XML 1.0 names.
-/

namespace BuildInjection.Xml

/-- White space between the parts of a tag. -/
def isSpace (c : Char) : Bool :=
  c = ' ' || c = '\t' || c = '\n' || c = '\r'

/-- The characters that may stand in a document: tab, line feed, carriage return, and everything
    from the space on, U+FFFE and U+FFFF left out. -/
def isLegal (c : Char) : Bool :=
  if c.toNat < 0x20 then isSpace c else c.toNat != 0xFFFE && c.toNat != 0xFFFF

/-- Whether a number lies between two others. -/
def within (low high n : Nat) : Bool := low ≤ n && n ≤ high

/-- The characters with which a name may begin; the colon is one of them. -/
def isNameStart (c : Char) : Bool :=
  c.isAlpha || c = ':' || c = '_' ||
    let n := c.toNat
    within 0xC0 0xD6 n || within 0xD8 0xF6 n || within 0xF8 0x2FF n || within 0x370 0x37D n ||
      within 0x37F 0x1FFF n || within 0x200C 0x200D n || within 0x2070 0x218F n ||
      within 0x2C00 0x2FEF n || within 0x3001 0xD7FF n || within 0xF900 0xFDCF n ||
      within 0xFDF0 0xFFFD n || within 0x10000 0xEFFFF n

/-- The characters of which a name consists. -/
def isNameChar (c : Char) : Bool :=
  isNameStart c || c.isDigit || c = '-' || c = '.' ||
    let n := c.toNat
    n == 0xB7 || within 0x300 0x36F n || within 0x203F 0x2040 n

end BuildInjection.Xml
