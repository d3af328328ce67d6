import BuildInjection.Xml.Namespaces

/-!
# Documents

A document is one element.  A byte order mark, a declaration of the version, white space and remarks
may stand before it, and white space and remarks after it.  There is no document type.
-/

namespace BuildInjection.Xml

/-- A text without white space and remarks at its front. -/
def skipRemarks (s : List Char) : List Char :=
  match h : Markup.read (skipSpaces s) with
  | some (.remark, rest) =>
    have : rest.length < s.length :=
      Nat.lt_of_lt_of_le (Markup.length_of_read h) (length_skipSpaces s)
    skipRemarks rest
  | _ => skipSpaces s
termination_by s.length

/-- Read one of the settings of a declaration, and the white space before what follows it. -/
def readSetting (s : List Char) : Option (List Char) :=
  (Attribute.readWritten s).bind fun (_, rest) =>
    -- two settings do not stand next to each other without a space
    if beginsWithSpace rest || (Text.skip? ['?', '>'] rest).isSome || rest.isEmpty then
      some (skipSpaces rest) else none

/-- Read one of the settings of a declaration if it is there. -/
def readOptionalSetting (word s : List Char) : Option (List Char) :=
  if (Text.skip? word s).isSome then readSetting s else some s

/-- Read what follows `<?xml` in a declaration: the version, then the encoding and whether the
    document stands alone, where they are given. -/
def readDeclaration (s : List Char) : Option (List Char) :=
  let s := skipSpaces s
  if (Text.skip? ['v', 'e', 'r', 's', 'i', 'o', 'n'] s).isSome then
    (readSetting s).bind fun s =>
      (readOptionalSetting ['e', 'n', 'c', 'o', 'd', 'i', 'n', 'g'] s).bind fun s =>
        (if (Text.skip? ['s', 't', 'a', 'n', 'd', 'a', 'l', 'o', 'n', 'e'] s).isSome then
          (Attribute.readWritten s).map Prod.snd else some s).bind fun s =>
            Text.skip? ['?', '>'] (skipSpaces s)
  else none

/-- What follows the byte order mark and the declaration of a document. -/
def skipProlog (s : List Char) : Option (List Char) :=
  -- the mark counts only as the very first character
  let s := if s.head? = some '\ufeff' then s.tail else s
  match Text.skip? ['<', '?', 'x', 'm', 'l', ' '] s with
  | some s => readDeclaration s
  | none => some s

/-- The element of a document. -/
def Element.ofDocument? (s : List Char) : Option Element :=
  (skipProlog s).bind fun s => (Element.read (skipRemarks s)).bind fun (e, rest) =>
    -- after the element there is nothing but remarks
    if (skipRemarks rest).isEmpty && e.isWellNamed [] then some e else none

end BuildInjection.Xml
