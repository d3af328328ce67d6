import BuildInjection.Cut
import BuildInjection.Toml.Draft
import BuildInjection.Toml.Group
import BuildInjection.Toml.Scalar

/-!
# TOML documents

Groups become values from the inside out: what a pair of brackets or braces encloses is cut at its
commas, and each piece is a value or an assignment.  The lines of a document are assignments and
headers, from which the tables are built.

A fault of the grammar leaves no lines at all.  A key or a value that spells nothing is kept as a
fault in its place, until the tables are built in the order of the text.
-/

namespace BuildInjection.Toml

/-- A token, or the value of a pair of brackets or braces. -/
inductive Part where
  | token (t : Token)
  | value (v : Except Fault Value)

namespace Part

/-- Whether a part is blank. -/
def isBlank : Part → Bool
  | .token (.blank _) => true
  | _ => false

/-- Whether a part is blank or the end of a line. -/
def isSpace : Part → Bool
  | .token (.blank _) | .token .lineEnd => true
  | _ => false

/-- Whether a part is a comma. -/
def isComma : Part → Bool
  | .token .comma => true
  | _ => false

/-- Whether a part is an equals sign. -/
def isEquals : Part → Bool
  | .token .equals => true
  | _ => false

/-- Whether a part is a dot. -/
def isDot : Part → Bool
  | .token .dot => true
  | _ => false

/-! ## Values -/

/-- The characters of a scalar: runs and dots, and a single space, which may stand in a date. -/
def scalarChars? : List Part → Option (List Char)
  | [] => some []
  | .token (.bare chars) :: ps => (scalarChars? ps).map (chars ++ ·)
  | .token .dot :: ps => (scalarChars? ps).map ('.' :: ·)
  | .token (.blank [' ']) :: ps => (scalarChars? ps).map (' ' :: ·)
  | _ => none

/-- The value that some parts make up, if they can make up one. -/
def toValue? : List Part → Option (Except Fault Value)
  | [] => none
  | [.value v] => some v
  -- a quoted text with a fault in it is a value with that fault
  | [.token (.quoted _ chars)] =>
    some (orMalformed (chars.map fun cs => .string (String.ofList cs)))
  | ps => (scalarChars? ps).map fun cs => orMalformed (scalar? cs)

/-- The pieces between commas, without the space around them.  A comma after the last piece adds
    nothing. -/
def items (ps : List Part) : List (List Part) :=
  let pieces := (cut isComma ps).map (trimEnds isSpace)
  if pieces.getLast?.any (·.isEmpty) then pieces.dropLast else pieces

/-- The array that brackets around some parts make. -/
def toArray? (ps : List Part) : Option (Except Fault Value) :=
  ((items ps).mapM toValue?).map fun vs => (vs.mapM id).map .array

/-! ## Assignments -/

/-- Whether a character may stand in a key without quotes. -/
def isKeyChar (c : Char) : Bool := c.isAlphanum || c = '_' || c = '-'

/-- The key that some parts make up, if they can make up one; quotes over several lines are a
    fault. -/
def simpleKey? : List Part → Option (Except Fault String)
  | [.token (.bare chars)] =>
    some (if chars.all isKeyChar then .ok (String.ofList chars) else .error .malformed)
  -- a key stands on one line
  | [.token (.quoted true _)] => some (.error .malformed)
  | [.token (.quoted false chars)] => some (orMalformed (chars.map String.ofList))
  | _ => none

/-- How many parts a dotted key may have. -/
def keyLimit : Nat := 80

/-- The dotted key of some keys; there are not too many of them, and at least one. -/
def dottedKey (keys : List String) : Except Fault Draft.DottedKey :=
  -- the limit is looked at after all parts have been read
  if keyLimit < keys.length then .error .keyTooLong
  else orMalformed (keys.getLast?.map (keys.dropLast, ·))

/-- The dotted key that some parts make up, if they can make up one. -/
def dottedKey? (ps : List Part) : Option (Except Fault Draft.DottedKey) :=
  ((cut isDot ps).mapM fun piece => simpleKey? (trimEnds isBlank piece)).map fun keys =>
    (keys.mapM id).bind dottedKey

/-- The assignment that some parts make up: a key, an equals sign and a value.  Between braces the
    lines may end around each of the three. -/
def toAssignment? (ps : List Part) : Option Draft.Assignment :=
  match ps.dropWhile (!·.isEquals) with
  | [] => none
  -- the sign is the first one; those after it belong to the value
  | _ :: right => do
    let key ← dottedKey? (trimEnds isSpace (ps.takeWhile (!·.isEquals)))
    let value ← toValue? (trimEnds isSpace right)
    some ⟨key, value⟩

/-- The table that braces around some parts make. -/
def toTable? (ps : List Part) : Option (Except Fault Value) :=
  ((items ps).mapM toAssignment?).map fun assignments =>
    (Draft.assignAll assignments []).map fun es => .table (Draft.entriesToValue es)

end Part

mutual

/-- The part that a group becomes when everything in it has its value. -/
def Group.toPart? : Group → Option Part
  | .token t => some (.token t)
  | .bracket gs => (partsOf? gs).bind fun ps => (Part.toArray? ps).map .value
  | .brace gs => (partsOf? gs).bind fun ps => (Part.toTable? ps).map .value

/-- The parts that several groups become. -/
def partsOf? : List Group → Option (List Part)
  | [] => some []
  | g :: gs => g.toPart?.bind fun p => (partsOf? gs).map (p :: ·)

end

/-! ## Lines -/

/-- A line of a document that is not blank. -/
inductive Line where
  | assignment (a : Draft.Assignment)
  /-- A header; `isRow` says that it begins a row of an array of tables. -/
  | header (key : Except Fault Draft.DottedKey) (isRow : Bool)

/-- The header whose key some groups make up. -/
def headerOf? (isRow : Bool) (gs : List Group) : Option Line :=
  (partsOf? gs).bind fun ps => (Part.dottedKey? ps).map (.header · isRow)

/-- The line that some groups make up.  The double brackets of a row stand next to each other. -/
def lineOf? : List Group → Option Line
  -- a row comes before a table, since its brackets are those of a table too
  | [.bracket [.bracket gs]] => headerOf? true gs
  | [.bracket gs] => headerOf? false gs
  | gs => (partsOf? gs).bind fun ps => (Part.toAssignment? ps).map .assignment

/-- The lines of a document, blank ones left out. -/
def linesOf? (gs : List Group) : Option (List Line) :=
  (((cut (·.isLineEnd) gs).map (trimEnds (·.isBlank))).filter (!·.isEmpty)).mapM lineOf?

/-- The lines of a text, if it follows the grammar.  A byte order mark may stand in front of it. -/
def readLines? (s : String) : Option (List Line) := do
  let chars := if s.toList.head? = some '\ufeff' then s.toList.tail else s.toList
  let tokens ← Token.ofChars? chars
  let groups ← Group.ofTokens? tokens
  linesOf? groups

/-! ## Tables -/

/-- The assignments before the first header. -/
def leadingAssignments : List Line → List Draft.Assignment
  | .assignment a :: lines => a :: leadingAssignments lines
  | _ => []

/-- Carry out a header with the assignments that follow it.  A row is made before its place is
    looked for. -/
def openTable (key : Except Fault Draft.DottedKey) (isRow : Bool)
    (assignments : List Draft.Assignment) (es : Draft.Entries) : Except Fault Draft.Entries := do
  let (path, key) ← key
  if isRow then
    let row ← Draft.assignAll assignments []
    Draft.changeAt (Draft.addRow key row) path es
  else Draft.changeAt (Draft.defineTable key assignments) path es

/-- Build the tables of a document from its lines, the header of each with the assignments that
    follow it. -/
def buildTables : List Line → Draft.Entries → Except Fault Draft.Entries
  | [], es => .ok es
  -- the header before it has taken it
  | .assignment _ :: lines, es => buildTables lines es
  | .header key isRow :: lines, es =>
    (openTable key isRow (leadingAssignments lines) es).bind (buildTables lines)

/-- The entries of a document as they are written. -/
def parse (s : String) : Except Fault Entries := do
  let lines ← orMalformed (readLines? s)
  -- what stands before the first header goes into the document itself
  let root ← Draft.assignAll (leadingAssignments lines) []
  let entries ← buildTables lines root
  return Draft.entriesToValue entries

end BuildInjection.Toml
