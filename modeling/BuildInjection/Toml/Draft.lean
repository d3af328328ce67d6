import BuildInjection.Toml.Value

/-!
# Tables in the making

While a document is read, a table may still grow, depending on how it came about: a header defines
it once and for all, a longer header implies it, and a dotted key makes it.  Values are closed, and
so are the tables among them.  What cannot be put anywhere is a fault of the document.
-/

namespace BuildInjection.Toml

/-! ## Faults of documents

A fault of the grammar comes before everything else, wherever it stands in the text; among the
others the first one in the text counts. -/

/-- Why a text is no document. -/
inductive Fault where
  /-- The text does not follow the grammar, spells no value, or defines something twice. -/
  | malformed
  /-- A dotted key has more parts than are taken. -/
  | keyTooLong
deriving DecidableEq, Repr

/-- What is there, or the fault that it is not. -/
def orMalformed {α : Type} (a : Option α) : Except Fault α := a.elim (.error .malformed) .ok

/-! ## Tables -/

/-- How a table came about. -/
inductive Origin where
  /-- A header names it. -/
  | header
  /-- The header of a table below it implies it. -/
  | implied
  /-- A dotted key leads through it. -/
  | dotted
deriving DecidableEq, Repr

/-- What stands under a key of a table in the making. -/
inductive Draft where
  /-- A value. -/
  | value (v : Value)
  /-- A table that may grow. -/
  | table (origin : Origin) (entries : List (String × Draft))
  /-- The rows of an array of tables; the last one may grow. -/
  | array (rows : List (List (String × Draft)))
deriving Inhabited

namespace Draft

/-- The entries of a table in the making. -/
abbrev Entries := List (String × Draft)

/-- What stands under a key. -/
def lookup? (key : String) (es : Entries) : Option Draft :=
  (es.find? (·.1 = key)).map Prod.snd

/-- The entries with something else under a key that is present. -/
def replace (key : String) (d : Draft) (es : Entries) : Entries :=
  es.map fun (k, old) => if k = key then (k, d) else (k, old)

/-- The entries without a key. -/
def erase (key : String) (es : Entries) : Entries :=
  es.filter (·.1 != key)

/-- Apply a change to the last row of an array of tables. -/
def changeLast (f : Entries → Except Fault Entries) :
    List Entries → Except Fault (List Entries)
  | [] => .error .malformed
  | [row] => (f row).map ([·])
  | row :: rows => (changeLast f rows).map (row :: ·)

/-! ## Keys -/

/-- Put a value under a dotted key.  The tables on the way are made as needed; one that a header
    names may not be entered, and the last one must itself have come from a dotted key.  `direct`
    says whether a value may be put directly into the table at hand. -/
def insert (value : Value) (key : String) (direct : Bool) :
    List String → Entries → Except Fault Entries
  | [], es =>
    if direct && (lookup? key es).isNone then .ok (es ++ [(key, .value value)])
    else .error .malformed
  | k :: path, es =>
    match lookup? k es with
    -- the table is made, and takes what is put into it directly
    | none => (insert value key true path []).map fun sub => es ++ [(k, .table .dotted sub)]
    | some (.table origin sub) =>
      if origin = .header then .error .malformed
      else (insert value key (origin = .dotted) path sub).map fun sub =>
        replace k (.table origin sub) es
    -- An array stands for its last row, which takes no value directly.
    | some (.array rows) =>
      (changeLast (insert value key false path) rows).map fun rows => replace k (.array rows) es
    | some (.value _) => .error .malformed

/-- A dotted key: the keys on the way, and the last one. -/
abbrev DottedKey := List String × String

/-- What puts a value under a key.  Either of them may have a fault, which counts only if nothing
    before it in the document has one. -/
structure Assignment where
  key : Except Fault DottedKey
  value : Except Fault Value

/-- Carry out assignments in order. -/
def assignAll : List Assignment → Entries → Except Fault Entries
  | [], es => .ok es
  | a :: as, es => do
    let (path, key) ← a.key
    let value ← a.value
    let es ← insert value key true path es
    assignAll as es

/-! ## Headers -/

/-- Apply a change to the table at the end of the path of a header.  Tables on the way are implied
    where they are missing. -/
def changeAt (f : Entries → Except Fault Entries) : List String → Entries → Except Fault Entries
  | [], es => f es
  | k :: path, es =>
    match lookup? k es with
    -- the header implies the table
    | none => (changeAt f path []).map fun sub => es ++ [(k, .table .implied sub)]
    | some (.table origin sub) =>
      (changeAt f path sub).map fun sub => replace k (.table origin sub) es
    -- a header below an array goes on in its last row
    | some (.array rows) => (changeLast (changeAt f path) rows).map fun rows =>
        replace k (.array rows) es
    | some (.value _) => .error .malformed

/-- Define a table under a key.  One that was only implied keeps what it has and moves to the end;
    any other may not be there. -/
def defineTable (key : String) (assignments : List Assignment) (es : Entries) :
    Except Fault Entries :=
  match lookup? key es with
  | none => (assignAll assignments []).map fun sub => es ++ [(key, .table .header sub)]
  -- it takes its place in the order of the headers
  | some (.table .implied old) =>
    (assignAll assignments old).map fun sub => erase key es ++ [(key, .table .header sub)]
  | _ => .error .malformed

/-- Add a row to the array of tables under a key, which begins with it if there is none. -/
def addRow (key : String) (row : Entries) (es : Entries) : Except Fault Entries :=
  match lookup? key es with
  | none => .ok (es ++ [(key, .array [row])])
  | some (.array rows) => .ok (replace key (.array (rows ++ [row])) es)
  | _ => .error .malformed

/-! ## The finished value -/

mutual

/-- The value of a draft when nothing is added any more. -/
def toValue : Draft → Value
  | .value v => v
  | .table _ entries => .table (entriesToValue entries)
  | .array rows => .array (rowsToValues rows)

/-- The entries of a table when nothing is added any more. -/
def entriesToValue : List (String × Draft) → List (String × Value)
  | [] => []
  | (key, d) :: es => (key, d.toValue) :: entriesToValue es

/-- The rows of an array of tables when nothing is added any more. -/
def rowsToValues : List (List (String × Draft)) → List Value
  | [] => []
  | row :: rows => .table (entriesToValue row) :: rowsToValues rows

end

end Draft

end BuildInjection.Toml
