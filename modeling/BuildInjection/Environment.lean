import BuildInjection.Toml.Value

/-!
# References to environment variables

A text may refer to a variable as `${NAME}`, where the name is everything up to the next brace and
not empty.  The reference is replaced by the value of the variable if that is set, and left as it is
otherwise.  What was put in is not looked at again.  In a document only the texts that are values
are treated in this way, at any depth; keys are not.
-/

namespace BuildInjection

/-- The values of the variables that are set. -/
abbrev Environment := String → Option String

namespace Environment

/-- A reference as it is written. -/
def written (name : List Char) : List Char := '$' :: '\x7b' :: name ++ ['\x7d']

/-- What stands for a reference: the value of the variable, or the reference itself. -/
def resolve (env : Environment) (name : List Char) : List Char :=
  -- empty braces refer to nothing
  if name.isEmpty then written name
  else match env (String.ofList name) with
    | some value => value.toList
    | none => written name

/-- The text in which references are replaced.  Inside a reference the second argument holds what
    has been read of its name, last character first. -/
def expandFrom (env : Environment) : Option (List Char) → List Char → List Char
  | none, [] => []
  | none, '$' :: '\x7b' :: cs => expandFrom env (some []) cs
  | none, c :: cs => c :: expandFrom env none cs
  -- no brace closes the reference, so it stands for itself
  | some name, [] => '$' :: '\x7b' :: name.reverse
  | some name, c :: cs =>
    -- the value is not read again, and so it cannot refer to anything
    if c = '\x7d' then env.resolve name.reverse ++ expandFrom env none cs
    else expandFrom env (some (c :: name)) cs

/-- The text in which references are replaced. -/
def expand (env : Environment) (s : String) : String :=
  String.ofList (expandFrom env none s.toList)

/-! ## The names that are referred to -/

/-- The names to which a text refers, in order.  The first argument is the second one of
    `expandFrom`. -/
def namesFrom : Option (List Char) → List Char → List String
  | none, [] => []
  | none, '$' :: '\x7b' :: cs => namesFrom (some []) cs
  | none, _ :: cs => namesFrom none cs
  | some _, [] => []
  | some name, c :: cs =>
    if c = '\x7d' then String.ofList name.reverse :: namesFrom none cs
    else namesFrom (some (c :: name)) cs

mutual

/-- The names to which the texts in a value refer. -/
def namesOf : Toml.Value → List String
  | .string s => namesFrom none s.toList
  | .array items => namesOfAll items
  | .table entries => namesOfEntries entries
  | .integer _ | .float _ | .boolean _ | .datetime _ => []

/-- The names to which the texts in some values refer. -/
def namesOfAll : List Toml.Value → List String
  | [] => []
  | v :: vs => namesOf v ++ namesOfAll vs

/-- The names to which the texts in the values of some entries refer. -/
def namesOfEntries : List (String × Toml.Value) → List String
  | [] => []
  | (_, v) :: es => namesOf v ++ namesOfEntries es

end

/-! ## Values -/

mutual

/-- The value in which references in texts are replaced. -/
def expandValue (env : Environment) : Toml.Value → Toml.Value
  | .string s => .string (env.expand s)
  | .array items => .array (expandValues env items)
  | .table entries => .table (expandEntries env entries)
  | .integer i => .integer i
  | .float x => .float x
  | .boolean b => .boolean b
  | .datetime d => .datetime d

/-- Values in which references in texts are replaced. -/
def expandValues (env : Environment) : List Toml.Value → List Toml.Value
  | [] => []
  | v :: vs => expandValue env v :: expandValues env vs

/-- Entries in whose values references in texts are replaced. -/
def expandEntries (env : Environment) : List (String × Toml.Value) → List (String × Toml.Value)
  | [] => []
  | (key, v) :: es => (key, expandValue env v) :: expandEntries env es

end

end Environment

end BuildInjection
