/-!
# Errors

Everything that can end a piece of work, each with its cause as data, and the texts that say so.
The wording stands in one function per type, so that a caller decides on the constructor and never
on the text.
-/

namespace BuildInjection

/-- Why a file could not be read or written. -/
inductive IoFault where
  /-- There is nothing under the path. -/
  | notFound
  /-- A directory was to be made where a file stands. -/
  | alreadyExists
  /-- A file stands where the path needs a directory. -/
  | notADirectory
  /-- A directory stands where the path needs a file. -/
  | isADirectory
  /-- A component of the path, or the whole path, is too long. -/
  | nameTooLong
  /-- The path holds a NUL character. -/
  | nulInPath
  /-- The bytes of a text file are not UTF-8. -/
  | notUtf8
  /-- A fault that the storage describes in its own words. -/
  | other (text : String)
deriving DecidableEq, Repr, Inhabited

/-- The text of a file fault, with the number of the system's error where it has one. -/
def IoFault.message : IoFault → String
  | .notFound => "No such file or directory (os error 2)"
  | .alreadyExists => "File exists (os error 17)"
  | .notADirectory => "Not a directory (os error 20)"
  | .isADirectory => "Is a directory (os error 21)"
  | .nameTooLong => "File name too long (os error 36)"
  | .nulInPath => "file name contained an unexpected NUL byte"
  | .notUtf8 => "stream did not contain valid UTF-8"
  | .other text => text

/-- Why a value is not acceptable. -/
inductive Reason where
  /-- A path without characters. -/
  | emptyPath
  /-- A path with a NUL character. -/
  | nulInPath
  /-- A text without a character that is not blank. -/
  | blank
  /-- A value that occurred before. -/
  | duplicate
  /-- A value outside a fixed list. -/
  | notOneOf (allowed : List String)
  /-- A text that is no goal's name. -/
  | unknownGoal (name : String)
  /-- A profile property that is not a string. -/
  | notAString
  /-- A reason given in words. -/
  | other (text : String)
deriving DecidableEq, Repr, Inhabited

/-- What is said about a text that names no goal. -/
def unknownGoalMessage (name : String) : String := s!"unknown goal '{name}'"

/-- The text of a reason. -/
def Reason.message : Reason → String
  | .emptyPath => "Path cannot be empty"
  | .nulInPath => "Path contains null bytes"
  | .blank => "Value cannot be empty or whitespace-only"
  | .duplicate => "Duplicate value"
  | .notOneOf allowed => "Unsupported value. Valid values: " ++ ", ".intercalate allowed
  | .unknownGoal name => unknownGoalMessage name
  | .notAString => "Profile properties must be strings"
  | .other text => text

/-- What an error is about. -/
inductive Category where
  | configuration
  | io
  | serialization
  | buildModel
deriving DecidableEq, Repr

/-- How bad an error is. -/
inductive Severity where
  | medium
  | high
  | critical
deriving DecidableEq, Repr

/-- What ends a run. -/
inductive Error where
  /-- A file could not be read or written. -/
  | io (fault : IoFault)
  /-- A value could not be written out. -/
  | serialization (text : String)
  /-- The project file cannot be used as a whole. -/
  | configuration (text : String)
  /-- A part of the configuration does not have the expected form. -/
  | malformed (field text : String)
  /-- A setting that is needed was not given. -/
  | missing (field : String)
  /-- A setting has a value that is not acceptable. -/
  | invalid (field value : String) (reason : Reason)
  /-- The host does not give out the properties of a profile. -/
  | profileProperties (profile text : String)
deriving DecidableEq, Repr, Inhabited

namespace Error

/-- The text of an error. -/
def message : Error → String
  | .io fault => s!"IO error: {fault.message}"
  | .serialization text => s!"Serialization error: {text}"
  | .configuration text => s!"Configuration error: {text}"
  | .malformed field text => s!"Configuration validation failed for '{field}': {text}"
  | .missing field => s!"Missing required configuration field: {field}"
  | .invalid field value reason => s!"Invalid value '{value}' for '{field}': {reason.message}"
  | .profileProperties profile text => s!"Fails to get properties of profile '{profile}': {text}"

/-- What an error is about. -/
def category : Error → Category
  | .io _ => .io
  | .serialization _ => .serialization
  | .configuration _ | .malformed _ _ | .missing _ | .invalid _ _ _ => .configuration
  | .profileProperties _ _ => .buildModel

/-- How bad an error is. -/
def severity : Error → Severity
  | .missing _ | .invalid _ _ _ => .medium
  | .configuration _ | .malformed _ _ | .serialization _ => .high
  | .io _ | .profileProperties _ _ => .critical

/-- What to look at when the error came up. -/
def suggestion (e : Error) : String :=
  match e.category with
  | .configuration => "Check the project file and the command line options"
  | .io => "Check that the project file exists and the output path is writable"
  | .serialization => "Check the project model for values that cannot be serialized"
  | .buildModel => "Check that every active profile exposes its properties"

/-- The text for the user at the terminal. -/
def friendly : Error → String
  | .missing field => s!"缺少必要設定: {field}"
  | .invalid field _ reason => s!"設定 {field} 無效: {reason.message}"
  | .profileProperties profile _ => s!"無法讀取 profile '{profile}' 的屬性"
  | e => e.message

end Error

/-- The name of a category as the log writes it. -/
def Category.name : Category → String
  | .configuration => "Configuration"
  | .io => "Io"
  | .serialization => "Serialization"
  | .buildModel => "BuildModel"

/-- The name of a severity as the log writes it. -/
def Severity.name : Severity → String
  | .medium => "Medium"
  | .high => "High"
  | .critical => "Critical"

end BuildInjection
