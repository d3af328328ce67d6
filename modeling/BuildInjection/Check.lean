import BuildInjection.Error
import BuildInjection.Text.Basic

/-!
# Checks on settings

Each check takes the name of a setting and its value, and either passes or gives the error that
names both.
-/

namespace BuildInjection.Check

/-- A path has characters, and none of them is NUL. -/
def path (field value : String) : Except Error Unit :=
  if value.isEmpty then .error (.invalid field value .emptyPath)
  else if value.toList.contains '\x00' then .error (.invalid field value .nulInPath)
  else .ok ()

/-- A setting is there. -/
def required {α : Type} (field : String) : Option α → Except Error α
  | none => .error (.missing field)
  | some value => .ok value

/-- A text has a character that is not blank. -/
def nonBlank (field value : String) : Except Error Unit :=
  if Text.isBlankText value then .error (.invalid field value .blank) else .ok ()

/-- Each text differs from all before it, which `seen` holds as well. -/
def uniqueFrom (field : String) (seen : List String) : List String → Except Error Unit
  | [] => .ok ()
  | value :: values =>
    if value ∈ seen then .error (.invalid field value .duplicate)
    else uniqueFrom field (value :: seen) values

/-- The texts are pairwise distinct. -/
def unique (field : String) (values : List String) : Except Error Unit :=
  uniqueFrom field [] values

/-- A text is one of a fixed list. -/
def oneOf (field value : String) (allowed : List String) : Except Error Unit :=
  if value ∈ allowed then .ok () else .error (.invalid field value (.notOneOf allowed))

end BuildInjection.Check
