import BuildInjection.Check
import BuildInjection.Host
import BuildInjection.Log.Logged
import BuildInjection.Text.Basic

/-!
# Selection of properties

A goal takes its specs from the properties whose key begins with its key prefix, profile by profile
and in the order of the properties.
-/

namespace BuildInjection.Selection

/-- The key prefix of a goal, which must be given and not blank. -/
def checkPrefix (keyPrefix : Option String) : Except Error String :=
  (Check.required "prefix" keyPrefix).bind fun value =>
    -- the prefix is used as it was given, blanks included
    (Check.nonBlank "prefix" value).map fun _ => value

/-- Whether a key begins with a key prefix. -/
def isSelected (keyPrefix key : String) : Bool :=
  keyPrefix.toList.isPrefixOf key.toList

/-- The properties that a key prefix selects, in order. -/
def selectEntries (keyPrefix : String) (m : Properties) : List (String × String) :=
  m.entries.filter fun (key, _) => isSelected keyPrefix key

/-- What is reported on one property. -/
def propertyEvents (keyPrefix : String) : String × String → List Event
  | (key, value) =>
    .propertyExamined key ::
      if isSelected keyPrefix key then [.propertySelected key value] else []

/-- The properties that a key prefix selects in some profiles; the first profile whose properties
    are not given out ends the selection. -/
def select (keyPrefix : String) : List HostProfile →
    Logged (Except Error (List (String × String)))
  | [] => pure (.ok [])
  | p :: ps =>
    match p.properties with
    -- what was selected before is given up
    | .error e => pure (.error e)
    | .ok m => do
      Logged.log (.properties p.id m)
      Logged.logAll (m.entries.flatMap (propertyEvents keyPrefix))
      let rest ← select keyPrefix ps
      pure (rest.map (selectEntries keyPrefix m ++ ·))

/-- The specs in the values of some properties, in order. -/
def specsOf (properties : List (String × String)) : List String :=
  properties.flatMap fun (_, value) => Text.specs value

end BuildInjection.Selection
