import BuildInjection.Xml.Element

/-!
# Namespaces

Every qualifier has to be declared by an attribute of the element or of one around it, and no two
attributes of an element may have the same name once qualifiers are replaced by what they stand
for.
-/

namespace BuildInjection.Xml

/-- The namespace for which the qualifier `xml` stands. -/
def xmlNamespace : String := "http://www.w3.org/XML/1998/namespace"

/-- The namespace of the declarations themselves. -/
def declarationNamespace : String := "http://www.w3.org/2000/xmlns/"

/-- Qualifiers with the namespaces for which they stand, the nearest declaration first. -/
abbrev Scope := List (String × String)

namespace Attribute

/-- The qualifier that an attribute declares, if it is a declaration. -/
def declares? (a : Attribute) : Option String :=
  if a.name.qualifier = "xmlns" then some a.name.base
  -- a declaration without a qualifier is for names without one
  else if a.name.base = "xmlns" then some ""
  else none

/-- Whether a declaration says nothing that is ruled out: the namespace of declarations belongs to
    no qualifier, and the one of `xml` belongs to `xml` alone. -/
def isAllowed (a : Attribute) : Bool :=
  if a.name.qualifier = "xmlns" then
    -- the two belong to each other: neither goes with anything else
    a.value != declarationNamespace && (a.name.base == "xml") == (a.value == xmlNamespace)
  else a.value != declarationNamespace && a.value != xmlNamespace

end Attribute

/-- The declarations among some attributes. -/
def declarations (attributes : List Attribute) : List Attribute :=
  attributes.filter (·.declares?.isSome)

/-- The attributes that declare nothing. -/
def plainAttributes (attributes : List Attribute) : List Attribute :=
  attributes.filter (·.declares?.isNone)

/-- Whether every declaration is allowed, and no qualifier but the empty one is declared twice; the
    qualifier `xml` is not counted. -/
def declarationsAllowed (attributes : List Attribute) : Bool :=
  (declarations attributes).all (·.isAllowed) &&
    (((declarations attributes).filter fun a =>
      a.name.qualifier == "xmlns" && a.value != xmlNamespace).map (·.name.base)).Nodup

/-- The scope inside an element. -/
def Scope.enter (scope : Scope) (attributes : List Attribute) : Scope :=
  -- the qualifier of this namespace is known without being declared
  ((declarations attributes).filter (·.value != xmlNamespace)).filterMap
    (fun a => a.declares?.map (·, a.value)) ++ scope

/-- The namespace for which a qualifier stands. -/
def Scope.resolve? (scope : Scope) (qualifier : String) : Option String :=
  (scope.find? (·.1 = qualifier)).map Prod.snd

/-- The name of an attribute with its namespace; none if the qualifier is not declared.  The
    qualifier `xml` needs no declaration, and an attribute without one has no namespace. -/
def Scope.attributeName? (scope : Scope) (a : Attribute) : Option (Option String × String) :=
  if a.name.qualifier = "" then some (none, a.name.base)
  else if a.name.qualifier = "xml" then some (some xmlNamespace, a.name.base)
  else (scope.resolve? a.name.qualifier).map fun ns => (some ns, a.name.base)

/-- Whether the qualifier of an element is declared; an element needs none, and it cannot take the
    one of the declarations. -/
def Scope.admitsElement (scope : Scope) (name : QName) : Bool :=
  name.qualifier = "" || (name.qualifier != "xmlns" && (scope.resolve? name.qualifier).isSome)

/-- Whether all qualifiers of some attributes are declared and their full names differ. -/
def Scope.admitsAttributes (scope : Scope) (attributes : List Attribute) : Bool :=
  let names := (plainAttributes attributes).map scope.attributeName?
  names.all Option.isSome && names.Nodup

mutual

/-- Whether all names in an element are in order, where `scope` is what holds around it. -/
def Element.isWellNamed (scope : Scope) : Element → Bool
  | ⟨name, attributes, _, children⟩ =>
    -- an element may use what it declares itself
    declarationsAllowed attributes && (scope.enter attributes).admitsElement name &&
      (scope.enter attributes).admitsAttributes attributes &&
      allWellNamed (scope.enter attributes) children

/-- Whether all names in several elements are in order. -/
def allWellNamed (scope : Scope) : List Element → Bool
  | [] => true
  | e :: es => e.isWellNamed scope && allWellNamed scope es

end

end BuildInjection.Xml
