import BuildInjection.Json

/-!
# Configuration trees

The configuration of a plugin is a tree of named nodes.  A node may have a value of its own, and
children in order; several children may share a name.
-/

namespace BuildInjection

/-- A node of a configuration tree with everything below it. -/
structure ConfigTree where
  name : String
  value : Option String := none
  children : List ConfigTree := []
deriving Inhabited

namespace ConfigTree

/-! ## Equality -/

mutual

/-- Whether two trees are the same. -/
def same : ConfigTree → ConfigTree → Bool
  | ⟨name, value, children⟩, ⟨name', value', children'⟩ =>
    name == name' && value == value' && sameAll children children'

/-- Whether two lists of trees are the same. -/
def sameAll : List ConfigTree → List ConfigTree → Bool
  | [], [] => true
  | t :: ts, u :: us => same t u && sameAll ts us
  | _, _ => false

end

mutual

theorem eq_of_same : (t u : ConfigTree) → same t u = true → t = u
  | ⟨_, _, children⟩, ⟨_, _, children'⟩, h => by
    simp only [same, Bool.and_eq_true, beq_iff_eq] at h
    obtain ⟨⟨rfl, rfl⟩, h⟩ := h
    rw [eq_of_sameAll children children' h]

theorem eq_of_sameAll : (ts us : List ConfigTree) → sameAll ts us = true → ts = us
  | [], [], _ => rfl
  | t :: ts, u :: us, h => by
    simp only [sameAll, Bool.and_eq_true] at h
    rw [eq_of_same t u h.1, eq_of_sameAll ts us h.2]
  | [], _ :: _, h => by simp [sameAll] at h
  | _ :: _, [], h => by simp [sameAll] at h

end

mutual

theorem same_self : (t : ConfigTree) → same t t = true
  | ⟨_, _, children⟩ => by simp [same, sameAll_self children]

theorem sameAll_self : (ts : List ConfigTree) → sameAll ts ts = true
  | [] => by simp [sameAll]
  | t :: ts => by simp [sameAll, same_self t, sameAll_self ts]

end

instance : DecidableEq ConfigTree := fun t u =>
  if h : same t u = true then .isTrue (eq_of_same t u h)
  else .isFalse fun e => h (e ▸ same_self t)

/-! ## Children -/

/-- A node without children. -/
def leaf (name value : String) : ConfigTree := ⟨name, some value, []⟩

/-- The first child of a name. -/
def child? (t : ConfigTree) (name : String) : Option ConfigTree :=
  t.children.find? (·.name = name)

/-- The node with more children after the old ones. -/
def addChildren (t : ConfigTree) (more : List ConfigTree) : ConfigTree :=
  { t with children := t.children ++ more }

/-- The list in which `f` is applied to the first tree of a name. -/
def modifyFirst (name : String) (f : ConfigTree → ConfigTree) : List ConfigTree → List ConfigTree
  | [] => []
  -- only the first one is changed, whatever names follow
  | t :: ts => if t.name = name then f t :: ts else t :: modifyFirst name f ts

/-- The node in which `f` is applied to the first child of a name. -/
def modifyChild (t : ConfigTree) (name : String) (f : ConfigTree → ConfigTree) : ConfigTree :=
  { t with children := modifyFirst name f t.children }

/-- The node at the end of a path of names, taking the first child of each name. -/
def descend? : ConfigTree → List String → Option ConfigTree
  | t, [] => some t
  | t, name :: path => (t.child? name).bind (·.descend? path)

/-- The tree in which `f` is applied to the node at the end of a path. -/
def modifyAt (f : ConfigTree → ConfigTree) : List String → ConfigTree → ConfigTree
  | [], t => f t
  | name :: path, t => t.modifyChild name (modifyAt f path)

/-! ## JSON -/

mutual

/-- A tree as JSON: name, value and children, the last two only if there are any. -/
def toJson : ConfigTree → Json
  | ⟨name, value, children⟩ =>
    .object (("name", .string name) :: Json.optional "value" value ++ childrenMember children)

/-- The member for the children of a node; none if there are no children. -/
def childrenMember : List ConfigTree → List (String × Json)
  | [] => []
  | t :: ts => [("children", .array (t.toJson :: allToJson ts))]

/-- Several trees as JSON. -/
def allToJson : List ConfigTree → List Json
  | [] => []
  | t :: ts => t.toJson :: allToJson ts

end

end ConfigTree

end BuildInjection
