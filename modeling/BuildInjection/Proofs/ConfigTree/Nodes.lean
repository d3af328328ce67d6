import BuildInjection.ConfigTree.Basic
import BuildInjection.Proofs.Xml.Name

/-!
# The nodes of a configuration tree

What holds at every level of a tree is said of the list of its nodes.  Changing the values of a tree
leaves its names, its children and their order alone, and two ways of changing them agree on a tree
exactly if they agree on the value of every node (`mapValues_eq_mapValues_iff`).
-/

namespace BuildInjection.ConfigTree

/-- What holds of a node if it holds of its children holds of every tree. -/
@[induction_eliminator]
theorem induct {motive : ConfigTree → Prop}
    (mk : ∀ name value children, (∀ t ∈ children, motive t) → motive ⟨name, value, children⟩)
    (t : ConfigTree) : motive t := by
  -- on the size, because a tree holds a list of trees and not trees alone
  induction hsize : sizeOf t using Nat.strongRecOn generalizing t with
  | _ n ih =>
    obtain ⟨name, value, children⟩ := t
    refine mk name value children fun u hu => ih (sizeOf u) ?_ u rfl
    have hchild := List.sizeOf_lt_of_mem hu
    simp only [ConfigTree.mk.sizeOf_spec] at hsize
    omega

/-! ## Nodes -/

mutual

/-- The nodes of a tree, each before those below it. -/
def nodes : ConfigTree → List ConfigTree
  | ⟨name, value, children⟩ => ⟨name, value, children⟩ :: nodesOfAll children

/-- The nodes of several trees. -/
def nodesOfAll : List ConfigTree → List ConfigTree
  | [] => []
  | t :: ts => nodes t ++ nodesOfAll ts

end

@[simp] theorem nodes_mk (name : String) (value : Option String) (children : List ConfigTree) :
    nodes ⟨name, value, children⟩ = ⟨name, value, children⟩ :: nodesOfAll children := by
  rw [nodes]

@[simp] theorem nodesOfAll_nil : nodesOfAll [] = [] := by
  rw [nodesOfAll]

@[simp] theorem nodesOfAll_cons (t : ConfigTree) (ts : List ConfigTree) :
    nodesOfAll (t :: ts) = t.nodes ++ nodesOfAll ts := by
  rw [nodesOfAll]

/-- The nodes of several trees are those of each of them. -/
theorem mem_nodesOfAll {n : ConfigTree} {ts : List ConfigTree} :
    n ∈ nodesOfAll ts ↔ ∃ t ∈ ts, n ∈ t.nodes := by
  induction ts with
  | nil => simp
  | cons t ts ih => simp [ih]

/-- A tree is one of its nodes. -/
theorem self_mem_nodes (t : ConfigTree) : t ∈ t.nodes := by
  cases t
  simp

/-- What is said of names and values holds at every level of a tree if it holds at its top and at
    every level of its children. -/
theorem forall_nodes_mk {P : String → Option String → Prop} {name : String}
    {value : Option String} {children : List ConfigTree} :
    (∀ n ∈ nodes ⟨name, value, children⟩, P n.name n.value) ↔
      P name value ∧ ∀ t ∈ children, ∀ n ∈ t.nodes, P n.name n.value := by
  simp only [nodes_mk, List.forall_mem_cons, mem_nodesOfAll]
  constructor
  · rintro ⟨htop, hbelow⟩
    exact ⟨htop, fun t ht n hn => hbelow n ⟨t, ht, hn⟩⟩
  · rintro ⟨htop, hbelow⟩
    exact ⟨htop, fun n ⟨t, ht, hn⟩ => hbelow t ht n hn⟩

/-! ## Names -/

/-- Every node has a name without a colon. -/
def IsNamed (t : ConfigTree) : Prop := ∀ n ∈ t.nodes, Xml.isPlainName n.name = true

instance (t : ConfigTree) : Decidable t.IsNamed :=
  inferInstanceAs (Decidable (∀ n ∈ t.nodes, Xml.isPlainName n.name = true))

/-- A tree is named exactly if its top and all its children are. -/
theorem isNamed_mk {name : String} {value : Option String} {children : List ConfigTree} :
    IsNamed ⟨name, value, children⟩ ↔
      Xml.isPlainName name = true ∧ ∀ t ∈ children, t.IsNamed :=
  forall_nodes_mk (P := fun name _ => Xml.isPlainName name = true)

/-- Every node has a name without a colon, and a value that is not empty if it has one. -/
def IsSound (t : ConfigTree) : Prop :=
  ∀ n ∈ t.nodes, Xml.isPlainName n.name = true ∧ n.value ≠ some ""

/-- Sound trees have names without a colon. -/
theorem IsSound.isNamed {t : ConfigTree} (h : t.IsSound) : t.IsNamed := fun n hn => (h n hn).1

/-! ## Values -/

mutual

/-- The tree with every value replaced or left out as `f` says. -/
def mapValues (f : String → Option String) : ConfigTree → ConfigTree
  | ⟨name, value, children⟩ => ⟨name, value.bind f, mapAllValues f children⟩

/-- Several trees with every value replaced or left out as `f` says. -/
def mapAllValues (f : String → Option String) : List ConfigTree → List ConfigTree
  | [] => []
  | t :: ts => mapValues f t :: mapAllValues f ts

end

/-- Several trees are changed one by one. -/
theorem mapAllValues_eq_map (f : String → Option String) (ts : List ConfigTree) :
    mapAllValues f ts = ts.map (mapValues f) := by
  induction ts with
  | nil => rw [mapAllValues]; rfl
  | cons t ts ih => rw [mapAllValues, ih]; rfl

/-- Changing the values of a tree changes that of its top and those of its children. -/
theorem mapValues_mk (f : String → Option String) (name : String) (value : Option String)
    (children : List ConfigTree) :
    mapValues f ⟨name, value, children⟩ = ⟨name, value.bind f, children.map (mapValues f)⟩ := by
  rw [mapValues, mapAllValues_eq_map]

/-- Two changes of values agree on a tree exactly if they agree on the value of every node. -/
theorem mapValues_eq_mapValues_iff {f g : String → Option String} {t : ConfigTree} :
    t.mapValues f = t.mapValues g ↔ ∀ n ∈ t.nodes, n.value.bind f = n.value.bind g := by
  induction t with
  | mk name value children ih =>
    rw [mapValues_mk, mapValues_mk, mk.injEq, List.map_inj_left]
    simp only [nodes_mk, List.forall_mem_cons, mem_nodesOfAll, true_and]
    -- the tops agree; below them, to agree child by child is to agree node by node
    refine and_congr_right fun _ => ?_
    constructor
    · rintro h n ⟨t, ht, hn⟩
      exact (ih t ht).1 (h t ht) n hn
    · intro h t ht
      exact (ih t ht).2 fun n hn => h n ⟨t, ht, hn⟩

/-- A tree of which every value is kept is the same tree. -/
theorem mapValues_some (t : ConfigTree) : t.mapValues some = t := by
  induction t with
  | mk name value children ih =>
    have hchildren : children.map (mapValues some) = children := by
      rw [List.map_congr_left ih]
      exact List.map_id children
    rw [mapValues_mk, hchildren]
    cases value <;> rfl

/-- A change of values leaves a tree alone exactly if it leaves every value alone. -/
theorem mapValues_eq_self_iff {f : String → Option String} {t : ConfigTree} :
    t.mapValues f = t ↔ ∀ n ∈ t.nodes, ∀ v ∈ n.value, f v = some v := by
  -- to leave a tree alone is to agree with the change that keeps every value
  have hself : t.mapValues f = t ↔ t.mapValues f = t.mapValues some := by rw [mapValues_some]
  rw [hself, mapValues_eq_mapValues_iff]
  refine forall₂_congr fun n _ => ?_
  cases n.value <;> simp

end BuildInjection.ConfigTree
