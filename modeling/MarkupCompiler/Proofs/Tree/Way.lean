import MarkupCompiler.Tree.Tags

/-!
# Ways in a tree

A node is found by the way that leads to it: for each element on the way, its place among its
siblings and its name.
-/

namespace MarkupCompiler

namespace Node

/-- The name of an element. -/
def tag : Node → String
  | .element tag _ _ => tag
  | _ => ""

def attributes : Node → Attributes
  | .element _ attributes _ => attributes
  | _ => []

def children : Node → List Node
  | .element _ _ children => children
  | _ => []

end Node

/-- The elements from a root down to some siblings: the place and the name of each. -/
abbrev Way := List (Nat × String)

/-- How many quotations are on a way. -/
def Way.quotes (way : Way) : Nat := way.countP fun step => Text.lowerName step.2 == "blockquote"

/-- The name of the element at the end of a way, in lower case. -/
def Way.name (way : Way) : String := Text.lowerName ((way.getLast?.map Prod.snd).getD "")

/-- The level of a list behind names of elements, from the inside out. -/
def Way.levelBehind : List String → Nat
  | [] => 0
  | name :: names =>
    if Tags.lists.contains name then levelBehind names + 1
    else if name == "li" && (names.head?.any fun outer => Tags.lists.contains outer) then
      levelBehind names
    else 0

/--
The level of a list at the end of a way. It is one more than that of a list directly around it, or
around the item that it stands in; all other elements start again from level zero.
-/
def Way.level (way : Way) : Nat := levelBehind (way.map fun step => Text.lowerName step.2).reverse

/-- The nodes at the end of a way that starts among some nodes. -/
def Node.follow : List Node → Way → Option (List Node)
  | nodes, [] => some nodes
  | nodes, (index, name) :: way =>
    match nodes[index]? with
    | some (.element tag _ children) => if tag == name then follow children way else none
    | _ => none

def Root.nodes : Root → List Node
  | .document children => children
  | .element _ tag attributes children => [.element tag attributes children]

/-- A node and its place: the way to its siblings, and its place among them. -/
structure Site where
  around : Way
  index : Nat
  node : Node

namespace Site

def way (site : Site) : Way := site.around ++ [(site.index, site.node.tag)]

/-- Whether the node stands there in the tree below some nodes. -/
def IsIn (nodes : List Node) (site : Site) : Prop :=
  ∃ siblings, Node.follow nodes site.around = some siblings ∧
    siblings[site.index]? = some site.node

end Site

@[simp] theorem Way.name_concat (way : Way) (index : Nat) (name : String) :
    Way.name (way ++ [(index, name)]) = Text.lowerName name := by
  simp [Way.name]

theorem Way.level_concat (way : Way) (index : Nat) (tag : String) :
    Way.level (way ++ [(index, tag)]) =
      if Tags.lists.contains (Text.lowerName tag) then Way.level way + 1
      else if Text.lowerName tag == "li" && Tags.lists.contains (Way.name way) then Way.level way
      else 0 := by
  have houter : ((way.map fun step => Text.lowerName step.2).reverse.head?.any fun outer =>
      Tags.lists.contains outer) = Tags.lists.contains (Way.name way) := by
    rw [List.head?_reverse, List.getLast?_map, name]
    cases way.getLast? with
    | none => decide
    | some step => rfl
  rw [level, level, List.map_append, List.reverse_append, List.map_singleton,
    List.reverse_singleton, List.singleton_append, levelBehind, houter]

theorem Way.quotes_append (way more : Way) :
    Way.quotes (way ++ more) = Way.quotes way + Way.quotes more :=
  List.countP_append

theorem Way.quotes_concat (way : Way) (index : Nat) (name : String) :
    Way.quotes (way ++ [(index, name)]) =
      Way.quotes way + if Text.lowerName name == "blockquote" then 1 else 0 := by
  rw [quotes_append]
  congr 1
  exact List.countP_singleton

/-- An element that is no quotation does not change the depth. -/
theorem Way.quotes_concat_of_ne (way : Way) (index : Nat) {name : String}
    (h : Text.lowerName name ≠ "blockquote") :
    Way.quotes (way ++ [(index, name)]) = Way.quotes way := by
  rw [quotes_concat, if_neg (by simpa using h), Nat.add_zero]

theorem Node.follow_append (nodes : List Node) (way more : Way) :
    follow nodes (way ++ more) = (follow nodes way).bind fun inner => follow inner more := by
  induction way generalizing nodes with
  | nil => rfl
  | cons step way ih =>
    obtain ⟨index, name⟩ := step
    rw [List.cons_append, follow, follow]
    split
    · split
      · exact ih _
      · rfl
    · rfl

/-- The children of an element are one step further. -/
theorem Node.follow_concat {nodes siblings children : List Node} {way : Way} {index : Nat}
    {tag : String} {attributes : Attributes} (h : follow nodes way = some siblings)
    (hindex : siblings[index]? = some (.element tag attributes children)) :
    follow nodes (way ++ [(index, tag)]) = some children := by
  rw [follow_append, h, Option.bind_some, follow, hindex]
  simp [follow]

end MarkupCompiler
