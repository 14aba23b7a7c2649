import MarkupCompiler.Tree.Tags
import Mathlib.Tactic.SplitIfs

/-!
# Reading order

The visible text of a tree is all its text outside hidden elements, in document order. Blocks are read
in another order where lists and tables are taken apart: an item comes before the lists inside it, and
the captions of a table before its rows. Reading order only rearranges the visible text.
-/

namespace MarkupCompiler

/-- How a walk over blocks takes an element. -/
inductive Route where
  | hidden
  | lineBreak
  | whole
  | list
  | table
  | rule
  | entered
  deriving DecidableEq, Repr

/-- The route of an element. Inline content is taken as a whole, and so are paragraphs. -/
def Route.of (tag : String) (children : List Node) : Route :=
  let name := Text.lowerName tag
  if Tags.skipped.contains name then .hidden
  else if name == "br" then .lineBreak
  else if Tags.paragraphs.contains name then .whole
  else if Tags.lists.contains name then .list
  else if name == "table" then .table
  else if name == "hr" then .rule
  else if (Tags.containers.contains name || !Tags.blockLevel.contains name) &&
      !Node.anyNamedIn Tags.blockLevel children then .whole
  else .entered

namespace Node

/-- Whether the node is an element with one of the names, whatever its case. -/
def isNamed (names : List String) : Node → Bool
  | .element tag _ _ => names.contains (Text.lowerName tag)
  | _ => false

mutual

/-- The text of a node outside hidden elements. -/
def visible : Node → Text
  | .text content => content
  | .special _ _ => []
  | .element tag _ children =>
    if Tags.skipped.contains (Text.lowerName tag) then [] else visibleAll children

/-- The text of nodes outside hidden elements, in document order. -/
def visibleAll : List Node → Text
  | [] => []
  | node :: nodes => visible node ++ visibleAll nodes

end

def visibleFirst (names : List String) (nodes : List Node) : Text :=
  visibleAll (nodes.filter fun node => node.isNamed names) ++
    visibleAll (nodes.filter fun node => !node.isNamed names)

mutual

def reading : Node → Text
  | .text content => content
  | .special _ _ => []
  | .element tag _ children =>
    match Route.of tag children with
    | .hidden => []
    | .list => readingList children
    | .table => visibleFirst ["caption"] children
    | .entered => readingAll children
    | _ => visibleAll children

def readingAll : List Node → Text
  | [] => []
  | node :: nodes => reading node ++ readingAll nodes

/-- The visible text of the children of a list. Of an item, its own text comes before its lists. -/
def readingList : List Node → Text
  | [] => []
  | .element tag attributes children :: nodes =>
    let name := Text.lowerName tag
    let first :=
      if name == "li" then
        visibleAll (children.filter fun node => !node.isNamed Tags.lists) ++
          readingSublists children
      else if Tags.lists.contains name then readingList children
      else reading (.element tag attributes children)
    first ++ readingList nodes
  | .text content :: nodes => content ++ readingList nodes
  | .special _ _ :: nodes => readingList nodes

/-- The visible text of the lists among the children of an item. -/
def readingSublists : List Node → Text
  | [] => []
  | .element tag _ children :: nodes =>
    (if Tags.lists.contains (Text.lowerName tag) then readingList children else []) ++
      readingSublists nodes
  | .text _ :: nodes => readingSublists nodes
  | .special _ _ :: nodes => readingSublists nodes

end

theorem visibleAll_eq_flatMap (nodes : List Node) : visibleAll nodes = nodes.flatMap visible := by
  induction nodes with
  | nil => rfl
  | cons node nodes ih => rw [visibleAll, ih, List.flatMap_cons]

theorem visible_of_not_skipped {tag : String}
    (h : Tags.skipped.contains (Text.lowerName tag) = false) (attributes : Attributes)
    (children : List Node) : visible (.element tag attributes children) = visibleAll children := by
  rw [visible, if_neg (Bool.eq_false_iff.mp h)]

theorem visibleFirst_perm (names : List String) (nodes : List Node) :
    (visibleFirst names nodes).Perm (visibleAll nodes) := by
  have hperm := List.filter_append_perm (fun node => node.isNamed names) nodes
  rw [visibleFirst, visibleAll_eq_flatMap, visibleAll_eq_flatMap, visibleAll_eq_flatMap,
    ← List.flatMap_append]
  exact hperm.flatMap_right visible

theorem not_skipped_of_contains {names : List String} {name : String}
    (hnames : ∀ n ∈ names, Tags.skipped.contains n = false) (h : names.contains name = true) :
    Tags.skipped.contains name = false :=
  hnames name (List.contains_iff_mem.mp h)

/-- A hidden element is taken as hidden, and no other one is. -/
theorem route_eq_hidden_iff {tag : String} {children : List Node} :
    Route.of tag children = .hidden ↔ Tags.skipped.contains (Text.lowerName tag) = true := by
  by_cases h : Tags.skipped.contains (Text.lowerName tag) = true
  · rw [Route.of, if_pos h]
    exact iff_of_true rfl h
  · rw [Route.of, if_neg h]
    refine iff_of_false ?_ h
    split_ifs <;> decide

/-- Three routes are taken by one name only. -/
theorem name_of_route (tag : String) (children : List Node) :
    (Route.of tag children = .lineBreak → Text.lowerName tag = "br") ∧
      (Route.of tag children = .rule → Text.lowerName tag = "hr") ∧
      (Route.of tag children = .table → Text.lowerName tag = "table") := by
  simp only [Route.of]
  split_ifs <;> simp_all

mutual

theorem reading_perm (node : Node) : (reading node).Perm (visible node) := by
  match node with
  | .text _ => exact List.Perm.refl _
  | .special _ _ => exact List.Perm.refl _
  | .element tag attributes children =>
    rw [reading]
    by_cases hskipped : Tags.skipped.contains (Text.lowerName tag) = true
    · rw [route_eq_hidden_iff.mpr hskipped, visible, if_pos hskipped]
    · have hroute : Route.of tag children ≠ .hidden := mt route_eq_hidden_iff.mp hskipped
      rw [visible, if_neg hskipped]
      cases hof : Route.of tag children with
      | hidden => exact absurd hof hroute
      | list => exact readingList_perm children
      | table => exact visibleFirst_perm ["caption"] children
      | entered => exact readingAll_perm children
      | lineBreak => exact List.Perm.refl _
      | whole => exact List.Perm.refl _
      | rule => exact List.Perm.refl _

theorem readingAll_perm (nodes : List Node) : (readingAll nodes).Perm (visibleAll nodes) := by
  match nodes with
  | [] => exact List.Perm.refl _
  | node :: nodes => exact (reading_perm node).append (readingAll_perm nodes)

theorem readingList_perm (nodes : List Node) : (readingList nodes).Perm (visibleAll nodes) := by
  match nodes with
  | [] => exact List.Perm.refl _
  | .text content :: nodes => exact (readingList_perm nodes).append_left content
  | .special _ _ :: nodes => exact readingList_perm nodes
  | .element tag attributes children :: nodes =>
    rw [readingList, visibleAll]
    refine List.Perm.append ?_ (readingList_perm nodes)
    by_cases hitem : (Text.lowerName tag == "li") = true
    · have hname := eq_of_beq hitem
      rw [if_pos hitem, visible_of_not_skipped (by rw [hname]; decide)]
      exact readingSublists_perm children
    · by_cases hlist : Tags.lists.contains (Text.lowerName tag) = true
      · rw [if_neg hitem, if_pos hlist, visible_of_not_skipped (not_skipped_of_contains (by decide) hlist)]
        exact readingList_perm children
      · rw [if_neg hitem, if_neg hlist]
        exact reading_perm _

theorem readingSublists_perm (nodes : List Node) :
    (visibleAll (nodes.filter fun node => !node.isNamed Tags.lists) ++ readingSublists nodes).Perm
      (visibleAll nodes) := by
  match nodes with
  | [] => exact List.Perm.refl _
  | .text content :: nodes =>
    have hrest := readingSublists_perm nodes
    rw [List.filter_cons_of_pos rfl, visibleAll, visibleAll, readingSublists, List.append_assoc]
    exact hrest.append_left _
  | .special _ _ :: nodes => exact readingSublists_perm nodes
  | .element tag attributes children :: nodes =>
    have hrest := readingSublists_perm nodes
    rw [visibleAll, readingSublists]
    by_cases hlist : Tags.lists.contains (Text.lowerName tag) = true
    · rw [List.filter_cons_of_neg (by rw [isNamed, hlist]; decide), if_pos hlist,
        visible_of_not_skipped (not_skipped_of_contains (by decide) hlist)]
      -- The list moves in front of the texts of the item.
      refine List.Perm.trans (List.perm_append_comm_assoc _ _ _) ?_
      exact (readingList_perm children).append hrest
    · rw [List.filter_cons_of_pos (by rw [isNamed, Bool.eq_false_iff.mpr hlist]; rfl), if_neg hlist, visibleAll,
        List.nil_append, List.append_assoc]
      exact hrest.append_left _

end

end Node

namespace Root

def reading : Root → Text
  | .document children => Node.readingAll children
  | .element _ tag attributes children => Node.reading (.element tag attributes children)

def visible : Root → Text
  | .document children => Node.visibleAll children
  | .element _ tag attributes children => Node.visible (.element tag attributes children)

theorem reading_perm (root : Root) : root.reading.Perm root.visible := by
  cases root with
  | document children => exact Node.readingAll_perm children
  | element place tag attributes children => exact Node.reading_perm _

end Root

end MarkupCompiler
