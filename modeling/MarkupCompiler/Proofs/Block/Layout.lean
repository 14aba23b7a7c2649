import MarkupCompiler.CollectedText
import MarkupCompiler.Proofs.Tree.Shown

/-!
# Layouts

The walk over blocks asks two questions that raw content answers, hidden content included: whether
an element has a block-level descendant, which decides its route, and whether the raw text of a
loose element has whitespace at its ends. The layout of a tree holds the answers that the walk gets.
Hidden content that is quiet has no part in them.
-/

namespace MarkupCompiler

mutual

theorem Collector.visit_shown (preserve skipLists : Bool) (node : Node) (c : Collector) :
    visit preserve skipLists node.shown c = visit preserve skipLists node c := by
  match node with
  | .text _ => rfl
  | .special _ _ => rfl
  | .element tag attributes children =>
    rw [Node.shown, visit, visit]
    by_cases hskipped : Tags.skipped.contains (Text.lowerName tag) = true
    · simp only [hskipped, if_true]
    · simp only [if_neg hskipped, visitAll_shown]

theorem Collector.visitAll_shown (preserve skipLists : Bool) (nodes : List Node) (c : Collector) :
    visitAll preserve skipLists (Node.shownAll nodes) c = visitAll preserve skipLists nodes c := by
  match nodes with
  | [] => rfl
  | node :: nodes =>
    rw [Node.shownAll, visitAll, visitAll, visit_shown, visitAll_shown]

end

theorem CollectedText.ofElement_shown (skipLists preserve : Bool) (tag : String)
    (attributes : Attributes) (children : List Node) :
    ofElement skipLists preserve tag attributes (Node.shownAll children) =
      ofElement skipLists preserve tag attributes children := by
  rw [ofElement, ofElement, Collector.visitAll_shown]

theorem CollectedText.ofElement_congr {skipLists preserve : Bool} {tag : String}
    {attributes : Attributes} {children children' : List Node}
    (hshown : Node.shownAll children = Node.shownAll children') :
    ofElement skipLists preserve tag attributes children =
      ofElement skipLists preserve tag attributes children' := by
  rw [← ofElement_shown, hshown, ofElement_shown]

/--
What the walk asks the content of elements, hidden or not: the route of each element that it comes
to, and whether there are gaps before and behind a loose one.
-/
inductive Layout where
  | empty
  | element (route : Route) (gaps : Bool × Bool) (inner : Layout)
  | seq (first rest : Layout)
  deriving DecidableEq, Repr

namespace Node

/-- Whether there are gaps before and behind a loose element; one without text makes one at most. -/
def gaps (place : TextKind) (tag : String) (attributes : Attributes) (children : List Node) :
    Bool × Bool :=
  let raw := rawText place tag children
  if (CollectedText.ofElement false false tag attributes children).text.isEmpty then
    (false, Text.endsWith Text.isSpace raw)
  else
    (raw.isEmpty || Text.beginsWith Text.isSpace raw, raw.isEmpty || Text.endsWith Text.isSpace raw)

mutual

def layout (place : TextKind) : Node → Layout
  | .text _ => .empty
  | .special _ _ => .empty
  | .element tag attributes children =>
    let within := (TextKind.ofName? tag).getD place
    let route := Route.of tag children
    let isLoose := route == .whole && !Tags.blockLevel.contains (Text.lowerName tag)
    .element route (if isLoose then gaps place tag attributes children else (false, false))
      (match route with
      | .list => layoutList within children
      | .entered => layoutAll within children
      | _ => .empty)

/-- The layout of nodes that are visited in order. -/
def layoutAll (place : TextKind) : List Node → Layout
  | [] => .empty
  | node :: nodes => .seq (layout place node) (layoutAll place nodes)

/-- The layout of the children of a list. Of an item, only its lists are visited. -/
def layoutList (place : TextKind) : List Node → Layout
  | [] => .empty
  | .element tag attributes children :: nodes =>
    let name := Text.lowerName tag
    let within := (TextKind.ofName? tag).getD place
    let first :=
      if name == "li" then layoutSublists within children
      else if Tags.lists.contains name then layoutList within children
      else layout place (.element tag attributes children)
    .seq first (layoutList place nodes)
  | .text _ :: nodes => .seq .empty (layoutList place nodes)
  | .special _ _ :: nodes => .seq .empty (layoutList place nodes)

/-- The layout of the lists among the children of an item. -/
def layoutSublists (place : TextKind) : List Node → Layout
  | [] => .empty
  | .element tag _ children :: nodes =>
    let within := (TextKind.ofName? tag).getD place
    let first :=
      if Tags.lists.contains (Text.lowerName tag) then layoutList within children else .empty
    .seq first (layoutSublists place nodes)
  | .text _ :: nodes => .seq .empty (layoutSublists place nodes)
  | .special _ _ :: nodes => .seq .empty (layoutSublists place nodes)

end

theorem layout_of_skipped {place : TextKind} {tag : String}
    (h : Tags.skipped.contains (Text.lowerName tag) = true) (attributes : Attributes)
    (children : List Node) :
    layout place (.element tag attributes children) = .element .hidden (false, false) .empty := by
  rw [layout, route_eq_hidden_iff.mpr h]
  rfl

theorem gaps_shown {place : TextKind} {tag : String}
    (htag : Tags.skipped.contains (Text.lowerName tag) = false) {children : List Node}
    (h : isQuietAll ((TextKind.ofName? tag).getD place) children = true) (attributes : Attributes) :
    gaps place tag attributes (shownAll children) = gaps place tag attributes children := by
  rw [gaps, gaps, rawText_shown htag h, CollectedText.ofElement_shown]

mutual

/-- The layout of a quiet node is that of what it shows. -/
theorem layout_shown {place : TextKind} {node : Node} (h : node.isQuiet place = true) :
    layout place node.shown = layout place node := by
  match node with
  | .text _ => rfl
  | .special _ _ => rfl
  | .element tag attributes children =>
    cases hskipped : Tags.skipped.contains (Text.lowerName tag) with
    | true =>
      rw [shown, layout_of_skipped hskipped, layout_of_skipped hskipped]
    | false =>
      have hchildren := isQuietAll_of_not_skipped h hskipped
      rw [shown_of_not_skipped hskipped, layout, layout, route_shown hchildren,
        gaps_shown hskipped hchildren, layoutList_shown hchildren, layoutAll_shown hchildren]

theorem layoutAll_shown {place : TextKind} {nodes : List Node}
    (h : isQuietAll place nodes = true) :
    layoutAll place (shownAll nodes) = layoutAll place nodes := by
  match nodes with
  | [] => rfl
  | node :: nodes =>
    rw [isQuietAll, Bool.and_eq_true] at h
    rw [shownAll, layoutAll, layoutAll, layout_shown h.1, layoutAll_shown h.2]

theorem layoutList_shown {place : TextKind} {nodes : List Node}
    (h : isQuietAll place nodes = true) :
    layoutList place (shownAll nodes) = layoutList place nodes := by
  match nodes with
  | [] => rfl
  | .text content :: nodes =>
    rw [isQuietAll, Bool.and_eq_true] at h
    rw [shownAll, shown, layoutList, layoutList, layoutList_shown h.2]
  | .special kind content :: nodes =>
    rw [isQuietAll, Bool.and_eq_true] at h
    rw [shownAll, shown, layoutList, layoutList, layoutList_shown h.2]
  | .element tag attributes children :: nodes =>
    rw [isQuietAll, Bool.and_eq_true] at h
    have hnode := layout_shown h.1
    rw [shown] at hnode
    rw [shownAll, shown, layoutList, layoutList, layoutList_shown h.2, hnode]
    by_cases hitem : (Text.lowerName tag == "li") = true
    · have hskipped : Tags.skipped.contains (Text.lowerName tag) = false := by
        rw [eq_of_beq hitem]
        decide
      rw [if_pos hitem, if_pos hitem, if_neg (Bool.eq_false_iff.mp hskipped),
        layoutSublists_shown (isQuietAll_of_not_skipped h.1 hskipped)]
    · rw [if_neg hitem, if_neg hitem]
      by_cases hlist : Tags.lists.contains (Text.lowerName tag) = true
      · have hskipped := not_skipped_of_contains (by decide) hlist
        rw [if_pos hlist, if_pos hlist, if_neg (Bool.eq_false_iff.mp hskipped),
          layoutList_shown (isQuietAll_of_not_skipped h.1 hskipped)]
      · rw [if_neg hlist, if_neg hlist]

theorem layoutSublists_shown {place : TextKind} {nodes : List Node}
    (h : isQuietAll place nodes = true) :
    layoutSublists place (shownAll nodes) = layoutSublists place nodes := by
  match nodes with
  | [] => rfl
  | .text content :: nodes =>
    rw [isQuietAll, Bool.and_eq_true] at h
    rw [shownAll, shown, layoutSublists, layoutSublists, layoutSublists_shown h.2]
  | .special kind content :: nodes =>
    rw [isQuietAll, Bool.and_eq_true] at h
    rw [shownAll, shown, layoutSublists, layoutSublists, layoutSublists_shown h.2]
  | .element tag attributes children :: nodes =>
    rw [isQuietAll, Bool.and_eq_true] at h
    rw [shownAll, shown, layoutSublists, layoutSublists, layoutSublists_shown h.2]
    by_cases hlist : Tags.lists.contains (Text.lowerName tag) = true
    · have hskipped := not_skipped_of_contains (by decide) hlist
      rw [if_pos hlist, if_pos hlist, if_neg (Bool.eq_false_iff.mp hskipped),
        layoutList_shown (isQuietAll_of_not_skipped h.1 hskipped)]
    · rw [if_neg hlist, if_neg hlist]

end

end Node

def Root.layout : Root → Layout
  | .document children => Node.layoutAll .plain children
  | .element place tag attributes children =>
    Node.layout place (.element tag attributes children)

theorem Root.layout_shown {root : Root} (h : root.isQuiet = true) :
    root.shown.layout = root.layout := by
  cases root with
  | document children => exact Node.layoutAll_shown h
  | element place tag attributes children =>
    have hnode := Node.layout_shown h
    rw [Node.shown] at hnode
    exact hnode

end MarkupCompiler
