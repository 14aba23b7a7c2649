import MarkupCompiler.Proofs.Block.Gain
import MarkupCompiler.Proofs.Block.Segment
import MarkupCompiler.Proofs.Collected.Boxes

/-!
# Check boxes in blocks

A check box shows where it is met below an element that is collected. The walk can also come to a
check box itself and take it as a loose piece; what is collected from it is what is below it, and
that is nothing. These bare boxes are the only ones that a clear tree loses.
-/

namespace MarkupCompiler

namespace Event

/-- Whether the event takes a check box as a loose piece. -/
def isBareBox (isChecked : Bool) : Event → Bool
  | .loose site => site.node.isCheckBox isChecked
  | _ => false

/-- How many boxes an event meets: those that it takes, and the bare one that it does not take. -/
def meets (isChecked : Bool) (event : Event) : Nat :=
  event.gain (Collector.box isChecked) + (event.isBareBox isChecked).toNat

def met (isChecked : Bool) (events : List Event) : Nat := (events.map (meets isChecked)).sum

@[simp] theorem met_nil (isChecked : Bool) : met isChecked [] = 0 := rfl

@[simp] theorem met_cons (isChecked : Bool) (event : Event) (events : List Event) :
    met isChecked (event :: events) = event.meets isChecked + met isChecked events := rfl

@[simp] theorem met_append (isChecked : Bool) (events more : List Event) :
    met isChecked (events ++ more) = met isChecked events + met isChecked more := by
  rw [met, List.map_append, List.sum_append]
  rfl

theorem met_eq (isChecked : Bool) (events : List Event) :
    met isChecked events = (events.map (gain (Collector.box isChecked))).sum +
      events.countP (isBareBox isChecked) := by
  induction events with
  | nil => rfl
  | cons event events ih =>
    rw [met_cons, ih, meets, List.map_cons, List.sum_cons, List.countP_cons]
    cases event.isBareBox isChecked with
    | true => simp; omega
    | false => simp; omega

@[simp] theorem meets_flush (isChecked : Bool) (around : Way) :
    meets isChecked (.flush around) = 0 := rfl

@[simp] theorem meets_list (isChecked : Bool) (way : Way) (ordered : Bool) (level : Nat) :
    meets isChecked (.list way ordered level) = 0 := rfl

/-- A loose text has no box. -/
theorem meets_text {content : Text} (h : Node.isClear (.text content) = true) (isChecked : Bool)
    (around : Way) (index : Nat) :
    meets isChecked (.loose ⟨around, index, .text content⟩) = 0 := by
  have hbox := Collector.isSolid_box isChecked
  have hnormal := congrArg (List.count (Collector.box isChecked)) (Text.solids_normalize content)
  rw [Text.count_solids hbox, Text.count_solids hbox, Node.count_box_of_isClear h] at hnormal
  exact hnormal

/-- A loose element has the boxes below it, and is one itself if it is bare. -/
theorem meets_element {tag : String} {children : List Node}
    (hskipped : Tags.skipped.contains (Text.lowerName tag) = false)
    (h : Node.isClearAll children = true) (isChecked : Bool) (attributes : Attributes)
    (around : Way) (index : Nat) :
    meets isChecked (.loose ⟨around, index, .element tag attributes children⟩) =
      Node.boxes isChecked (.element tag attributes children) := by
  rw [Node.boxes, hskipped, meets, Nat.add_comm]
  exact congrArg (_ + ·) (CollectedText.count_box h isChecked false tag attributes)

theorem meets_paragraph {children : List Node} (h : Node.isClearAll children = true)
    (isChecked : Bool) (tag : String) (attributes : Attributes) (around : Way) (index : Nat) :
    meets isChecked (.paragraph ⟨around, index, .element tag attributes children⟩) =
      Node.boxesIn isChecked children :=
  CollectedText.count_box h isChecked false tag attributes

theorem meets_item {children : List Node} (h : Node.isClearAll children = true)
    (isChecked : Bool) (tag : String) (attributes : Attributes) (around : Way) (index : Nat)
    (ordered : Bool) (level : Nat) :
    meets isChecked (.item ⟨around, index, .element tag attributes children⟩ ordered level) =
      Node.boxesIn isChecked (children.filter fun node => !node.isNamed Tags.lists) :=
  CollectedText.count_box_skipLists h isChecked false tag attributes

end Event

namespace Node

open Event (met met_nil met_cons met_append meets_flush meets_list meets_text meets_element
  meets_paragraph meets_item)

variable (isChecked : Bool)

/-- An input that holds nothing is taken as a whole. -/
theorem not_input_of_entered {tag : String} {children : List Node}
    (hclear : ClearElement tag children) (hroute : Route.of tag children = .entered) :
    Text.lowerName tag ≠ "input" := by
  intro hname
  obtain rfl := hclear.empty (by rw [hname]; decide)
  rw [Route.of, hname] at hroute
  exact absurd hroute (by decide)

theorem mem_blockLevel_of_lists {tag : String}
    (h : Tags.lists.contains (Text.lowerName tag) = true) :
    Text.lowerName tag ∈ Tags.blockLevel := by
  have hnames : ∀ name ∈ Tags.lists, name ∈ Tags.blockLevel := by decide
  exact hnames _ (List.contains_iff_mem.mp h)

mutual

/-- The events of a visit to a clear node meet each of its boxes once. -/
theorem met_events (around : Way) (index : Nat) {node : Node} (h : isClear node = true) :
    met isChecked (events around index node) = boxes isChecked node := by
  match node with
  | .text content => exact meets_text h isChecked around index
  | .special _ _ => rfl
  | .element tag attributes children =>
    have hclear := clear_element h
    obtain ⟨hbreak, hrule, htable⟩ := name_of_route tag children
    rw [events]
    by_cases hskipped : Tags.skipped.contains (Text.lowerName tag) = true
    · rw [route_eq_hidden_iff.mpr hskipped, boxes, if_pos hskipped]
      rfl
    have hshown : Tags.skipped.contains (Text.lowerName tag) = false := by simpa using hskipped
    cases hroute : Route.of tag children with
    | hidden => exact absurd (route_eq_hidden_iff.mp hroute) hskipped
    | lineBreak =>
      have hname := hbreak hroute
      obtain rfl := hclear.empty (by rw [hname]; decide)
      rw [boxes_of_shown hshown (by rw [hname]; decide)]
      rfl
    | whole =>
      dsimp only
      by_cases hblock : Tags.blockLevel.contains (Text.lowerName tag) = true
      · rw [if_pos hblock, met_cons, met_cons, met_nil, meets_flush,
          meets_paragraph hclear.children, boxes_of_blockLevel (List.contains_iff_mem.mp hblock)]
        exact Nat.zero_add _
      · rw [if_neg hblock, met_cons, met_nil, meets_element hshown hclear.children]
        rfl
    | list =>
      have hlist := met_eventsList (around ++ [(index, tag)]) (Text.lowerName tag == "ol") 0 0
        hclear.children
      rw [boxes_of_blockLevel (mem_blockLevel_of_lists (Route.eq_list_iff.mp hroute)), ← hlist]
      simp
    | table => exact absurd (htable hroute) hclear.not_table
    | rule => exact absurd (hrule hroute) hclear.not_rule
    | entered =>
      have hall := met_eventsAll (around ++ [(index, tag)]) 0 hclear.children
      rw [boxes_of_shown hshown (not_input_of_entered hclear hroute), ← hall]
      cases Tags.blockLevel.contains (Text.lowerName tag) <;> simp

theorem met_eventsAll (around : Way) (index : Nat) {nodes : List Node}
    (h : isClearAll nodes = true) :
    met isChecked (eventsAll around index nodes) = boxesIn isChecked nodes := by
  match nodes with
  | [] => rfl
  | node :: nodes =>
    rw [isClearAll, Bool.and_eq_true] at h
    rw [eventsAll, met_append, met_events around index h.1,
      met_eventsAll around (index + 1) h.2, boxesIn]

theorem met_eventsList (around : Way) (ordered : Bool) (level index : Nat) {nodes : List Node}
    (h : isClearAll nodes = true) :
    met isChecked (eventsList around ordered level index nodes) = boxesIn isChecked nodes := by
  match nodes with
  | [] => rfl
  | .text _ :: nodes | .special _ _ :: nodes =>
    rw [isClearAll, Bool.and_eq_true] at h
    rw [eventsList, met_append, met_events around index h.1,
      met_eventsList around ordered level (index + 1) h.2, boxesIn]
  | .element tag attributes children :: nodes =>
    rw [isClearAll, Bool.and_eq_true] at h
    have hchildren := (clear_element h.1).children
    have hrest := met_eventsList around ordered level (index + 1) h.2
    rw [eventsList, boxesIn]
    by_cases hitem : (Text.lowerName tag == "li") = true
    · have hblock : Text.lowerName tag ∈ Tags.blockLevel := by
        rw [eq_of_beq hitem]
        decide
      have hlists := met_eventsSublists (around ++ [(index, tag)]) level 0 hchildren
      rw [if_pos hitem, boxes_of_blockLevel hblock, ← hlists, ← hrest]
      simp only [met_append, met_cons, met_nil, meets_flush, meets_item hchildren]
      omega
    · rw [if_neg hitem]
      by_cases hlist : Tags.lists.contains (Text.lowerName tag) = true
      · have hinner := met_eventsList (around ++ [(index, tag)]) (Text.lowerName tag == "ol")
          (level + 1) 0 hchildren
        rw [if_pos hlist, boxes_of_blockLevel (mem_blockLevel_of_lists hlist), ← hinner,
          ← hrest]
        simp
      · rw [if_neg hlist, met_append, met_events around index h.1, hrest]

/-- The events of the lists of an item meet the boxes that the item leaves out. -/
theorem met_eventsSublists (around : Way) (level index : Nat) {nodes : List Node}
    (h : isClearAll nodes = true) :
    boxesIn isChecked (nodes.filter fun node => !node.isNamed Tags.lists) +
        met isChecked (eventsSublists around level index nodes) =
      boxesIn isChecked nodes := by
  match nodes with
  | [] => rfl
  | .text _ :: nodes | .special _ _ :: nodes =>
    rw [isClearAll, Bool.and_eq_true] at h
    have hrest := met_eventsSublists around level (index + 1) h.2
    rw [List.filter_cons_of_pos rfl, eventsSublists, boxesIn, boxesIn, Nat.add_assoc, hrest]
  | .element tag attributes children :: nodes =>
    rw [isClearAll, Bool.and_eq_true] at h
    have hchildren := (clear_element h.1).children
    have hrest := met_eventsSublists around level (index + 1) h.2
    rw [eventsSublists, boxesIn, ← hrest]
    by_cases hlist : Tags.lists.contains (Text.lowerName tag) = true
    · have hinner := met_eventsList (around ++ [(index, tag)]) (Text.lowerName tag == "ol")
        (level + 1) 0 hchildren
      rw [List.filter_cons_of_neg (by rw [isNamed, hlist]; decide),
        boxes_of_blockLevel (mem_blockLevel_of_lists hlist), ← hinner]
      simp only [if_pos hlist, met_append, met_cons, met_nil, meets_list, meets_flush]
      omega
    · rw [List.filter_cons_of_pos (by rw [isNamed, Bool.eq_false_iff.mpr hlist]; rfl), boxesIn,
        if_neg hlist]
      simp only [List.nil_append]
      omega

end

end Node

namespace Root

/-- Whether a root and all below it is clear. -/
def isClear (root : Root) : Bool := Node.isClearAll root.nodes

/-- The number of check boxes of a root that are not inside a hidden element. -/
def boxes (isChecked : Bool) (root : Root) : Nat := Node.boxesIn isChecked root.nodes

/-- The number of check boxes that the walk comes to itself. -/
def bareBoxes (isChecked : Bool) (root : Root) : Nat :=
  root.events.countP (Event.isBareBox isChecked)

theorem met_events {root : Root} (h : root.isClear = true) (isChecked : Bool) :
    Event.met isChecked root.events = root.boxes isChecked := by
  have hnodes := Node.met_eventsAll isChecked [] 0 h
  cases root with
  | document children =>
    rw [events, Event.met_append]
    exact hnodes
  | element place tag attributes children =>
    rw [events, Event.met_append]
    rw [nodes, Node.eventsAll, Event.met_append] at hnodes
    exact hnodes

end Root

/--
The texts of the blocks of a clear tree have one box for each check box of their kind, but for those
that the walk comes to itself. These are lost.
-/
theorem Block.boxes_ofRoot {root : Root} (h : root.isClear = true) (isChecked : Bool) :
    ((ofRoot root).flatMap Block.text).count (Collector.box isChecked) +
      root.bareBoxes isChecked = root.boxes isChecked := by
  rw [count_ofRoot (Collector.isSolid_box isChecked), ← Root.met_events h isChecked,
    Event.met_eq, Root.bareBoxes]

/-- Boxes in a paragraph, in an item and in a list inside it, and one between blocks. -/
theorem Block.boxes_ofRoot_mixed :
    let box : Node := .element "input" [("type", .text "checkbox")] []
    let checked : Node := .element "input" [("type", .text "CheckBox"), ("checked", .text "")] []
    let inner : Node := .element "ol" [] [.element "li" [] [checked, .text ['b']]]
    let root : Root := .document [.element "p" [] [.element "b" [] [box]],
      .element "ul" [] [.element "li" [] [box, .text ['a'], inner]], box, .text ['c']]
    root.isClear = true ∧
      ((ofRoot root).flatMap Block.text).count (Collector.box false) + root.bareBoxes false = 3 ∧
      ((ofRoot root).flatMap Block.text).count (Collector.box true) + root.bareBoxes true = 1 := by
  intro box checked inner root
  have hclear : root.isClear = true := by decide +kernel
  have hboxes : root.boxes false = 3 ∧ root.boxes true = 1 := by decide +kernel
  exact ⟨hclear, (boxes_ofRoot hclear false).trans hboxes.1,
    (boxes_ofRoot hclear true).trans hboxes.2⟩

/-- A check box before a text, with no paragraph around them, is not in the paragraph they make. -/
theorem Block.bare_box_lost :
    let root : Root := .document
      [.element "input" [("type", .text "checkbox")] [], .text [' ', 't', 'o', 'd', 'o']]
    root.isClear = true ∧ root.boxes false = 1 ∧
      ((ofRoot root).flatMap Block.text).count (Collector.box false) = 0 := by
  decide +kernel

end MarkupCompiler
