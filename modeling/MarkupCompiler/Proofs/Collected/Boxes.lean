import MarkupCompiler.Proofs.Block.Lossless

/-!
# Check boxes in collected texts

A check box shows as one character, checked or not. A tree is clear if its boxes can only be lost
where they stand: it has no tables and rules, its line breaks and inputs hold nothing, and its texts
have no such character of their own. What is collected from a clear element has one box for each
check box below it.
-/

namespace MarkupCompiler

theorem Collector.isSolid_box (isChecked : Bool) : Text.isSolid (box isChecked) = true := by
  rw [Text.isSolid, isSpace_box]
  rfl

namespace Node

def isCheckBox (isChecked : Bool) : Node → Bool
  | .element tag attributes _ =>
    Text.lowerName tag == "input" && attributes.hasText "type" "checkbox" &&
      attributes.has "checked" == isChecked
  | _ => false

mutual

/-- The number of check boxes at and below a node that are not inside a hidden element. -/
def boxes (isChecked : Bool) : Node → Nat
  | .text _ => 0
  | .special _ _ => 0
  | .element tag attributes children =>
    if Tags.skipped.contains (Text.lowerName tag) then 0
    else
      (isCheckBox isChecked (.element tag attributes children)).toNat +
        boxesIn isChecked children

/-- The number of check boxes at and below nodes that are not inside a hidden element. -/
def boxesIn (isChecked : Bool) : List Node → Nat
  | [] => 0
  | node :: nodes => boxes isChecked node + boxesIn isChecked nodes

end

mutual

/--
Whether there are no tables and rules at and below a node, nothing in line breaks and inputs, and no
box among the characters of texts.
-/
def isClear : Node → Bool
  | .text content =>
    !content.contains (Collector.box true) && !content.contains (Collector.box false)
  | .special _ _ => true
  | .element tag _ children =>
    let name := Text.lowerName tag
    !(["table", "hr"].contains name) && (!(["br", "input"].contains name) || children.isEmpty) &&
      isClearAll children

/-- Whether all nodes are clear. -/
def isClearAll : List Node → Bool
  | [] => true
  | node :: nodes => isClear node && isClearAll nodes

end

structure ClearElement (tag : String) (children : List Node) : Prop where
  not_table : Text.lowerName tag ≠ "table"
  not_rule : Text.lowerName tag ≠ "hr"
  empty : Text.lowerName tag ∈ ["br", "input"] → children = []
  children : isClearAll children = true

theorem clear_element {tag : String} {attributes : Attributes} {children : List Node}
    (h : isClear (.element tag attributes children) = true) : ClearElement tag children := by
  simp only [isClear, Bool.and_eq_true, Bool.or_eq_true, Bool.not_eq_true', List.isEmpty_iff] at h
  obtain ⟨⟨hother, hempty⟩, hchildren⟩ := h
  have hother : Text.lowerName tag ∉ ["table", "hr"] := by
    rw [← List.contains_iff_mem, hother]
    exact Bool.false_ne_true
  refine ⟨fun hname => hother (by simp [hname]), fun hname => hother (by simp [hname]),
    fun hmem => ?_, hchildren⟩
  rw [List.contains_iff_mem.mpr hmem] at hempty
  exact hempty.resolve_left Bool.noConfusion

theorem isClearAll_iff {nodes : List Node} :
    isClearAll nodes = true ↔ ∀ node ∈ nodes, isClear node = true := by
  induction nodes with
  | nil => simp [isClearAll]
  | cons node nodes ih => rw [isClearAll, Bool.and_eq_true, ih, List.forall_mem_cons]

theorem isCheckBox_of_name {tag : String} (h : Text.lowerName tag ≠ "input") (isChecked : Bool)
    (attributes : Attributes) (children : List Node) :
    isCheckBox isChecked (.element tag attributes children) = false := by
  rw [isCheckBox, beq_eq_false_iff_ne.mpr h]
  rfl

/-- An element that is shown and is no input has the boxes below it. -/
theorem boxes_of_shown {tag : String}
    (hskipped : Tags.skipped.contains (Text.lowerName tag) = false)
    (hinput : Text.lowerName tag ≠ "input") (isChecked : Bool) (attributes : Attributes)
    (children : List Node) :
    boxes isChecked (.element tag attributes children) = boxesIn isChecked children := by
  rw [boxes, hskipped, isCheckBox_of_name hinput]
  exact Nat.zero_add _

/-- Block-level elements are shown, and they are no inputs. -/
theorem boxes_of_blockLevel {tag : String} (h : Text.lowerName tag ∈ Tags.blockLevel)
    (isChecked : Bool) (attributes : Attributes) (children : List Node) :
    boxes isChecked (.element tag attributes children) = boxesIn isChecked children := by
  have hnames : ∀ name ∈ Tags.blockLevel,
      Tags.skipped.contains name = false ∧ name ≠ "input" := by decide
  obtain ⟨hshown, hinput⟩ := hnames _ h
  exact boxes_of_shown hshown hinput isChecked attributes children

theorem count_box_of_isClear {content : Text} (h : isClear (.text content) = true)
    (isChecked : Bool) : content.count (Collector.box isChecked) = 0 := by
  rw [isClear, Bool.and_eq_true, Bool.not_eq_true', Bool.not_eq_true'] at h
  refine List.count_eq_zero.mpr fun hmem => ?_
  cases isChecked with
  | true => exact absurd (List.contains_iff_mem.mpr hmem) (by rw [h.1]; exact Bool.false_ne_true)
  | false => exact absurd (List.contains_iff_mem.mpr hmem) (by rw [h.2]; exact Bool.false_ne_true)

mutual

/-- A walk over a clear node takes one box for each check box. -/
theorem count_sources {node : Node} (h : isClear node = true) (isChecked : Bool) :
    ((sources false node).map Source.char).count (Collector.box isChecked) =
      boxes isChecked node := by
  match node with
  | .text content =>
    have hsolids : (sources false (.text content)).map Source.char = Text.solids content := by
      simp [sources, Function.comp_def]
    rw [hsolids, Text.count_solids (Collector.isSolid_box isChecked), count_box_of_isClear h, boxes]
  | .special _ _ => rfl
  | .element tag attributes children =>
    obtain ⟨-, -, hempty, hchildren⟩ := clear_element h
    rw [sources, Role.of]
    by_cases hbreak : (Text.lowerName tag == "br") = true
    · have hname := eq_of_beq hbreak
      obtain rfl := hempty (by rw [hname]; decide)
      rw [if_pos hbreak, boxes_of_shown (by rw [hname]; decide) (by rw [hname]; decide)]
      rfl
    rw [if_neg hbreak]
    by_cases hskipped : Tags.skipped.contains (Text.lowerName tag) = true
    · rw [if_pos hskipped, boxes, if_pos hskipped]
      rfl
    rw [if_neg hskipped, boxes, if_neg hskipped, isCheckBox]
    cases hbox : Text.lowerName tag == "input" && attributes.hasText "type" "checkbox" with
    | true =>
      have hname := eq_of_beq (Bool.and_eq_true_iff.mp hbox).1
      obtain rfl := hempty (by rw [hname]; decide)
      cases attributes.has "checked" <;> cases isChecked <;> rfl
    | false =>
      rw [Bool.false_and]
      exact (count_sourcesIn hchildren isChecked 0).trans (Nat.zero_add _).symm

theorem count_sourcesIn {nodes : List Node} (h : isClearAll nodes = true) (isChecked : Bool)
    (index : Nat) :
    ((sourcesIn false index nodes).map Source.char).count (Collector.box isChecked) =
      boxesIn isChecked nodes := by
  match nodes with
  | [] => rfl
  | node :: nodes =>
    rw [isClearAll, Bool.and_eq_true] at h
    rw [chars_sourcesIn_cons, List.count_append, count_sources h.1, count_sourcesIn h.2, boxesIn]

end

end Node

namespace CollectedText

theorem count_text {c : Char} (hc : Text.isSolid c = true) (skipLists preserve : Bool)
    (tag : String) (attributes : Attributes) (children : List Node) :
    (ofElement skipLists preserve tag attributes children).text.count c =
      ((Node.sourcesIn skipLists 0 children).map Source.char).count c := by
  rw [← (ofElement_eq skipLists preserve tag attributes children).1, Text.count_solids hc]

variable {children : List Node}

/-- What is collected from an element has the boxes below the element. -/
theorem count_box (h : Node.isClearAll children = true) (isChecked preserve : Bool) (tag : String)
    (attributes : Attributes) :
    (ofElement false preserve tag attributes children).text.count (Collector.box isChecked) =
      Node.boxesIn isChecked children := by
  rw [count_text (Collector.isSolid_box isChecked), Node.count_sourcesIn h]

/-- What is collected from an item has the boxes below it that are not in its lists. -/
theorem count_box_skipLists (h : Node.isClearAll children = true) (isChecked preserve : Bool)
    (tag : String) (attributes : Attributes) :
    (ofElement true preserve tag attributes children).text.count (Collector.box isChecked) =
      Node.boxesIn isChecked (children.filter fun node => !node.isNamed Tags.lists) := by
  have hothers : Node.isClearAll (children.filter fun node => !node.isNamed Tags.lists) = true :=
    Node.isClearAll_iff.mpr fun node hnode =>
      Node.isClearAll_iff.mp h node (List.mem_of_mem_filter hnode)
  rw [count_text (Collector.isSolid_box isChecked), Node.chars_sourcesIn_others children 0 0,
    Node.count_sourcesIn hothers]

end CollectedText

end MarkupCompiler
