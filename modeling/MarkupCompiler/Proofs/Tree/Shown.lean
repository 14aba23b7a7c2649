import MarkupCompiler.Proofs.Tree.ReadingOrder
import MarkupCompiler.Tree.Node

/-!
# What a document shows

Hidden elements hold scripts, style sheets and the like, which are no part of the document. Without
what they hold, and without the texts of comments, a tree is what it shows. Hidden content is quiet if
it has no block-level elements and no text that counts as text of the elements around it. Then raw
texts and routes are those of what is shown.
-/

namespace MarkupCompiler

namespace Node

mutual

/-- The node without the content of hidden elements and comments. -/
def shown : Node → Node
  | .text content => .text content
  | .special kind content => .special kind (if kind = .comment then [] else content)
  | .element tag attributes children =>
    .element tag attributes
      (if Tags.skipped.contains (Text.lowerName tag) then [] else shownAll children)

/-- The nodes without the content of hidden elements and comments. -/
def shownAll : List Node → List Node
  | [] => []
  | node :: nodes => shown node :: shownAll nodes

end

/-- Text of these kinds counts around hidden elements; the other kinds are of hidden elements. -/
def countedKinds : List TextKind := [.plain, .rubyText, .rubyParenthesis]

mutual

/-- Whether hidden content has neither block-level elements nor text that counts around it. -/
def isQuiet (place : TextKind) : Node → Bool
  | .text _ => true
  | .special _ _ => true
  | .element tag _ children =>
    let within := (TextKind.ofName? tag).getD place
    if Tags.skipped.contains (Text.lowerName tag) then
      !anyNamedIn Tags.blockLevel children &&
        countedKinds.all fun kind => (textOfKindIn kind within children).isEmpty
    else isQuietAll within children

/-- Whether hidden content among nodes is quiet. -/
def isQuietAll (place : TextKind) : List Node → Bool
  | [] => true
  | node :: nodes => isQuiet place node && isQuietAll place nodes

end

theorem shownAll_eq_map (nodes : List Node) : shownAll nodes = nodes.map shown := by
  induction nodes with
  | nil => rfl
  | cons node nodes ih => rw [shownAll, ih, List.map_cons]

theorem shown_of_not_skipped {tag : String}
    (h : Tags.skipped.contains (Text.lowerName tag) = false) (attributes : Attributes)
    (children : List Node) :
    shown (.element tag attributes children) = .element tag attributes (shownAll children) := by
  rw [shown, if_neg (Bool.eq_false_iff.mp h)]

theorem eq_of_shown_text {content : Text} {node : Node} (h : shown (.text content) = node.shown) :
    node = .text content := by
  match node with
  | .text content' => exact h.symm
  | .special kind content' => exact Node.noConfusion h
  | .element tag attributes children => exact Node.noConfusion h

theorem of_shown_special {kind : SpecialKind} {content : Text} {node : Node}
    (h : shown (.special kind content) = node.shown) :
    ∃ content', node = .special kind content' := by
  match node with
  | .text content' => exact Node.noConfusion h
  | .special kind' content' =>
    obtain ⟨rfl, -⟩ := Node.special.inj h
    exact ⟨content', rfl⟩
  | .element tag attributes children => exact Node.noConfusion h

/-- What shows the same as an element has its name, its attributes and, if not hidden, its content. -/
theorem of_shown_element {tag : String} {attributes : Attributes} {children : List Node}
    {node : Node} (h : shown (.element tag attributes children) = node.shown) :
    ∃ children', node = .element tag attributes children' ∧
      (Tags.skipped.contains (Text.lowerName tag) = false →
        shownAll children = shownAll children') := by
  match node with
  | .text content' => exact Node.noConfusion h
  | .special kind content' => exact Node.noConfusion h
  | .element tag' attributes' children' =>
    rw [shown, shown] at h
    obtain ⟨rfl, rfl, hchildren⟩ := Node.element.inj h
    refine ⟨children', rfl, fun hskipped => ?_⟩
    simpa only [hskipped, Bool.false_eq_true, if_false] using hchildren

theorem eq_nil_of_shownAll {nodes : List Node} (h : shownAll [] = shownAll nodes) : nodes = [] := by
  cases nodes with
  | nil => rfl
  | cons node nodes => exact absurd h.symm (List.cons_ne_nil _ _)

theorem of_shownAll_cons {node : Node} {nodes nodes' : List Node}
    (h : shownAll (node :: nodes) = shownAll nodes') :
    ∃ first rest, nodes' = first :: rest ∧ node.shown = first.shown ∧
      shownAll nodes = shownAll rest := by
  cases nodes' with
  | nil => exact absurd h (List.cons_ne_nil _ _)
  | cons first rest =>
    obtain ⟨hfirst, hrest⟩ := List.cons.inj h
    exact ⟨first, rest, rfl, hfirst, hrest⟩

theorem isQuietAll_of_not_skipped {place : TextKind} {tag : String} {attributes : Attributes}
    {children : List Node} (h : isQuiet place (.element tag attributes children) = true)
    (hskipped : Tags.skipped.contains (Text.lowerName tag) = false) :
    isQuietAll ((TextKind.ofName? tag).getD place) children = true := by
  simpa only [isQuiet, hskipped, Bool.false_eq_true, if_false] using h

mutual

theorem anyNamed_shown {place : TextKind} {node : Node} (h : node.isQuiet place = true) :
    anyNamed Tags.blockLevel node.shown = anyNamed Tags.blockLevel node := by
  match node with
  | .text _ => rfl
  | .special _ _ => rfl
  | .element tag attributes children =>
    rw [isQuiet] at h
    rw [shown, anyNamed, anyNamed]
    by_cases hskipped : Tags.skipped.contains (Text.lowerName tag) = true
    · rw [if_pos hskipped, Bool.and_eq_true, Bool.not_eq_true'] at h
      rw [if_pos hskipped, h.1]
      rfl
    · rw [if_neg hskipped] at h
      rw [if_neg hskipped, anyNamedIn_shown h]

theorem anyNamedIn_shown {place : TextKind} {nodes : List Node}
    (h : isQuietAll place nodes = true) :
    anyNamedIn Tags.blockLevel (shownAll nodes) = anyNamedIn Tags.blockLevel nodes := by
  match nodes with
  | [] => rfl
  | node :: nodes =>
    rw [isQuietAll, Bool.and_eq_true] at h
    rw [shownAll, anyNamedIn, anyNamedIn, anyNamed_shown h.1, anyNamedIn_shown h.2]

end

mutual

theorem textOfKind_shown {wanted : TextKind} (hwanted : wanted ∈ countedKinds)
    {place : TextKind} {node : Node} (h : node.isQuiet place = true) :
    textOfKind wanted place node.shown = textOfKind wanted place node := by
  match node with
  | .text _ => rfl
  | .special kind content =>
    rw [shown, textOfKind, textOfKind]
    cases kind <;> rfl
  | .element tag attributes children =>
    rw [isQuiet] at h
    rw [shown, textOfKind, textOfKind]
    by_cases hskipped : Tags.skipped.contains (Text.lowerName tag) = true
    · rw [if_pos hskipped, Bool.and_eq_true, List.all_eq_true] at h
      rw [if_pos hskipped, List.isEmpty_iff.mp (h.2 wanted hwanted)]
      rfl
    · rw [if_neg hskipped] at h
      rw [if_neg hskipped, textOfKindIn_shown hwanted h]

theorem textOfKindIn_shown {wanted : TextKind} (hwanted : wanted ∈ countedKinds)
    {place : TextKind} {nodes : List Node} (h : isQuietAll place nodes = true) :
    textOfKindIn wanted place (shownAll nodes) = textOfKindIn wanted place nodes := by
  match nodes with
  | [] => rfl
  | node :: nodes =>
    rw [isQuietAll, Bool.and_eq_true] at h
    rw [shownAll, textOfKindIn, textOfKindIn, textOfKind_shown hwanted h.1,
      textOfKindIn_shown hwanted h.2]

end

theorem kind_mem_countedKinds {tag : String}
    (h : Tags.skipped.contains (Text.lowerName tag) = false) :
    (TextKind.ofName? tag).getD .plain ∈ countedKinds := by
  -- The names that make the other kinds of text are those of hidden elements.
  have hother : ∀ name : String, Tags.skipped.contains (Text.lowerName name) = true →
      (tag == name) = false := by
    intro name hname
    rw [beq_eq_false_iff_ne]
    rintro rfl
    exact absurd (hname.symm.trans h) (by decide)
  rw [TextKind.ofName?, hother "script" (by decide), hother "style" (by decide),
    hother "template" (by decide)]
  simp only [Bool.false_eq_true, if_false]
  split_ifs <;> decide

theorem rawText_shown {place : TextKind} {tag : String}
    (htag : Tags.skipped.contains (Text.lowerName tag) = false) {children : List Node}
    (h : isQuietAll ((TextKind.ofName? tag).getD place) children = true) :
    rawText place tag (shownAll children) = rawText place tag children :=
  textOfKindIn_shown (kind_mem_countedKinds htag) h

theorem route_shown {place : TextKind} {tag : String} {children : List Node}
    (h : isQuietAll place children = true) :
    Route.of tag (shownAll children) = Route.of tag children := by
  rw [Route.of, Route.of, anyNamedIn_shown h]

end Node

namespace Root

/-- The root without the content of hidden elements and comments. -/
def shown : Root → Root
  | .document children => .document (Node.shownAll children)
  | .element place tag attributes children =>
    .element place tag attributes
      (if Tags.skipped.contains (Text.lowerName tag) then [] else Node.shownAll children)

/-- Whether hidden content below the root is quiet. -/
def isQuiet : Root → Bool
  | .document children => Node.isQuietAll .plain children
  | .element place tag attributes children =>
    Node.isQuiet place (.element tag attributes children)

end Root

end MarkupCompiler
