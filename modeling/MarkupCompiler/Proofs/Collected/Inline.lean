import MarkupCompiler.Proofs.Collected.Stream
import MarkupCompiler.Tree.Node

/-!
# Inline content

Inline content is text, comments and elements that stand in a line. A walk over it is normal spacing
of its tokens, so the text of an element with inline content is what spacing makes of these. The raw
text of such an element is the text behind the tokens.
-/

namespace MarkupCompiler

/-- Whether a name stands in a line, in lower case, and has no part of its own in a walk. -/
def Tags.isInline (tag : String) : Bool :=
  Text.lowerName tag == tag && !Tags.blockLevel.contains tag && !Tags.skipped.contains tag &&
    !(["textarea", "listing", "plaintext", "input", "rt", "rp"].contains tag)

namespace Node

mutual

/-- Whether a node is text, a comment or an element of inline content with an inline name. -/
def isInline : Node → Bool
  | .text _ => true
  | .special kind _ => kind == .comment
  | .element tag _ children => Tags.isInline tag && isInlineAll children

/-- Whether all nodes are inline. -/
def isInlineAll : List Node → Bool
  | [] => true
  | node :: nodes => isInline node && isInlineAll nodes

end

mutual

def tokens : Node → List Token
  | .text content => content.map .char
  | .special _ _ => []
  | .element tag _ children =>
    if tag == "br" then [.lineBreak (textOfKindIn .plain .plain children)] else tokensAll children

/-- The tokens of nodes, one node after another. -/
def tokensAll : List Node → List Token
  | [] => []
  | node :: nodes => tokens node ++ tokensAll nodes

end

end Node

namespace Tags

variable {tag : String}

theorem lowerName_of_isInline (h : isInline tag = true) : Text.lowerName tag = tag := by
  simp only [isInline, Bool.and_eq_true] at h
  exact eq_of_beq h.1.1.1

theorem not_blockLevel_of_isInline (h : isInline tag = true) : blockLevel.contains tag = false := by
  simp only [isInline, Bool.and_eq_true, Bool.not_eq_true'] at h
  exact h.1.1.2

theorem not_skipped_of_isInline (h : isInline tag = true) : skipped.contains tag = false := by
  simp only [isInline, Bool.and_eq_true, Bool.not_eq_true'] at h
  exact h.1.2

theorem not_special_of_isInline (h : isInline tag = true) :
    tag ∉ ["textarea", "listing", "plaintext", "input", "rt", "rp"] := by
  simp only [isInline, Bool.and_eq_true, Bool.not_eq_true'] at h
  intro hmem
  rw [List.contains_iff_mem.mpr hmem] at h
  exact absurd h.2 (by decide)

theorem not_preserving_of_isInline (h : isInline tag = true) :
    preserving.contains (Text.lowerName tag) = false := by
  rw [lowerName_of_isInline h]
  have hblock := not_blockLevel_of_isInline h
  have hspecial := not_special_of_isInline h
  by_contra hmem
  rw [Bool.not_eq_false, List.contains_iff_mem] at hmem
  simp only [preserving, List.mem_cons, List.not_mem_nil, or_false] at hmem
  rcases hmem with rfl | rfl | rfl | rfl
  · exact absurd hblock (by decide)
  · exact hspecial (by decide)
  · exact hspecial (by decide)
  · exact hspecial (by decide)

theorem ofName?_of_isInline (h : isInline tag = true) : TextKind.ofName? tag = none := by
  have hskipped := not_skipped_of_isInline h
  have hspecial := not_special_of_isInline h
  simp only [skipped, List.contains_cons, List.contains_nil, Bool.or_false,
    Bool.or_eq_false_iff] at hskipped
  obtain ⟨hscript, hstyle, -, -, htemplate, -⟩ := hskipped
  have hruby : (tag == "rt") = false := by
    rw [beq_eq_false_iff_ne]
    rintro rfl
    exact hspecial (by decide)
  have hparenthesis : (tag == "rp") = false := by
    rw [beq_eq_false_iff_ne]
    rintro rfl
    exact hspecial (by decide)
  simp [TextKind.ofName?, hscript, hstyle, htemplate, hruby, hparenthesis]

theorem role_of_isInline (h : isInline tag = true) (attributes : Attributes) :
    Role.of false tag attributes = if tag == "br" then .lineBreak else .content := by
  have hinput : (tag == "input") = false := by
    rw [beq_eq_false_iff_ne]
    rintro rfl
    exact not_special_of_isInline h (by decide)
  simp only [Role.of, lowerName_of_isInline h, not_skipped_of_isInline h, hinput, Bool.false_and,
    if_neg Bool.false_ne_true]

end Tags

namespace Node

mutual

theorem not_blockLevel_of_isInline {node : Node} (h : isInline node = true) :
    anyNamed Tags.blockLevel node = false := by
  match node with
  | .text _ => rfl
  | .special _ _ => rfl
  | .element tag attributes children =>
    rw [isInline, Bool.and_eq_true] at h
    rw [anyNamed, Tags.not_blockLevel_of_isInline h.1, not_blockLevel_of_isInlineAll h.2]
    rfl

theorem not_blockLevel_of_isInlineAll {nodes : List Node} (h : isInlineAll nodes = true) :
    anyNamedIn Tags.blockLevel nodes = false := by
  match nodes with
  | [] => rfl
  | node :: nodes =>
    rw [isInlineAll, Bool.and_eq_true] at h
    rw [anyNamedIn, not_blockLevel_of_isInline h.1, not_blockLevel_of_isInlineAll h.2]
    rfl

end

mutual

/-- The raw text of inline content is the text behind its tokens. -/
theorem textOfKind_of_isInline {node : Node} (h : isInline node = true) :
    textOfKind .plain .plain node = Spacing.rawOf (tokens node) := by
  match node with
  | .text content => exact (Spacing.rawOf_chars content).symm
  | .special kind _ =>
    obtain rfl := eq_of_beq h
    rfl
  | .element tag attributes children =>
    rw [isInline, Bool.and_eq_true] at h
    rw [textOfKind, Tags.ofName?_of_isInline h.1, tokens]
    split
    · exact (List.append_nil _).symm
    · exact textOfKindIn_of_isInline h.2

theorem textOfKindIn_of_isInline {nodes : List Node} (h : isInlineAll nodes = true) :
    textOfKindIn .plain .plain nodes = Spacing.rawOf (tokensAll nodes) := by
  match nodes with
  | [] => rfl
  | node :: nodes =>
    rw [isInlineAll, Bool.and_eq_true] at h
    rw [textOfKindIn, textOfKind_of_isInline h.1, textOfKindIn_of_isInline h.2]
    exact (List.flatMap_append ..).symm

end

theorem rawText_of_isInline {tag : String} (htag : Tags.isInline tag = true)
    {children : List Node} (h : isInlineAll children = true) :
    rawText .plain tag children = Spacing.rawOf (tokensAll children) := by
  rw [rawText, Tags.ofName?_of_isInline htag]
  exact textOfKindIn_of_isInline h

mutual

/-- Inline content keeps no whitespace, and its tokens are those of the pieces that a walk meets. -/
theorem stream_of_isInline {node : Node} (h : isInline node = true) :
    node.keepsSpace false = false ∧
      (node.pieces false).flatMap Piece.tokens = node.tokens.map Token.bare := by
  match node with
  | .text content => simp [keepsSpace, pieces, Piece.tokens, tokens, Token.bare, Function.comp_def]
  | .special _ _ => exact ⟨rfl, rfl⟩
  | .element tag attributes children =>
    rw [isInline, Bool.and_eq_true] at h
    obtain ⟨hspace, htokens⟩ := streamAll_of_isInlineAll h.2
    rw [keepsSpace, pieces, tokens, Tags.role_of_isInline h.1,
      Tags.not_preserving_of_isInline h.1, hspace]
    split
    · exact ⟨rfl, rfl⟩
    · exact ⟨rfl, htokens⟩

theorem streamAll_of_isInlineAll {nodes : List Node} (h : isInlineAll nodes = true) :
    keepsSpaceAny false nodes = false ∧
      (piecesAll false nodes).flatMap Piece.tokens = (tokensAll nodes).map Token.bare := by
  match nodes with
  | [] => exact ⟨rfl, rfl⟩
  | node :: nodes =>
    rw [isInlineAll, Bool.and_eq_true] at h
    obtain ⟨hspace, htokens⟩ := stream_of_isInline h.1
    obtain ⟨hspaceAll, htokensAll⟩ := streamAll_of_isInlineAll h.2
    rw [keepsSpaceAny, hspace, hspaceAll, piecesAll, tokensAll, List.flatMap_append, htokens,
      htokensAll, List.map_append]
    exact ⟨rfl, rfl⟩

end

end Node

namespace Collector

open Spacing

theorem visit_buffer {node : Node} (h : node.isInline = true) {s : Spacing} {c : Collector}
    (hc : c.buffer = s.render) (hclean : s.Clean) :
    (visit false false node c).buffer = (s.run node.tokens).render := by
  obtain ⟨hspace, htokens⟩ := Node.stream_of_isInline h
  rw [visit_eq_run hspace hc hclean, htokens, run_map_bare]

end Collector

/-- The text of an element with inline content is what spacing makes of its tokens. -/
theorem CollectedText.ofElement_text {tag : String} {children : List Node}
    (htag : Tags.preserving.contains (Text.lowerName tag) = false)
    (h : Node.isInlineAll children = true) (attributes : Attributes) :
    (ofElement false false tag attributes children).text =
      (Spacing.run {} (Node.tokensAll children)).text := by
  obtain ⟨hspace, htokens⟩ := Node.streamAll_of_isInlineAll h
  rw [ofElement_text_run htag hspace, htokens, Spacing.run_map_bare]

section

variable {tag : String} {children : List Node}

/-- An inline element that is no line break is a root of its own for what it contributes. -/
theorem Node.contributions_of_isInline (htag : Tags.isInline tag = true)
    (hbreak : (tag == "br") = false) (attributes : Attributes) (children : List Node) :
    contributions false (.element tag attributes children) =
      allContributions false tag attributes children := by
  rw [contributions, Tags.role_of_isInline htag, if_neg (Bool.eq_false_iff.mp hbreak)]
  rfl

theorem CollectedText.within_of_isInline (htag : Tags.isInline tag = true)
    (hchildren : Node.isInlineAll children = true) (attributes : Attributes) :
    ∀ m ∈ Node.allContributions false tag attributes children,
      m.Within (Text.solids (Spacing.run {} (Node.tokensAll children)).text).length := by
  rw [← ofElement_text (Tags.not_preserving_of_isInline htag) hchildren attributes]
  exact allContributions_within_text false false tag attributes children

namespace Collector

open Spacing

variable {s : Spacing} {c : Collector}

/-- An inline element without text registers nothing. -/
theorem intervals_visit_of_text_eq_nil (htag : Tags.isInline tag = true)
    (hbreak : (tag == "br") = false) (hchildren : Node.isInlineAll children = true)
    (attributes : Attributes) (hempty : (run {} (Node.tokensAll children)).text = []) :
    (visit false false (.element tag attributes children) c).intervals = c.intervals := by
  have hwalk := (walks_visit false false (.element tag attributes children) c).intervals
  have hwithin := CollectedText.within_of_isInline htag hchildren attributes
  rw [hempty] at hwithin
  rw [hwalk, Node.contributions_of_isInline htag hbreak, Contribution.intervalsIn_eq_nil _ _ hwithin,
    List.append_nil]

/-- An inline element with a text registers the intervals of this text where the text is put. -/
theorem intervals_visit_of_text_ne_nil (htag : Tags.isInline tag = true)
    (hbreak : (tag == "br") = false) (hchildren : Node.isInlineAll children = true)
    (attributes : Attributes) (hc : c.buffer = s.render) (hclean : s.Clean)
    (hne : (run {} (Node.tokensAll children)).text ≠ []) :
    (visit false false (.element tag attributes children) c).intervals =
      c.intervals ++ (Contribution.intervalsIn (run {} (Node.tokensAll children)).text 0
        (Node.allContributions false tag attributes children)).map
          (StyleInterval.shifted (s.text ++ s.seam (Node.tokensAll children)).length) := by
  have hinline : Node.isInline (.element tag attributes children) = true := by
    rw [Node.isInline, htag, hchildren]
    rfl
  have hbuffer := visit_buffer hinline hc hclean
  rw [Node.tokens, if_neg (Bool.eq_false_iff.mp hbreak)] at hbuffer
  obtain ⟨hrun, -⟩ := run_of_text_ne_nil hne s
  have hwalk := (walks_visit false false (.element tag attributes children) c).intervals
  have hcount : (Text.solids c.buffer).length =
      (Text.solids (s.text ++ s.seam (Node.tokensAll children))).length := by
    rw [hc, render, Text.solids_append, Text.solids_append, solids_seam, solids_glue]
  rw [hwalk, Node.contributions_of_isInline htag hbreak, hbuffer, hcount, render, hrun,
    Contribution.intervalsIn_append_right _ _
      (CollectedText.within_of_isInline htag hchildren attributes)]

end Collector

end

end MarkupCompiler
