import MarkupCompiler.Proofs.Collected.Walk
import MarkupCompiler.Proofs.Text.Spacing

/-!
# The stream of raw text

A walk meets raw text and line breaks. Its text is determined by this stream alone: where whitespace is
kept, it is the stream itself, and otherwise the lines of the stream in normal form. So neither the text
nodes that the raw text is cut into nor the elements around them matter.
-/

namespace MarkupCompiler

/-- What a walk meets: raw text or a line break. -/
inductive Piece where
  | raw (content : Text)
  | lineBreak
  deriving DecidableEq, Repr

namespace Piece

/-- The piece as it stands, a line break as line feed. -/
def text : Piece → Text
  | .raw content => content
  | .lineBreak => ['\n']

/-- The pieces as they stand, one after another. -/
def verbatim (pieces : List Piece) : Text := pieces.flatMap text

def stretches (pieces : List Piece) : List Text := (pieces.splitOnP (· == .lineBreak)).map verbatim

/-- The stretches in whitespace normal form, one line for each. -/
def normalText (pieces : List Piece) : Text :=
  Text.join ['\n'] ((stretches pieces).map Text.normalize)

/-- A piece character by character. -/
def tokens : Piece → List Token
  | .raw content => content.map .char
  | .lineBreak => [.lineBreak []]

end Piece

namespace Node

mutual

/-- The pieces that a walk meets at and below a node. -/
def pieces (skipLists : Bool) : Node → List Piece
  | .text content => [.raw content]
  | .special _ _ => []
  | .element tag attributes children =>
    match Role.of skipLists tag attributes with
    | .lineBreak => [.lineBreak]
    | .hidden => []
    | .checkBox => [.raw [Collector.box (attributes.has "checked"), ' ']]
    | .content => piecesAll false children

/-- The pieces that a walk meets at and below siblings. -/
def piecesAll (skipLists : Bool) : List Node → List Piece
  | [] => []
  | node :: nodes => pieces skipLists node ++ piecesAll skipLists nodes

end

mutual

/-- Whether a walk enters an element that keeps whitespace. -/
def keepsSpace (skipLists : Bool) : Node → Bool
  | .text _ => false
  | .special _ _ => false
  | .element tag attributes children =>
    Role.of skipLists tag attributes == .content &&
      (Tags.preserving.contains (Text.lowerName tag) || keepsSpaceAny false children)

/-- Whether a walk enters an element that keeps whitespace, at or below siblings. -/
def keepsSpaceAny (skipLists : Bool) : List Node → Bool
  | [] => false
  | node :: nodes => keepsSpace skipLists node || keepsSpaceAny skipLists nodes

end

end Node

namespace Piece

theorem lines_append_chars (content : Text) (ts : List Token) :
    Spacing.lines (content.map .char ++ ts) = (Spacing.lines ts).modifyHead (content ++ ·) := by
  induction content with
  | nil => exact (congrFun List.modifyHead_id (Spacing.lines ts)).symm
  | cons c content ih =>
    rw [List.map_cons, List.cons_append, Spacing.lines, ih, List.modifyHead_modifyHead]
    rfl

/-- The stretches of pieces are the lines of their tokens. -/
theorem stretches_eq_lines (pieces : List Piece) :
    stretches pieces = Spacing.lines (pieces.flatMap tokens) := by
  induction pieces with
  | nil => rfl
  | cons piece pieces ih =>
    rw [List.flatMap_cons, stretches, List.splitOnP_cons_eq_if_modifyHead]
    cases piece with
    | lineBreak =>
      rw [if_pos (by rfl), List.map_cons, ← stretches, ih]
      rfl
    | raw content =>
      rw [if_neg (by simp), tokens, lines_append_chars, ← ih, stretches]
      cases pieces.splitOnP (· == Piece.lineBreak) with
      | nil => rfl
      | cons stretch rest => rfl

theorem normalText_eq_run (pieces : List Piece) :
    normalText pieces = (Spacing.run {} (pieces.flatMap tokens)).text := by
  rw [normalText, stretches_eq_lines, Spacing.text_run_lines]

end Piece

namespace Collector

open Spacing

/-- Adding text reads its characters. -/
theorem addText_eq_run {s : Spacing} {c : Collector} (h : c.buffer = s.render) (raw : Text) :
    c.addText false raw = { c with buffer := (s.run (raw.map .char)).render } := by
  have hatGap : (c.buffer.isEmpty || Text.endsWith Text.isSpace c.buffer) = atGap c.buffer := rfl
  rw [render_run_chars, ← h, addText, if_neg Bool.false_ne_true]
  simp only [hatGap]
  cases atGap c.buffer with
  | true => simp only [Bool.true_and, drop_collapse]
  | false => rfl

/-- Adding a line break reads it. -/
theorem addBreak_eq_run {s : Spacing} {c : Collector} (h : c.buffer = s.render) (hclean : s.Clean)
    (inner : Text) :
    c.addBreak false = { c with buffer := (s.run [.lineBreak inner]).render } := by
  have hrender : (s.run [.lineBreak inner]).render = s.text ++ ['\n'] :=
    render_eq_text (due_of_gap_eq_false rfl)
  rw [addBreak, hrender, h, render, glue]
  cases s.due with
  | true => simp
  | false =>
    have hlast : s.text.getLast? ≠ some ' ' := by
      intro hspace
      exact absurd (hclean ' ' hspace) (by decide)
    simp [hlast]

mutual

/-- Where no whitespace is kept, a walk reads the tokens of the pieces that it meets. -/
theorem visit_eq_run {skipLists : Bool} {node : Node} (h : node.keepsSpace skipLists = false)
    {s : Spacing} {c : Collector} (hc : c.buffer = s.render) (hclean : s.Clean) :
    (visit false skipLists node c).buffer =
      (s.run ((node.pieces skipLists).flatMap Piece.tokens)).render := by
  match node with
  | .text content =>
    rw [visit, addText_eq_run hc, Node.pieces]
    simp [Piece.tokens]
  | .special _ _ => exact hc
  | .element tag attributes children =>
    rw [Node.keepsSpace] at h
    rw [visit_element, Node.pieces]
    cases hrole : Role.of skipLists tag attributes with
    | lineBreak => simp only [addBreak_eq_run hc hclean []]; rfl
    | hidden => exact hc
    | checkBox => simp [addText_eq_run hc, Piece.tokens]
    | content =>
      -- The children go on from the same state; leaving the element records an interval only.
      rw [hrole] at h
      obtain ⟨htag, hchildren⟩ := Bool.or_eq_false_iff.mp h
      simp only [htag, Bool.or_false, buffer_record, visitAll_eq_run hchildren hc hclean]

theorem visitAll_eq_run {skipLists : Bool} {nodes : List Node}
    (h : Node.keepsSpaceAny skipLists nodes = false) {s : Spacing} {c : Collector}
    (hc : c.buffer = s.render) (hclean : s.Clean) :
    (visitAll false skipLists nodes c).buffer =
      (s.run ((Node.piecesAll skipLists nodes).flatMap Piece.tokens)).render := by
  match nodes with
  | [] => exact hc
  | node :: nodes =>
    obtain ⟨hnode, hnodes⟩ := Bool.or_eq_false_iff.mp h
    rw [visitAll, Node.piecesAll, List.flatMap_append, run_append]
    exact visitAll_eq_run hnodes (visit_eq_run hnode hc hclean) (clean_run hclean _)

end

mutual

/-- Where whitespace is kept, a walk adds the pieces that it meets as they stand. -/
theorem visit_verbatim (skipLists : Bool) (node : Node) (c : Collector) :
    (visit true skipLists node c).buffer = c.buffer ++ Piece.verbatim (node.pieces skipLists) := by
  match node with
  | .text content => simp [visit, addText, Node.pieces, Piece.verbatim, Piece.text]
  | .special _ _ => simp [visit, Node.pieces, Piece.verbatim]
  | .element tag attributes children =>
    rw [visit_element, Node.pieces]
    cases Role.of skipLists tag attributes with
    | lineBreak => simp [addBreak, Piece.verbatim, Piece.text]
    | hidden => simp [Piece.verbatim]
    | checkBox => simp [addText, Piece.verbatim, Piece.text]
    | content =>
      simp only [Bool.true_or, buffer_record]
      exact visitAll_verbatim false children c

theorem visitAll_verbatim (skipLists : Bool) (nodes : List Node) (c : Collector) :
    (visitAll true skipLists nodes c).buffer =
      c.buffer ++ Piece.verbatim (Node.piecesAll skipLists nodes) := by
  match nodes with
  | [] => simp [visitAll, Node.piecesAll, Piece.verbatim]
  | node :: nodes =>
    rw [visitAll, Node.piecesAll, visitAll_verbatim skipLists nodes, visit_verbatim skipLists node,
      Piece.verbatim, Piece.verbatim, Piece.verbatim, List.flatMap_append, List.append_assoc]

end

theorem finish_eq_text {s : Spacing} {c : Collector} (h : c.buffer = s.render) (hclean : s.Clean) :
    (c.finish false).text = s.text := by
  rw [finish, h]
  refine trimEnd_render rfl fun ch hch => ?_
  rcases hclean ch hch with rfl | hsolid
  · rfl
  · simp [hsolid]

end Collector

namespace CollectedText

variable {tag : String} {children : List Node} {skipLists preserve : Bool}

/-- Where no whitespace is kept, the text of an element is what spacing makes of the pieces. -/
theorem ofElement_text_run (htag : Tags.preserving.contains (Text.lowerName tag) = false)
    (hchildren : Node.keepsSpaceAny skipLists children = false) (attributes : Attributes) :
    (ofElement skipLists false tag attributes children).text =
      (Spacing.run {} ((Node.piecesAll skipLists children).flatMap Piece.tokens)).text := by
  have hbuffer := Collector.visitAll_eq_run hchildren (s := {}) (c := {}) rfl Spacing.clean_empty
  rw [ofElement, htag]
  exact Collector.finish_eq_text ((Collector.buffer_record ..).trans hbuffer)
    (Spacing.clean_run Spacing.clean_empty _)

/-- Where the root keeps whitespace, the text is what the pieces are, trimmed at its end. -/
theorem ofElement_text_verbatim
    (h : (preserve || Tags.preserving.contains (Text.lowerName tag)) = true)
    (attributes : Attributes) :
    (ofElement skipLists preserve tag attributes children).text =
      Text.trimEnd Text.isSpace (Piece.verbatim (Node.piecesAll skipLists children)) := by
  have hbuffer := Collector.visitAll_verbatim skipLists children {}
  have hspace : (fun ch => Text.isSpace ch && (true || ch != '\n')) = Text.isSpace := by
    funext ch
    simp
  rw [ofElement, h, Collector.finish]
  simp only [hspace, Collector.buffer_record, hbuffer]
  rfl

end CollectedText

end MarkupCompiler
