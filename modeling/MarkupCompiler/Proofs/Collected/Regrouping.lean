import MarkupCompiler.Proofs.Collected.Stream
import MarkupCompiler.Proofs.Tree.ReadingOrder

/-!
# Text nodes and wrappers do not matter

Raw text may be cut into text nodes in any way, and nodes may be wrapped in elements that a walk
enters and that keep no whitespace. None of this changes the stream of raw text. So where no
whitespace is kept, none of it changes the text, which is the normal form of the stream.
-/

namespace MarkupCompiler

namespace Node

/-- The nodes hold the same raw text, up to its cuts into text nodes and the elements around it. -/
inductive Regrouped : Bool → List Node → List Node → Prop
  | refl (skipLists : Bool) (nodes : List Node) : Regrouped skipLists nodes nodes
  | symm {skipLists : Bool} {nodes others : List Node} (h : Regrouped skipLists nodes others) :
    Regrouped skipLists others nodes
  | trans {skipLists : Bool} {nodes others more : List Node} (h : Regrouped skipLists nodes others)
    (h' : Regrouped skipLists others more) : Regrouped skipLists nodes more
  /-- A text may be cut into any number of texts. -/
  | cut {skipLists : Bool} (texts : List Text) (nodes : List Node) :
    Regrouped skipLists (.text texts.flatten :: nodes) (texts.map .text ++ nodes)
  /-- Nodes may be wrapped, but not lists that are left out where they are. -/
  | wrap {skipLists : Bool} {tag : String} {attributes : Attributes} {inner : List Node}
    (role : Role.of skipLists tag attributes = .content)
    (plain : Tags.preserving.contains (Text.lowerName tag) = false)
    (lists : ∀ node ∈ inner, (skipLists && node.isNamed Tags.lists) = false) (nodes : List Node) :
    Regrouped skipLists (inner ++ nodes) (.element tag attributes inner :: nodes)
  | inside {skipLists : Bool} {inner others : List Node} (h : Regrouped false inner others)
    (tag : String) (attributes : Attributes) (nodes : List Node) :
    Regrouped skipLists (.element tag attributes inner :: nodes)
      (.element tag attributes others :: nodes)
  | behind {skipLists : Bool} {nodes others : List Node} (h : Regrouped skipLists nodes others)
    (node : Node) : Regrouped skipLists (node :: nodes) (node :: others)

/-- The characters and line breaks that a walk meets at and below siblings. -/
def stream (skipLists : Bool) (nodes : List Node) : List Token :=
  (piecesAll skipLists nodes).flatMap Piece.tokens

variable {skipLists : Bool} {nodes others : List Node}

theorem stream_cons (skipLists : Bool) (node : Node) (nodes : List Node) :
    stream skipLists (node :: nodes) =
      (node.pieces skipLists).flatMap Piece.tokens ++ stream skipLists nodes := by
  rw [stream, piecesAll, List.flatMap_append, ← stream]

theorem stream_append (skipLists : Bool) (nodes more : List Node) :
    stream skipLists (nodes ++ more) = stream skipLists nodes ++ stream skipLists more := by
  induction nodes with
  | nil => rfl
  | cons node nodes ih => rw [List.cons_append, stream_cons, stream_cons, ih, List.append_assoc]

theorem keepsSpaceAny_append (skipLists : Bool) (nodes more : List Node) :
    keepsSpaceAny skipLists (nodes ++ more) =
      (keepsSpaceAny skipLists nodes || keepsSpaceAny skipLists more) := by
  induction nodes with
  | nil => rfl
  | cons node nodes ih => rw [List.cons_append, keepsSpaceAny, keepsSpaceAny, ih, Bool.or_assoc]

theorem stream_map_text (skipLists : Bool) (texts : List Text) :
    stream skipLists (texts.map .text) = texts.flatten.map .char ∧
      keepsSpaceAny skipLists (texts.map .text) = false := by
  induction texts with
  | nil => exact ⟨rfl, rfl⟩
  | cons t texts ih =>
    obtain ⟨hstream, hspace⟩ := ih
    rw [List.map_cons, stream_cons, hstream, keepsSpaceAny, hspace, List.flatten_cons,
      List.map_append]
    exact ⟨congrArg (· ++ _) (List.append_nil _), rfl⟩

theorem pieces_of_not_list {node : Node} (h : (skipLists && node.isNamed Tags.lists) = false) :
    node.pieces skipLists = node.pieces false ∧ node.keepsSpace skipLists = node.keepsSpace false := by
  match node with
  | .text _ => exact ⟨rfl, rfl⟩
  | .special _ _ => exact ⟨rfl, rfl⟩
  | .element tag attributes children =>
    rw [pieces, pieces, keepsSpace, keepsSpace, Role.of_not_list h]
    exact ⟨rfl, rfl⟩

theorem stream_of_not_list (h : ∀ node ∈ nodes, (skipLists && node.isNamed Tags.lists) = false) :
    stream skipLists nodes = stream false nodes ∧
      keepsSpaceAny skipLists nodes = keepsSpaceAny false nodes := by
  induction nodes with
  | nil => exact ⟨rfl, rfl⟩
  | cons node nodes ih =>
    obtain ⟨hpieces, hspace⟩ := pieces_of_not_list (h node List.mem_cons_self)
    obtain ⟨hstream, hspaceAll⟩ := ih fun n hn => h n (List.mem_cons_of_mem node hn)
    rw [stream_cons, stream_cons, keepsSpaceAny, keepsSpaceAny, hpieces, hspace, hstream, hspaceAll]
    exact ⟨rfl, rfl⟩

/-- Regrouping changes neither the stream nor whether whitespace is kept. -/
theorem Regrouped.stream_eq (h : Regrouped skipLists nodes others) :
    stream skipLists nodes = stream skipLists others ∧
      keepsSpaceAny skipLists nodes = keepsSpaceAny skipLists others := by
  induction h with
  | refl => exact ⟨rfl, rfl⟩
  | symm _ ih => exact ⟨ih.1.symm, ih.2.symm⟩
  | trans _ _ ih ih' => exact ⟨ih.1.trans ih'.1, ih.2.trans ih'.2⟩
  | @cut skipLists texts nodes =>
    obtain ⟨hstream, hspace⟩ := stream_map_text skipLists texts
    rw [stream_append, hstream, keepsSpaceAny_append, hspace, stream_cons, keepsSpaceAny]
    exact ⟨congrArg (· ++ _) (List.append_nil _), rfl⟩
  | @wrap skipLists tag attributes inner role plain lists nodes =>
    obtain ⟨hstream, hspace⟩ := stream_of_not_list lists
    rw [stream_append, keepsSpaceAny_append, stream_cons, keepsSpaceAny, pieces, keepsSpace, role,
      plain, hstream, hspace]
    exact ⟨rfl, by simp⟩
  | @inside skipLists inner others h tag attributes nodes ih =>
    obtain ⟨hstream, hspace⟩ := ih
    rw [stream_cons, stream_cons, keepsSpaceAny, keepsSpaceAny, pieces, pieces, keepsSpace,
      keepsSpace, hspace]
    refine ⟨?_, rfl⟩
    cases Role.of skipLists tag attributes with
    | content => exact congrArg (· ++ _) hstream
    | lineBreak => rfl
    | hidden => rfl
    | checkBox => rfl
  | behind _ node ih =>
    rw [stream_cons, stream_cons, keepsSpaceAny, keepsSpaceAny, ih.1, ih.2]
    exact ⟨rfl, rfl⟩

end Node

namespace CollectedText

/--
Where no whitespace is kept, the text of an element is the normal form of the raw text that a walk
meets, one line for each stretch between line breaks, however this raw text is cut and wrapped. Where
the root keeps whitespace, it is the raw text as it stands, trimmed at its end.
-/
theorem ofElement_text_reference (skipLists preserve : Bool) (tag : String)
    (attributes : Attributes) (children : List Node) :
    let text := (ofElement skipLists preserve tag attributes children).text
    let pieces := Node.piecesAll skipLists children
    let keeps := preserve || Tags.preserving.contains (Text.lowerName tag)
    ((keeps || Node.keepsSpaceAny skipLists children) = false →
        text = Piece.normalText pieces ∧
          ∀ others, Node.Regrouped skipLists children others →
            (ofElement skipLists preserve tag attributes others).text = text) ∧
      (keeps = true → text = Text.trimEnd Text.isSpace (Piece.verbatim pieces)) := by
  intro text pieces keeps
  refine ⟨fun h => ?_, fun h => ofElement_text_verbatim h attributes⟩
  obtain ⟨hkeeps, hchildren⟩ := Bool.or_eq_false_iff.mp h
  obtain ⟨rfl, htag⟩ := Bool.or_eq_false_iff.mp hkeeps
  have htext : text = _ := ofElement_text_run htag hchildren attributes
  refine ⟨htext.trans (Piece.normalText_eq_run pieces).symm, fun others hothers => ?_⟩
  obtain ⟨hstream, hspace⟩ := hothers.stream_eq
  rw [ofElement_text_run htag (hspace ▸ hchildren), htext, ← Node.stream, ← Node.stream, hstream]

/-- Text across nodes, a line break and a check box, cut and wrapped, then in a `pre` element. -/
theorem ofElement_text_reference_wrapped :
    let bold := Node.element "b" [] [.text [' ', 'b', ' ']]
    let rest := [.element "br" [] [], .element "input" [("type", .text "checkbox")] [], .text [' ', 'c']]
    let children := .text ['a', ' ', '\n'] :: bold :: rest
    let others := .text ['a', ' '] :: .text ['\n'] :: Node.element "i" [] [bold] :: rest
    let pieces := Node.piecesAll false children
    let text := (ofElement false false "p" [] children).text
    (false || Tags.preserving.contains (Text.lowerName "p") ||
        Node.keepsSpaceAny false children) = false ∧
      Node.Regrouped false children others ∧
      text = ['a', ' ', 'b', '\n', Collector.box false, ' ', 'c'] ∧
      text = Piece.normalText pieces ∧ (ofElement false false "p" [] others).text = text ∧
      (false || Tags.preserving.contains (Text.lowerName "pre")) = true ∧
      (ofElement false false "pre" [] children).text =
        Text.trimEnd Text.isSpace (Piece.verbatim pieces) := by
  intro bold rest children others pieces text
  have hnone : (false || Tags.preserving.contains (Text.lowerName "p") ||
      Node.keepsSpaceAny false children) = false := by decide +kernel
  have hkeeps : (false || Tags.preserving.contains (Text.lowerName "pre")) = true := by
    decide +kernel
  have hwrap : Node.Regrouped false ([bold] ++ rest) (.element "i" [] [bold] :: rest) :=
    .wrap (by decide +kernel) (by decide +kernel) (by simp) rest
  have hcut : Node.Regrouped false children (.text ['a', ' '] :: .text ['\n'] :: bold :: rest) :=
    .cut [['a', ' '], ['\n']] (bold :: rest)
  have hregrouped : Node.Regrouped false children others := hcut.trans ((hwrap.behind _).behind _)
  obtain ⟨hnormal, hothers⟩ := (ofElement_text_reference false false "p" [] children).1 hnone
  refine ⟨hnone, hregrouped, by decide +kernel, hnormal, hothers others hregrouped, hkeeps, ?_⟩
  exact (ofElement_text_reference false false "pre" [] children).2 hkeeps

end CollectedText

end MarkupCompiler
