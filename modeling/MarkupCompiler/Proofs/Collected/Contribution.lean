import MarkupCompiler.CollectedText
import MarkupCompiler.Proofs.Text.Solid

/-!
# What elements contribute to a text

A walk takes solid characters from the texts and check boxes that it meets. Each of them has a
source, addressed by its place in the tree, and each element that the walk enters contributes one
stretch of them. A contribution determines an interval in any text with these solid characters:
from the first of its characters to the last. Whitespace never enters here, so nothing in these
definitions depends on how a walk spaces its text.
-/

namespace MarkupCompiler

/-- The part that an element plays in a walk. -/
inductive Role where
  | lineBreak
  | hidden
  | checkBox
  | content
  deriving DecidableEq, Repr

/-- The part of an element with a given name and attributes. -/
def Role.of (skipLists : Bool) (tag : String) (attributes : Attributes) : Role :=
  let name := Text.lowerName tag
  if name == "br" then .lineBreak
  else if Tags.skipped.contains name then .hidden
  else if name == "input" && attributes.hasText "type" "checkbox" then .checkBox
  else if skipLists && Tags.lists.contains name then .hidden
  else .content

/-- The way from a node down to another one: at each level, the position among the siblings. -/
abbrev Place := List Nat

/-- A solid character and the node that it comes from. -/
structure Source where
  place : Place
  char : Char
  deriving DecidableEq, Repr

/-- A source below the child at a position. -/
def Source.under (index : Nat) (s : Source) : Source := { s with place := index :: s.place }

/--
An element that a walk enters. Among the solid characters that the walk takes, in order, `count`
are its own, and `first` stand before them.
-/
structure Contribution where
  place : Place
  style : TextStyle
  first : Nat
  count : Nat
  deriving DecidableEq, Repr

namespace Contribution

/-- A contribution below the child at a position. -/
def under (index : Nat) (s : Contribution) : Contribution := { s with place := index :: s.place }

/-- A contribution that more solid characters stand before. -/
def after (earlier : Nat) (s : Contribution) : Contribution := { s with first := earlier + s.first }

/-- Whether the element has a style to give and a solid character to give it to. -/
def isStyled (s : Contribution) : Bool := !s.style.isEmpty && s.count != 0

/-- The interval from the first to the last character of a contribution. -/
def intervalIn (t : Text) (s : Contribution) : StyleInterval where
  start := Text.solidPosition t s.first
  stop := Text.solidPosition t (s.first + s.count - 1) + 1
  style := s.style

end Contribution

namespace Node

mutual

/-- The solid characters that a walk takes from a node, in order. -/
def sources (skipLists : Bool) : Node → List Source
  | .text content => (Text.solids content).map fun c => ⟨[], c⟩
  | .special _ _ => []
  | .element tag attributes children =>
    match Role.of skipLists tag attributes with
    | .lineBreak => []
    | .hidden => []
    | .checkBox => [⟨[], Collector.box (attributes.has "checked")⟩]
    | .content => sourcesIn false 0 children

/-- The solid characters that a walk takes from siblings, the first of them at a position. -/
def sourcesIn (skipLists : Bool) (index : Nat) : List Node → List Source
  | [] => []
  | node :: nodes =>
    (sources skipLists node).map (·.under index) ++ sourcesIn skipLists (index + 1) nodes

end

mutual

/-- The elements that a walk enters at and below a node, in the order in which it leaves them. -/
def contributions (skipLists : Bool) : Node → List Contribution
  | .text _ => []
  | .special _ _ => []
  | .element tag attributes children =>
    match Role.of skipLists tag attributes with
    | .content =>
      contributionsIn false 0 children ++
        [⟨[], TextStyle.ofElement tag attributes, 0, (sourcesIn false 0 children).length⟩]
    | _ => []

/-- The elements that a walk enters at and below siblings. -/
def contributionsIn (skipLists : Bool) (index : Nat) : List Node → List Contribution
  | [] => []
  | node :: nodes =>
    (contributions skipLists node).map (·.under index) ++
      (contributionsIn skipLists (index + 1) nodes).map (·.after (sources skipLists node).length)

end

/-- All elements that a walk from a root enters; the root itself comes last. -/
def allContributions (skipLists : Bool) (tag : String) (attributes : Attributes)
    (children : List Node) : List Contribution :=
  contributionsIn skipLists 0 children ++
    [⟨[], TextStyle.ofElement tag attributes, 0, (sourcesIn skipLists 0 children).length⟩]

end Node

/-- Leaving lists out changes the part of lists only. -/
theorem Role.of_not_list {skipLists : Bool} {tag : String}
    (h : (skipLists && Tags.lists.contains (Text.lowerName tag)) = false) (attributes : Attributes) :
    Role.of skipLists tag attributes = Role.of false tag attributes := by
  simp only [Role.of, h, Bool.false_and]

namespace Contribution

@[simp] theorem intervalIn_under (t : Text) (index : Nat) (s : Contribution) :
    (s.under index).intervalIn t = s.intervalIn t := rfl

@[simp] theorem isStyled_under (index : Nat) (s : Contribution) :
    (s.under index).isStyled = s.isStyled := rfl

@[simp] theorem isStyled_after (earlier : Nat) (s : Contribution) :
    (s.after earlier).isStyled = s.isStyled := rfl

@[simp] theorem after_zero (s : Contribution) : s.after 0 = s := by
  simp [after]

@[simp] theorem after_after (m n : Nat) (s : Contribution) :
    (s.after n).after m = s.after (m + n) := by
  simp [after, Nat.add_assoc]

theorem isStyled_iff {s : Contribution} :
    s.isStyled = true ↔ s.style.isEmpty = false ∧ 0 < s.count := by
  simp [isStyled, Nat.pos_iff_ne_zero]

/-- The contribution lies among the first `n` solid characters. -/
def Within (n : Nat) (s : Contribution) : Prop := s.first + s.count ≤ n

@[simp] theorem within_under {n index : Nat} {s : Contribution} :
    (s.under index).Within n ↔ s.Within n := Iff.rfl

/-- The intervals of styled contributions in a text where `earlier` solid characters come first. -/
def intervalsIn (t : Text) (earlier : Nat) (marks : List Contribution) : List StyleInterval :=
  (marks.filter isStyled).map fun s => (s.after earlier).intervalIn t

@[simp] theorem intervalsIn_nil (t : Text) (earlier : Nat) : intervalsIn t earlier [] = [] := rfl

/-- Contributions without solid characters have no intervals. -/
theorem intervalsIn_eq_nil (t : Text) (earlier : Nat) {marks : List Contribution}
    (h : ∀ m ∈ marks, m.Within 0) : intervalsIn t earlier marks = [] := by
  have hnone : marks.filter isStyled = [] := by
    refine List.filter_eq_nil_iff.mpr fun m hm hstyled => ?_
    have hcount := (isStyled_iff.mp hstyled).2
    have hin := h m hm
    rw [Within] at hin
    omega
  rw [intervalsIn, hnone, List.map_nil]

theorem intervalsIn_append (t : Text) (earlier : Nat) (marks more : List Contribution) :
    intervalsIn t earlier (marks ++ more) =
      intervalsIn t earlier marks ++ intervalsIn t earlier more := by
  simp [intervalsIn]

theorem intervalsIn_map_under (t : Text) (earlier index : Nat) (marks : List Contribution) :
    intervalsIn t earlier (marks.map (·.under index)) = intervalsIn t earlier marks := by
  simp only [intervalsIn, List.filter_map, List.map_map]
  rfl

theorem intervalsIn_map_after (t : Text) (earlier n : Nat) (marks : List Contribution) :
    intervalsIn t earlier (marks.map (·.after n)) = intervalsIn t (earlier + n) marks := by
  simp only [intervalsIn, List.filter_map, List.map_map, Function.comp_def, isStyled_after,
    after_after]

/-- Intervals stay as they are when the text goes on. -/
theorem intervalsIn_of_outline_extends {s t : Text} {earlier : Nat} {marks : List Contribution}
    (h : Text.outline s <+: Text.outline t)
    (hmarks : ∀ m ∈ marks, (m.after earlier).Within (Text.solids s).length) :
    intervalsIn t earlier marks = intervalsIn s earlier marks := by
  refine List.map_congr_left fun m hm => ?_
  obtain ⟨hmem, hstyled⟩ := List.mem_filter.mp hm
  have hin : earlier + m.first + m.count ≤ (Text.solids s).length := hmarks m hmem
  have hcount := (isStyled_iff.mp hstyled).2
  simp only [intervalIn, after]
  rw [Text.solidPosition_of_outline_extends h (by omega),
    Text.solidPosition_of_outline_extends h (by omega)]

end Contribution

namespace Node

/-- The characters that a walk takes from siblings come one sibling after another. -/
theorem chars_sourcesIn_cons (skipLists : Bool) (index : Nat) (node : Node) (nodes : List Node) :
    (sourcesIn skipLists index (node :: nodes)).map Source.char =
      (sources skipLists node).map Source.char ++
        (sourcesIn skipLists (index + 1) nodes).map Source.char := by
  simp [sourcesIn, Source.under, Function.comp_def]

@[simp] theorem length_sourcesIn_cons (skipLists : Bool) (index : Nat) (node : Node)
    (nodes : List Node) :
    (sourcesIn skipLists index (node :: nodes)).length =
      (sources skipLists node).length + (sourcesIn skipLists (index + 1) nodes).length := by
  simp [sourcesIn]

mutual

theorem contributions_within (skipLists : Bool) (node : Node) :
    ∀ s ∈ contributions skipLists node, s.Within (sources skipLists node).length := by
  match node with
  | .text _ => simp [contributions]
  | .special _ _ => simp [contributions]
  | .element tag attributes children =>
    rw [contributions, sources]
    cases Role.of skipLists tag attributes with
    | lineBreak => simp
    | hidden => simp
    | checkBox => simp
    | content =>
      intro s hs
      rcases List.mem_append.mp hs with hs | hs
      · exact contributionsIn_within false 0 children s hs
      · obtain rfl := List.mem_singleton.mp hs
        simp [Contribution.Within]

theorem contributionsIn_within (skipLists : Bool) (index : Nat) (nodes : List Node) :
    ∀ s ∈ contributionsIn skipLists index nodes,
      s.Within (sourcesIn skipLists index nodes).length := by
  match nodes with
  | [] => simp [contributionsIn]
  | node :: nodes =>
    intro s hs
    rw [length_sourcesIn_cons]
    rcases List.mem_append.mp hs with hs | hs
    · obtain ⟨r, hr, rfl⟩ := List.mem_map.mp hs
      have hin := contributions_within skipLists node r hr
      simp only [Contribution.Within, Contribution.under] at hin ⊢
      omega
    · obtain ⟨r, hr, rfl⟩ := List.mem_map.mp hs
      have hin := contributionsIn_within skipLists (index + 1) nodes r hr
      simp only [Contribution.Within, Contribution.after] at hin ⊢
      omega

end

theorem allContributions_within (skipLists : Bool) (tag : String) (attributes : Attributes)
    (children : List Node) :
    ∀ s ∈ allContributions skipLists tag attributes children,
      s.Within (sourcesIn skipLists 0 children).length := by
  intro s hs
  rcases List.mem_append.mp hs with hs | hs
  · exact contributionsIn_within skipLists 0 children s hs
  · obtain rfl := List.mem_singleton.mp hs
    simp [Contribution.Within]

end Node

end MarkupCompiler
