import MarkupCompiler.Proofs.Collected.Exact
import MarkupCompiler.Proofs.Interval.Painting

/-!
# Which of several elements decides a slot

Elements are left from the inside out, so of two contributions the earlier one lies inside the later
one or before it. The elements that cover a position and set a slot therefore enclose each other.
Sorting by start puts those that start latest last, and among these the outermost. That one decides
the slot; the innermost element decides it only where no element around it starts with it.
-/

namespace MarkupCompiler

namespace Contribution

/-- The first element lies inside the second one. -/
structure Inside (inner outer : Contribution) : Prop where
  place_extends : outer.place <+: inner.place
  place_ne : outer.place ≠ inner.place
  first_le : outer.first ≤ inner.first
  last_le : inner.first + inner.count ≤ outer.first + outer.count

def LeftBefore (a b : Contribution) : Prop := a.Inside b ∨ a.first + a.count ≤ b.first

theorem LeftBefore.under {a b : Contribution} (h : a.LeftBefore b) (index : Nat) :
    (a.under index).LeftBefore (b.under index) := by
  rcases h with h | h
  · refine Or.inl ⟨?_, ?_, h.first_le, h.last_le⟩
    · exact List.cons_prefix_cons.mpr ⟨rfl, h.place_extends⟩
    · intro heq
      exact h.place_ne (List.cons.inj heq).2
  · exact Or.inr h

theorem LeftBefore.after {a b : Contribution} (h : a.LeftBefore b) (earlier : Nat) :
    (a.after earlier).LeftBefore (b.after earlier) := by
  rcases h with h | h
  · refine Or.inl ⟨h.place_extends, h.place_ne, ?_, ?_⟩
    · exact Nat.add_le_add_left h.first_le earlier
    · have := h.last_le
      simp only [Contribution.after]
      omega
  · refine Or.inr ?_
    simp only [Contribution.after]
    omega

end Contribution

namespace Node

open Contribution (LeftBefore)

theorem contributionsIn_leftBefore_root {skipLists : Bool} {nodes : List Node}
    (style : TextStyle) :
    ∀ m ∈ contributionsIn skipLists 0 nodes,
      m.LeftBefore ⟨[], style, 0, (sourcesIn skipLists 0 nodes).length⟩ := by
  intro m hm
  obtain ⟨i, rest, -, hplace⟩ := exists_place_of_mem_contributionsIn hm
  have hin := contributionsIn_within skipLists 0 nodes m hm
  rw [Contribution.Within] at hin
  refine Or.inl ⟨List.nil_prefix, ?_, Nat.zero_le _, by simpa using hin⟩
  rw [hplace]
  exact (List.cons_ne_nil _ _).symm

mutual

theorem contributions_pairwise (skipLists : Bool) (node : Node) :
    (contributions skipLists node).Pairwise LeftBefore := by
  match node with
  | .text _ => simp [contributions]
  | .special _ _ => simp [contributions]
  | .element tag attributes children =>
    rw [contributions]
    cases Role.of skipLists tag attributes with
    | lineBreak => exact List.Pairwise.nil
    | hidden => exact List.Pairwise.nil
    | checkBox => exact List.Pairwise.nil
    | content =>
      refine List.pairwise_append.mpr ⟨contributionsIn_pairwise false 0 children,
        List.pairwise_singleton _ _, fun m hm r hr => ?_⟩
      obtain rfl := List.mem_singleton.mp hr
      exact contributionsIn_leftBefore_root _ m hm

theorem contributionsIn_pairwise (skipLists : Bool) (index : Nat) (nodes : List Node) :
    (contributionsIn skipLists index nodes).Pairwise LeftBefore := by
  match nodes with
  | [] => exact List.Pairwise.nil
  | node :: nodes =>
    have hnode := contributions_pairwise skipLists node
    have hnodes := contributionsIn_pairwise skipLists (index + 1) nodes
    refine List.pairwise_append.mpr ⟨?_, ?_, fun m hm r hr => ?_⟩
    · exact List.pairwise_map.mpr (hnode.imp fun h => h.under index)
    · exact List.pairwise_map.mpr (hnodes.imp fun h => h.after _)
    · obtain ⟨m', hm', rfl⟩ := List.mem_map.mp hm
      obtain ⟨r', -, rfl⟩ := List.mem_map.mp hr
      have hin := contributions_within skipLists node m' hm'
      rw [Contribution.Within] at hin
      refine Or.inr ?_
      simp only [Contribution.under, Contribution.after]
      omega

end

theorem allContributions_pairwise (skipLists : Bool) (tag : String) (attributes : Attributes)
    (children : List Node) :
    (allContributions skipLists tag attributes children).Pairwise LeftBefore := by
  refine List.pairwise_append.mpr ⟨contributionsIn_pairwise skipLists 0 children,
    List.pairwise_singleton _ _, fun m hm r hr => ?_⟩
  obtain rfl := List.mem_singleton.mp hr
  exact contributionsIn_leftBefore_root _ m hm

end Node

namespace Contribution

variable {t : Text} {a b : Contribution}

/-- Of an element inside another one, the interval lies inside that of the other one. -/
theorem Inside.intervalIn (h : a.Inside b) (ha : 0 < a.count)
    (hb : b.Within (Text.solids t).length) :
    (b.intervalIn t).start ≤ (a.intervalIn t).start ∧
      (a.intervalIn t).stop ≤ (b.intervalIn t).stop := by
  obtain ⟨-, -, hfirst, hlast⟩ := h
  rw [Within] at hb
  have hstart := Text.solidPosition_le (t := t) hfirst (by omega)
  have hstop := Text.solidPosition_le (t := t)
    (j := a.first + a.count - 1) (k := b.first + b.count - 1) (by omega) (by omega)
  simp only [Contribution.intervalIn]
  omega

/-- Of an element before another one, the interval ends where that of the other one starts, or earlier. -/
theorem intervalIn_stop_le_start (h : a.first + a.count ≤ b.first) (ha : 0 < a.count)
    (hb : 0 < b.count) (hin : b.Within (Text.solids t).length) :
    (a.intervalIn t).stop ≤ (b.intervalIn t).start := by
  rw [Within] at hin
  have hlt := Text.solidPosition_lt (t := t)
    (j := a.first + a.count - 1) (k := b.first) (by omega) (by omega)
  simp only [Contribution.intervalIn]
  omega

/-- The element has the slot, and its interval in the text covers the position. -/
def Reaches (t : Text) (p : Int) (k : Slot) (m : Contribution) : Bool :=
  m.isStyled && (m.intervalIn t).covers p && (m.style.slot k).isSome

/-- Elements that reach one position enclose each other. -/
theorem LeftBefore.inside_of_reaches {p : Int} {k : Slot} (h : a.LeftBefore b)
    (ha : a.Reaches t p k = true) (hb : b.Reaches t p k = true)
    (hin : b.Within (Text.solids t).length) : a.Inside b := by
  simp only [Reaches, Bool.and_eq_true, isStyled_iff, StyleInterval.covers_iff] at ha hb
  rcases h with h | h
  · exact h
  · have hstop := intervalIn_stop_le_start h ha.1.1.2 hb.1.1.2 hin
    omega

end Contribution

end MarkupCompiler
