import Mathlib.Algebra.GroupWithZero.Nat
import MarkupCompiler.Proofs.Block.Event

/-!
# What the events of a walk take

Of each solid character, the blocks hold as many as the events of the walk take, whatever becomes of
the pieces on the way. So characters can be counted event by event.
-/

namespace MarkupCompiler

variable {c : Char}

namespace Table

/-- The text of captions does not depend on where the table stands. -/
theorem texts_captionBlocks (around other : Surroundings) (table : List Node) :
    (captionBlocks around table).flatMap Block.text =
      (captionBlocks other table).flatMap Block.text := by
  rw [captionBlocks, captionBlocks, List.filterMap_eq_flatMap_toList,
    List.filterMap_eq_flatMap_toList, List.flatMap_assoc, List.flatMap_assoc]
  refine List.flatMap_congr fun node _ => ?_
  cases node with
  | text content => rfl
  | special kind content => rfl
  | element tag attributes children =>
    dsimp only
    split
    · rfl
    · rfl

end Table

namespace Event

/-- How often a character is in what an event takes. -/
def gain (c : Char) : Event → Nat
  | .loose site => site.collected.text.count c
  | .paragraph site => site.collected.text.count c
  | .item site _ _ =>
    (CollectedText.ofElement true false site.node.tag site.node.attributes
      site.node.children).text.count c
  | .table site =>
    ((Table.captionBlocks {} site.node.children ++
      Table.cellBlocks 0 site.node.children).flatMap Block.text).count c
  | _ => 0

end Event

namespace Extraction

theorem count_taken (hc : Text.isSolid c = true) (e : Extraction) :
    e.taken.count c = (e.blocks.flatMap Block.text).count c + e.loose.text.count c := by
  rw [taken, List.count_append, Text.count_solids hc, Text.count_solids hc]

theorem count_taken_addBlock (hc : Text.isSolid c = true) (e : Extraction) (block : Block) :
    (e.addBlock block).taken.count c = e.taken.count c + block.text.count c := by
  rw [count_taken hc, count_taken hc]
  simp [addBlock]
  omega

theorem count_taken_addTable (hc : Text.isSolid c = true) (e : Extraction) (around : Surroundings)
    (table : List Node) :
    (e.addTable around table).taken.count c = e.taken.count c +
      ((Table.captionBlocks {} table ++ Table.cellBlocks 0 table).flatMap Block.text).count c := by
  rw [count_taken hc, count_taken hc, List.flatMap_append, Table.texts_captionBlocks {} around,
    Table.texts_cellBlocks 0, ← Table.texts_cellBlocks e.tableCount]
  simp [addTable]
  omega

end Extraction

namespace Event

/-- An event adds what it takes. -/
theorem count_apply (hc : Text.isSolid c = true) (place : TextKind) (event : Event)
    (e : Extraction) :
    (apply place e event).taken.count c = e.taken.count c + event.gain c := by
  cases event with
  | loose site =>
    obtain ⟨around, index, node⟩ := site
    cases node with
    | text content =>
      have hnormal := congrArg (List.count c) (Text.solids_normalize content)
      rw [Text.count_solids hc] at hnormal
      rw [apply, Extraction.taken_addLooseText, List.count_append, ← hnormal]
      rfl
    | special kind content => rfl
    | element tag attributes children =>
      rw [apply, Extraction.taken_addLooseElement, List.count_append, Text.count_solids hc]
      rfl
  | flush around => exact congrArg (List.count c) (Extraction.taken_flushLoose _ e)
  | lineBreak => exact congrArg (List.count c) (Extraction.taken_addLineBreak e)
  | paragraph site =>
    rw [apply]
    split
    · exact Extraction.count_taken_addBlock hc e _
    · next hnone =>
      have hempty : site.collected.text = [] := by
        rw [Site.isParagraph, Bool.or_eq_true, not_or] at hnone
        simpa using hnone.2
      rw [gain, hempty]
      rfl
  | list way ordered level => rfl
  | item site ordered level => exact Extraction.count_taken_addBlock hc _ _
  | table site => exact Extraction.count_taken_addTable hc e _ _

theorem count_run (hc : Text.isSolid c = true) (place : TextKind) (events : List Event)
    (e : Extraction) :
    (run place events e).taken.count c = e.taken.count c + (events.map (gain c)).sum := by
  induction events generalizing e with
  | nil => rfl
  | cons event events ih =>
    rw [run_cons, ih, count_apply hc, List.map_cons, List.sum_cons, Nat.add_assoc]

end Event

/-- The texts of the blocks hold each solid character as often as the events take it. -/
theorem Block.count_ofRoot (hc : Text.isSolid c = true) (root : Root) :
    ((ofRoot root).flatMap Block.text).count c = (root.events.map (Event.gain c)).sum := by
  have hflushed : ∃ events, root.events = events ++ [.flush []] := by
    cases root with
    | document children => exact ⟨_, rfl⟩
    | element place tag attributes children => exact ⟨_, rfl⟩
  obtain ⟨events, hevents⟩ := hflushed
  have htaken : Text.solids ((ofRoot root).flatMap Block.text) =
      (Event.run root.place events {}).taken := by
    rw [ofRoot_eq_run, hevents, Event.run_append]
    exact Extraction.solids_texts_flushLoose _ _
  have hrun := Event.count_run hc root.place events {}
  rw [← Text.count_solids hc, htaken, hrun, hevents]
  simp [Event.gain, Extraction.taken]

end MarkupCompiler
