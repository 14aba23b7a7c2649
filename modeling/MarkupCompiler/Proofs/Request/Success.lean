import MarkupCompiler.Proofs.Number.IntegerText
import MarkupCompiler.Proofs.Request.Arrangement

/-!
# When a run succeeds

A run succeeds exactly if each block has requests of its own and a level that has an indent, and if
the integers that are put on record can be written: the columns of tables, the ends of ranges that
are left out, and the positions of the blocks. From a positive index on, no position is longer than
the one where the run ends.
-/

namespace MarkupCompiler

/-- The indent of a nested list item exists. -/
def Block.LevelFits (b : Block) : Prop :=
  ∀ list, b.list? = some list → list.nestingLevel ≠ 0 →
    DecimalText.inRange (list.nestingLevel + 1) = true

/-- A block in its place has requests, an indent, and positions that can be written. -/
structure PlacedBlock.Passes (config : Config) (regions : List TableRegion) (p : PlacedBlock) :
    Prop where
  own : ∃ own, p.requests config regions = .ok own
  level : p.block.LevelFits
  start : IntegerText.isWritable p.start = true
  stop : IntegerText.isWritable p.stop = true

namespace ListGroup

theorem levelsFit_single (isOrdered : Bool) (item : InsertedItem) :
    (single isOrdered item).LevelsFit ↔
      (item.nestingLevel ≠ 0 → DecimalText.inRange (item.nestingLevel + 1) = true) := by
  simp [LevelsFit, nested, single]

theorem levelsFit_add (item : InsertedItem) (g : ListGroup) :
    (g.add item).LevelsFit ↔
      g.LevelsFit ∧
        (item.nestingLevel ≠ 0 → DecimalText.inRange (item.nestingLevel + 1) = true) := by
  simp only [LevelsFit, nested, add, List.filter_append, List.forall_mem_append]
  refine and_congr_right fun _ => ?_
  simp

end ListGroup

open PlacedBlock (place)

namespace Emission

variable {config : Config}

theorem levelsFit_none (cursor : Int) (requests : List Request) :
    LevelsFit ⟨cursor, requests, none⟩ := fun g hg => absurd hg (by simp)

theorem levelsFit_some {cursor : Int} {requests : List Request} {g : ListGroup} :
    LevelsFit ⟨cursor, requests, some g⟩ ↔ g.LevelsFit :=
  ⟨fun h => h g rfl, fun h _ hg => Option.some.inj hg ▸ h⟩

/-- A block is inserted, and the group that is open then can be closed. -/
theorem exists_insertBlock_iff {region? : Option TableRegion} {b : Block} {e : Emission} :
    (∃ e', e.insertBlock config region? b = .ok e' ∧ e'.LevelsFit) ↔
      e.LevelsFit ∧ b.LevelFits ∧ ∃ own, b.requestsAt config region? e.cursor = .ok own := by
  cases hlist : b.list? with
  | none =>
    have hlevel : b.LevelFits := fun list h => absurd (hlist.symm.trans h) (by simp)
    simp only [insertBlock_of_plain hlist]
    constructor
    · rintro ⟨_, ⟨hfit, own, hown, rfl⟩, -⟩
      exact ⟨hfit, hlevel, own, hown⟩
    · rintro ⟨hfit, -, own, hown⟩
      exact ⟨_, ⟨hfit, own, hown, rfl⟩, levelsFit_none _ _⟩
  | some list =>
    have hlevel : b.LevelFits ↔
        (list.nestingLevel ≠ 0 → DecimalText.inRange (list.nestingLevel + 1) = true) :=
      ⟨fun h => h list hlist, fun h _ hlist' => Option.some.inj (hlist.symm.trans hlist') ▸ h⟩
    by_cases hgroup : ∃ g, e.group? = some g ∧ g.isOrdered = list.ordered
    · obtain ⟨g, hg, hkind⟩ := hgroup
      have hfit : e.LevelsFit ↔ g.LevelsFit :=
        ⟨fun h => h g hg, fun h _ hg' => Option.some.inj (hg.symm.trans hg') ▸ h⟩
      simp only [insertBlock_of_next hlist hg hkind, hlevel, hfit]
      constructor
      · rintro ⟨_, ⟨own, hown, rfl⟩, hfits⟩
        obtain ⟨hg, hitem⟩ := (ListGroup.levelsFit_add _ g).mp (levelsFit_some.mp hfits)
        exact ⟨hg, hitem, own, hown⟩
      · rintro ⟨hg, hitem, own, hown⟩
        exact ⟨_, ⟨own, hown, rfl⟩,
          levelsFit_some.mpr ((ListGroup.levelsFit_add _ g).mpr ⟨hg, hitem⟩)⟩
    · have hother : ∀ g, e.group? = some g → g.isOrdered ≠ list.ordered :=
        fun g hg hkind => hgroup ⟨g, hg, hkind⟩
      simp only [insertBlock_of_first hlist hother, hlevel]
      constructor
      · rintro ⟨_, ⟨hfit, own, hown, rfl⟩, hfits⟩
        exact ⟨hfit, (ListGroup.levelsFit_single ..).mp (levelsFit_some.mp hfits), own, hown⟩
      · rintro ⟨hfit, hitem, own, hown⟩
        exact ⟨_, ⟨hfit, own, hown, rfl⟩,
          levelsFit_some.mpr ((ListGroup.levelsFit_single ..).mpr hitem)⟩

variable {regions : List TableRegion}

theorem cursor_of_addBlocks {index : Nat} {blocks : List Block} {e e' : Emission}
    (h : addBlocks config regions index blocks e = .ok e') :
    e'.cursor = e.cursor + (Block.stream blocks).length := by
  induction blocks generalizing index e with
  | nil =>
    obtain rfl := Except.ok.inj h
    simp
  | cons b blocks ih =>
    obtain ⟨e₁, hadd, hmore⟩ := addBlocks_cons_eq_ok_iff.mp h
    have hcursor := (exists_own_of_insertBlock (addBlock_eq_ok_iff.mp hadd).1).2
    rw [ih hmore, hcursor, Block.extent_eq, Block.stream_cons, List.length_append]
    omega

/-- Blocks are added, and the group that is open at the end can be closed, if all of them fit. -/
theorem exists_addBlocks_iff {index : Nat} {blocks : List Block} {e : Emission} :
    (∃ e', addBlocks config regions index blocks e = .ok e' ∧ e'.LevelsFit) ↔
      e.LevelsFit ∧ ∀ p ∈ place index e.cursor blocks, p.Passes config regions := by
  induction blocks generalizing index e with
  | nil => simp [addBlocks, place]
  | cons b blocks ih =>
    have hinsert : (∃ e', e.insertBlock config (TableRegion.startingAt? index regions) b = .ok e' ∧
        e'.LevelsFit) ↔ _ := exists_insertBlock_iff
    rw [place, List.forall_mem_cons]
    constructor
    · rintro ⟨e', hadd, hfits⟩
      obtain ⟨e₁, hb, hblocks⟩ := addBlocks_cons_eq_ok_iff.mp hadd
      obtain ⟨hinserted, hstart, hstop⟩ := addBlock_eq_ok_iff.mp hb
      have hcursor := (exists_own_of_insertBlock hinserted).2
      obtain ⟨hfits₁, hrest⟩ := ih.mp ⟨e', hblocks, hfits⟩
      obtain ⟨hfit, hlevel, hown⟩ := hinsert.mp ⟨e₁, hinserted, hfits₁⟩
      rw [hcursor] at hstop hrest
      exact ⟨hfit, ⟨hown, hlevel, hstart, hstop⟩, hrest⟩
    · rintro ⟨hfit, hb, hrest⟩
      obtain ⟨e₁, hinserted, hfits₁⟩ := hinsert.mpr ⟨hfit, hb.level, hb.own⟩
      have hcursor := (exists_own_of_insertBlock hinserted).2
      have hstop : IntegerText.isWritable e₁.cursor = true := hcursor ▸ hb.stop
      obtain ⟨e', hblocks, hfits⟩ := ih.mpr ⟨hfits₁, hcursor.symm ▸ hrest⟩
      exact ⟨e', addBlocks_cons_eq_ok_iff.mpr
        ⟨e₁, addBlock_eq_ok_iff.mpr ⟨hinserted, hb.start, hstop⟩, hblocks⟩, hfits⟩

end Emission

namespace Generator

variable {config : Config} {blocks : List Block} {start : Int}

theorem exists_run_iff :
    (∃ requests cursor, run config blocks start = (.ok requests, cursor)) ↔
      (∀ r ∈ TableRegion.measure blocks, IntegerText.isWritable r.columns = true) ∧
        IntegerText.isWritable start = true ∧
        IntegerText.isWritable (start + (Block.stream blocks).length) = true ∧
        ∀ p ∈ place 0 start blocks, p.Passes config (TableRegion.measure blocks) := by
  have hadded : (∃ e, Emission.addBlocks config (TableRegion.measure blocks) 0 blocks
      { cursor := start } = .ok e ∧ e.LevelsFit) ↔ _ := Emission.exists_addBlocks_iff
  simp only [run_eq_ok_iff, Emission.finish_eq_ok_iff]
  constructor
  · rintro ⟨requests, cursor, hcolumns, e, hadd, ⟨hfits, hstart, hstop, -⟩, -⟩
    rw [Emission.cursor_of_addBlocks hadd] at hstop
    exact ⟨hcolumns, hstart, hstop, (hadded.mp ⟨e, hadd, hfits⟩).2⟩
  · rintro ⟨hcolumns, hstart, hstop, hall⟩
    obtain ⟨e, hadd, hfits⟩ := hadded.mpr ⟨Emission.levelsFit_none _ _, hall⟩
    have hcursor : IntegerText.isWritable e.cursor = true := by
      rwa [Emission.cursor_of_addBlocks hadd]
    exact ⟨_, _, hcolumns, e, hadd, ⟨hfits, hstart, hcursor, rfl⟩, rfl⟩

/-- A run succeeds if something can be computed from its requests. -/
theorem exists_run_of_map_eq {α : Type} {f : List Request → α} {a : α}
    (h : (run config blocks start).1.toOption.map f = some a) :
    ∃ requests cursor, run config blocks start = (.ok requests, cursor) ∧ f requests = a := by
  obtain ⟨requests, hrequests, hf⟩ := Option.map_eq_some_iff.mp h
  rcases hrun : run config blocks start with ⟨result, cursor⟩
  rw [hrun] at hrequests
  cases result with
  | error fault => cases hrequests
  | ok value => exact ⟨requests, cursor, by cases hrequests; rfl, hf⟩

/-- From an index on that is not negative, the last position is the longest one. -/
theorem exists_run_iff_of_nonneg (hstart : 0 ≤ start) :
    (∃ requests cursor, run config blocks start = (.ok requests, cursor)) ↔
      (∀ r ∈ TableRegion.measure blocks, IntegerText.isWritable r.columns = true) ∧
        IntegerText.isWritable (start + (Block.stream blocks).length) = true ∧
        (∀ b ∈ blocks, b.LevelFits) ∧
        ∀ p ∈ place 0 start blocks, ∃ own, p.requests config (TableRegion.measure blocks) = .ok own := by
  have hblocks : (∀ b ∈ blocks, b.LevelFits) ↔ ∀ p ∈ place 0 start blocks, p.block.LevelFits := by
    rw [← List.forall_mem_map (f := PlacedBlock.block), PlacedBlock.map_block_place]
  rw [exists_run_iff, hblocks]
  refine and_congr_right fun _ => ?_
  constructor
  · rintro ⟨-, hstop, hall⟩
    exact ⟨hstop, fun p hp => (hall p hp).level, fun p hp => (hall p hp).own⟩
  · rintro ⟨hstop, hlevels, hown⟩
    refine ⟨IntegerText.isWritable_of_le hstart (by omega) hstop, hstop, fun p hp => ?_⟩
    obtain ⟨-, hlow, hhigh⟩ := PlacedBlock.bounds_of_mem_place hp
    have hstep : p.start ≤ p.stop := by
      have hpos := p.block.extent_pos
      unfold PlacedBlock.stop
      omega
    exact ⟨hown p hp, hlevels p hp, IntegerText.isWritable_of_le (by omega) (by omega) hstop,
      IntegerText.isWritable_of_le (by omega) hhigh hstop⟩

end Generator

end MarkupCompiler
