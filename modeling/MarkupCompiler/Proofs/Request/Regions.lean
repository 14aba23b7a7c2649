import MarkupCompiler.Proofs.Request.Tables
import MarkupCompiler.Proofs.Sequence.Longest

/-!
# One table for each run of cells

The regions of any blocks are their longest runs of cells of one table. A run that is broken off is
a region of its own when cells of the table come again. Each region is created once, in its size,
right before its first block is inserted; whether the block is a list item as well does not matter.
-/

namespace MarkupCompiler

namespace TableRegion

def ofRun (index : Nat) (before run : List Block) : TableRegion :=
  ⟨index + before.length, rowCount (run.filterMap Block.cell?),
    columnCount (run.filterMap Block.cell?)⟩

theorem ofRun_append (index : Nat) (front before run : List Block) :
    ofRun index (front ++ before) run = ofRun (index + front.length) before run := by
  rw [ofRun, ofRun, List.length_append, Nat.add_assoc]

theorem mem_measureFrom_append {index : Nat} {key : Option Int} {run rest : List Block}
    (hne : run ≠ []) (h : Runs.Leads tableOf? key run rest) {r : TableRegion} :
    r ∈ measureFrom index none (run ++ rest) ↔
      (∃ t, key = some t ∧ r = ofRun index [] run) ∨
        r ∈ measureFrom (index + run.length) none rest := by
  obtain ⟨first, run, rfl⟩ := List.exists_cons_of_ne_nil hne
  cases key with
  | none =>
    rw [measureFrom_of_plain fun b hb => tableOf?_eq_none_iff.mp (h.same b hb)]
    simp
  | some t =>
    rw [measureFrom_of_cells h, List.mem_cons]
    simp [ofRun]

/-- What is measured are the longest runs of cells of one table. -/
theorem mem_measureFrom {index : Nat} {blocks : List Block} {r : TableRegion} :
    r ∈ measureFrom index none blocks ↔ ∃ before run after t,
      (blocks = before ++ (run ++ after) ∧
        Runs.Maximal tableOf? (some t) before run after) ∧ r = ofRun index before run := by
  induction blocks using Runs.run_induction tableOf? generalizing index with
  | nil =>
    constructor
    · intro h
      exact absurd h List.not_mem_nil
    · rintro ⟨before, run, after, t, ⟨hsplit, hrun⟩, -⟩
      have hnil := (List.append_eq_nil_iff.mp hsplit.symm).2
      exact absurd (List.append_eq_nil_iff.mp hnil).1 hrun.ne_nil
  | run first run rest hleads ih =>
    have hne : first :: run ≠ [] := List.cons_ne_nil first run
    rw [mem_measureFrom_append hne hleads, ih]
    simp only [hleads.maximal_iff hne]
    constructor
    · rintro (⟨t, hkey, hr⟩ | ⟨before, mid, after, t, ⟨hsplit, hmid⟩, hr⟩)
      · exact ⟨[], first :: run, rest, t, .inl ⟨rfl, rfl, rfl, hkey.symm⟩, hr⟩
      · refine ⟨first :: run ++ before, mid, after, t, .inr ⟨before, rfl, hsplit, hmid⟩, ?_⟩
        rw [hr, ofRun_append]
    · rintro ⟨before, mid, after, t, ⟨rfl, rfl, rfl, hkey⟩ | ⟨front, rfl, hsplit, hmid⟩, hr⟩
      · exact .inl ⟨t, hkey.symm, hr⟩
      · refine .inr ⟨front, mid, after, t, ⟨hsplit, hmid⟩, ?_⟩
        rw [hr, ofRun_append]

/--
A region has the place and the size of a run of cells: as many rows as the cells have different row
indices, and the columns up to where the last of them ends.
-/
structure Sizes (before run : List Block) (r : TableRegion) : Prop where
  position_eq : r.position = before.length
  rows_eq : r.rows = ((run.filterMap Block.cell?).map CellGeometry.rowIndex).toFinset.card
  columns_eq : IsGreatest
    {stop | ∃ cell ∈ run.filterMap Block.cell?, stop = cell.columnIndex + cell.columnSpan}
    r.columns

/-- Cells stand in columns and take up at least one. -/
def HasColumns (blocks : List Block) : Prop :=
  ∀ b ∈ blocks, ∀ cell ∈ b.cell?, 0 ≤ cell.columnIndex ∧ 1 ≤ cell.columnSpan

instance (blocks : List Block) : Decidable (HasColumns blocks) :=
  inferInstanceAs (Decidable (∀ b ∈ blocks, ∀ cell ∈ b.cell?, _))

theorem sizes_iff {before run : List Block} {t : Int} (hne : run ≠ [])
    (hcells : ∀ b ∈ run, tableOf? b = some t) (hcolumns : HasColumns run) {r : TableRegion} :
    r.Sizes before run ↔ r = ofRun 0 before run := by
  have hpos : ∀ cell ∈ run.filterMap Block.cell?, 0 ≤ cell.columnStop := by
    intro cell hcell
    obtain ⟨b, hb, hcell⟩ := List.mem_filterMap.mp hcell
    obtain ⟨hindex, hspan⟩ := hcolumns b hb cell hcell
    unfold CellGeometry.columnStop
    omega
  have hnonempty : run.filterMap Block.cell? ≠ [] := by
    obtain ⟨first, run, rfl⟩ := List.exists_cons_of_ne_nil hne
    obtain ⟨cell, hcell, -⟩ := Option.map_eq_some_iff.mp (hcells first List.mem_cons_self)
    rw [List.filterMap_cons_some hcell]
    exact List.cons_ne_nil _ _
  have hgreatest := columnCount_isGreatest hnonempty hpos
  constructor
  · intro h
    obtain ⟨position, rows, columns⟩ := r
    obtain ⟨rfl, rfl, hcolumns⟩ := h
    obtain rfl := hcolumns.unique hgreatest
    simp [ofRun, rowCount]
  · rintro rfl
    exact ⟨Nat.zero_add _, rfl, hgreatest⟩

end TableRegion

open TableRegion (measure tableOf? HasColumns)

open PlacedBlock (place)

namespace Generator

/-- The table regions of blocks are created: the longest runs of cells, each once. -/
structure RegionsCreated (start : Int) (blocks : List Block) (requests : List Request) : Prop where
  /-- A region is listed once, since no two of them begin at the same block. -/
  ascending : (measure blocks).Pairwise fun r s => r.position < s.position
  /-- What is measured are the longest runs of consecutive cells of one table. -/
  mem_iff : ∀ r, r ∈ measure blocks ↔ ∃ before run after t,
    blocks = before ++ (run ++ after) ∧ Runs.Maximal tableOf? (some t) before run after ∧
      r.Sizes before run
  /-- The tables that are created are the regions, in order and in their sizes. -/
  created : requests.filterMap Request.createdTable? =
    (measure blocks).map fun r =>
      r.createdAt (start + (Block.stream (blocks.take r.position)).length)
  /-- Right behind a creation, and at its position, the first block of the region is inserted. -/
  adjacent : ∀ r ∈ measure blocks, ∃ p earlier later,
    (place 0 start blocks)[r.position]? = some p ∧
      requests = earlier ++ .createTable p.start r.rows r.columns ::
        .insertText p.start (p.block.text ++ ['\n']) :: later ∧
      earlier.filterMap Request.insertion? =
        ((place 0 start blocks).take r.position).map fun q => (q.start, q.block.text ++ ['\n'])

/-- The blocks of any call that succeeds have one table created for each longest run of cells. -/
theorem generate_regions_created {blocks : List Block} {start : Int} {g g' : Generator}
    {requests : List Request} (hcolumns : HasColumns blocks)
    (h : generate blocks (.int start) g = (.ok requests, g')) :
    RegionsCreated start blocks requests := by
  obtain ⟨own, harranged⟩ := exists_arranged h
  have hsorted := (TableRegion.positions_measureFrom 0 blocks).1
  constructor
  case ascending => exact hsorted
  case mem_iff =>
    intro r
    refine TableRegion.mem_measureFrom.trans ?_
    constructor
    · rintro ⟨before, run, after, t, ⟨rfl, hrun⟩, hr⟩
      have hmem : HasColumns run := fun b hb => hcolumns b (by simp [hb])
      exact ⟨before, run, after, t, rfl, hrun,
        (TableRegion.sizes_iff hrun.ne_nil hrun.same hmem).mpr hr⟩
    · rintro ⟨before, run, after, t, rfl, hrun, hr⟩
      have hmem : HasColumns run := fun b hb => hcolumns b (by simp [hb])
      exact ⟨before, run, after, t, ⟨rfl, hrun⟩,
        (TableRegion.sizes_iff hrun.ne_nil hrun.same hmem).mp hr⟩
  case created =>
    rw [harranged.requests_eq]
    exact PlacedBlock.createdTables_arrange harranged.own_eq
  case adjacent =>
    intro r hr
    obtain ⟨before, run, after, t, ⟨rfl, hrun⟩, hofRun⟩ := TableRegion.mem_measureFrom.mp hr
    have hposition : r.position = before.length := by
      rw [hofRun]
      exact Nat.zero_add _
    obtain ⟨b, run, rfl⟩ := List.exists_cons_of_ne_nil hrun.ne_nil
    have hfound := TableRegion.startingAt?_of_mem hsorted hr
    rw [hposition] at hfound ⊢
    have hrest : b :: run ++ after ≠ [] := List.cons_ne_nil _ _
    obtain ⟨earlier, text, later, hrequests, hearlier, hlater⟩ :=
      exists_creation harranged hfound hrest rfl
    have hplace : place 0 start (before ++ (b :: run ++ after)) = place 0 start before ++
        place before.length (start + (Block.stream before).length) (b :: run ++ after) := by
      rw [PlacedBlock.place_append, Nat.zero_add]
    -- The insertion behind the creation is the first of those of the run.
    obtain rfl : text = b.inserted := congrArg Prod.snd (List.cons.inj hlater).1
    refine ⟨⟨before.length, start + (Block.stream before).length, b⟩, earlier, later, ?_, hrequests,
      ?_⟩
    · rw [hplace, List.getElem?_append_right (by simp)]
      simp [place]
    · rw [hplace, List.take_left' (by simp)]
      exact hearlier

/-- A table that comes again behind another one is created again; one cell is a list item too. -/
theorem generate_regions_created_again :
    let blocks : List Block :=
      [{ text := ['a'], list? := some { ordered := false },
          cell? := some { rowIndex := 0, columnIndex := 0 } },
        { text := ['b'], cell? := some { rowIndex := 2, columnIndex := 1, columnSpan := 2 } },
        { text := ['c'], cell? := some { rowIndex := 0, columnIndex := 0, tableIndex := 1 } },
        { text := ['d'], cell? := some { rowIndex := 3, columnIndex := 0 } }]
    let requests : List Request :=
      [.createTable 1 2 3, .insertText 1 ['a', '\n'], .setParagraphStyle 1 3 .normal,
        .setListBullet 1 2 false, .insertText 3 ['b', '\n'], .setParagraphStyle 3 5 .normal,
        .createTable 5 1 1, .insertText 5 ['c', '\n'], .setParagraphStyle 5 7 .normal,
        .createTable 7 1 1, .insertText 7 ['d', '\n'], .setParagraphStyle 7 9 .normal]
    HasColumns blocks ∧ generate blocks (.int 1) {} = (.ok requests, { cursor := 9 }) ∧
      RegionsCreated 1 blocks requests := by
  intro blocks requests
  have hcolumns : HasColumns blocks := by decide
  have hgenerate : generate blocks (.int 1) {} = (.ok requests, { cursor := 9 }) :=
    generate_of_run (by decide) (by decide +kernel)
  exact ⟨hcolumns, hgenerate, generate_regions_created hcolumns hgenerate⟩

end Generator

end MarkupCompiler
