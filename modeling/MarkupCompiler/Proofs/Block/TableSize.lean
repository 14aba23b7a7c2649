import MarkupCompiler.Proofs.Block.TableRegion
import MarkupCompiler.Proofs.Block.Tables
import Mathlib.Order.Bounds.Basic

/-!
# Sizes of tables

The cells of a table are measured as a region with as many rows as the table has rows with cells,
and as many columns as its widest row reaches when the spans of its cells are taken as read.
-/

namespace MarkupCompiler

namespace Table

/-- The rows of a table that have cells, each as its cells. -/
def filledRows (table : List Node) : List (List (String × Attributes × List Node)) :=
  ((rowsOf table).map cellsOf).filter fun row => !row.isEmpty

/-- Where the cells of a table end, in columns: their places in their rows and their spans. -/
def columnStops (table : List Node) : Set Int :=
  {stop | ∃ row ∈ filledRows table, ∃ (column : Nat) (cell : String × Attributes × List Node),
    row[column]? = some cell ∧ stop = column + span cell.2.1 "colspan"}

theorem ne_nil_of_mem_filledRows {table : List Node} {row : List (String × Attributes × List Node)}
    (h : row ∈ filledRows table) : row ≠ [] := by
  have hfilled := (List.mem_filter.mp h).2
  rintro rfl
  exact absurd hfilled (by simp)

/-- The blocks of a table are those of its cells, counted by rows and columns. -/
theorem mem_cellBlocks {n : Nat} {table : List Node} {b : Block} :
    b ∈ cellBlocks n table ↔ ∃ (i j : Nat) (row : List (String × Attributes × List Node))
      (cell : String × Attributes × List Node), (filledRows table)[i]? = some row ∧
        row[j]? = some cell ∧ b = cellBlock n i j cell := by
  rw [cellBlocks, ← List.flatMap_def]
  constructor
  · intro h
    obtain ⟨⟨row, i⟩, hrow, h⟩ := List.mem_flatMap.mp h
    obtain ⟨⟨cell, j⟩, hcell, rfl⟩ := List.mem_map.mp h
    exact ⟨i, j, row, cell, List.mem_zipIdx_iff_getElem?.mp hrow,
      List.mem_zipIdx_iff_getElem?.mp hcell, rfl⟩
  · rintro ⟨i, j, row, cell, hrow, hcell, rfl⟩
    have hrow : (row, i) ∈ (filledRows table).zipIdx := List.mem_zipIdx_iff_getElem?.mpr hrow
    have hcell : (cell, j) ∈ row.zipIdx := List.mem_zipIdx_iff_getElem?.mpr hcell
    exact List.mem_flatMap.mpr ⟨(row, i), hrow, List.mem_map.mpr ⟨(cell, j), hcell, rfl⟩⟩

theorem cellBlocks_eq_nil_iff {n : Nat} {table : List Node} :
    cellBlocks n table = [] ↔ filledRows table = [] := by
  constructor
  · intro h
    by_contra hrows
    obtain ⟨row, rows, hrows⟩ := List.exists_cons_of_ne_nil hrows
    have hrow : row ∈ filledRows table := by
      rw [hrows]
      exact List.mem_cons_self
    obtain ⟨cell, cells, rfl⟩ := List.exists_cons_of_ne_nil (ne_nil_of_mem_filledRows hrow)
    have hmem : cellBlock n 0 0 cell ∈ cellBlocks n table :=
      mem_cellBlocks.mpr ⟨0, 0, cell :: cells, cell, by rw [hrows]; rfl, rfl, rfl⟩
    rw [h] at hmem
    exact absurd hmem List.not_mem_nil
  · intro h
    refine List.eq_nil_iff_forall_not_mem.mpr fun b hb => ?_
    obtain ⟨i, -, row, -, hrow, -⟩ := mem_cellBlocks.mp hb
    rw [h] at hrow
    exact absurd hrow (by simp)

theorem tableOf?_cellBlocks {n : Nat} {table : List Node} :
    ∀ b ∈ cellBlocks n table, TableRegion.tableOf? b = some (n : Int) := by
  intro b hb
  obtain ⟨i, j, row, cell, -, -, rfl⟩ := mem_cellBlocks.mp hb
  rfl

theorem span_pos (attributes : Attributes) (name : String) : 1 ≤ span attributes name := by
  rw [span]
  split
  · split
    · exact Int.le_refl 1
    · split
      · exact Int.le_refl 1
      · omega
  · exact Int.le_refl 1

end Table

namespace TableRegion

/-- If some cell reaches a column, the count is the last column that a cell reaches. -/
theorem columnCount_isGreatest {cells : List CellGeometry} (hne : cells ≠ [])
    (hpos : ∀ cell ∈ cells, 0 ≤ cell.columnStop) :
    IsGreatest {stop | ∃ cell ∈ cells, stop = cell.columnStop} (columnCount cells) := by
  obtain ⟨stop, hmax⟩ := Option.isSome_iff_exists.mp
    (List.isSome_max?_iff.mpr (mt List.map_eq_nil_iff.mp hne :
      cells.map CellGeometry.columnStop ≠ []))
  obtain ⟨hmem, hbound⟩ := List.max?_eq_some_iff.mp hmax
  obtain ⟨cell, hcell, rfl⟩ := List.mem_map.mp hmem
  have hcount : columnCount cells = cell.columnStop := by
    have hstop := hpos cell hcell
    rw [columnCount, List.foldl_max, hmax]
    exact max_eq_right hstop
  rw [hcount]
  constructor
  · exact ⟨cell, hcell, rfl⟩
  · rintro stop ⟨other, hother, rfl⟩
    exact hbound _ (List.mem_map_of_mem hother)

end TableRegion

namespace Table

open TableRegion (rowCount columnCount columnCount_isGreatest)

variable {n : Nat} {table : List Node}

theorem mem_geometry {cell : CellGeometry} :
    cell ∈ (cellBlocks n table).filterMap Block.cell? ↔ ∃ (i j : Nat)
      (row : List (String × Attributes × List Node)) (node : String × Attributes × List Node),
        (filledRows table)[i]? = some row ∧ row[j]? = some node ∧
          cell = ⟨i, j, span node.2.1 "rowspan", span node.2.1 "colspan", n⟩ := by
  rw [List.mem_filterMap]
  constructor
  · rintro ⟨b, hb, hcell⟩
    obtain ⟨i, j, row, node, hrow, hnode, rfl⟩ := mem_cellBlocks.mp hb
    exact ⟨i, j, row, node, hrow, hnode, (Option.some.inj hcell).symm⟩
  · rintro ⟨i, j, row, node, hrow, hnode, rfl⟩
    exact ⟨_, mem_cellBlocks.mpr ⟨i, j, row, node, hrow, hnode, rfl⟩, rfl⟩

theorem rowCount_cellBlocks :
    rowCount ((cellBlocks n table).filterMap Block.cell?) = (filledRows table).length := by
  have hrows : (((cellBlocks n table).filterMap Block.cell?).map CellGeometry.rowIndex).toFinset =
      (Finset.range (filledRows table).length).image (Nat.cast : Nat → Int) := by
    ext r
    rw [List.mem_toFinset, List.mem_map, Finset.mem_image]
    constructor
    · rintro ⟨cell, hcell, rfl⟩
      obtain ⟨i, j, row, node, hrow, -, rfl⟩ := mem_geometry.mp hcell
      obtain ⟨hi, -⟩ := List.getElem?_eq_some_iff.mp hrow
      exact ⟨i, Finset.mem_range.mpr hi, rfl⟩
    · rintro ⟨i, hi, rfl⟩
      have hi := Finset.mem_range.mp hi
      -- Every counted row has a first cell.
      obtain ⟨node, nodes, hrow⟩ := List.exists_cons_of_ne_nil
        (ne_nil_of_mem_filledRows (List.getElem_mem hi))
      refine ⟨_, mem_geometry.mpr ⟨i, 0, _, node, List.getElem?_eq_getElem hi, ?_, rfl⟩, rfl⟩
      rw [hrow]
      rfl
  have hcast : Function.Injective (Nat.cast : Nat → Int) := fun i j h => Int.ofNat.inj h
  rw [rowCount, hrows, Finset.card_image_of_injective _ hcast, Finset.card_range]

theorem columnCount_cellBlocks (h : filledRows table ≠ []) :
    IsGreatest (columnStops table) (columnCount ((cellBlocks n table).filterMap Block.cell?)) := by
  have hpos : ∀ cell ∈ (cellBlocks n table).filterMap Block.cell?, 0 ≤ cell.columnStop := by
    intro cell hcell
    obtain ⟨i, j, row, node, -, -, rfl⟩ := mem_geometry.mp hcell
    have hspan := span_pos node.2.1 "colspan"
    unfold CellGeometry.columnStop
    simp only
    omega
  have hne : (cellBlocks n table).filterMap Block.cell? ≠ [] := by
    have hblocks : cellBlocks n table ≠ [] := mt cellBlocks_eq_nil_iff.mp h
    obtain ⟨b, hb⟩ := List.exists_mem_of_ne_nil _ hblocks
    obtain ⟨i, j, row, node, hrow, hnode, rfl⟩ := mem_cellBlocks.mp hb
    exact List.ne_nil_of_mem (mem_geometry.mpr ⟨i, j, row, node, hrow, hnode, rfl⟩)
  have hstops : columnStops table =
      {stop | ∃ cell ∈ (cellBlocks n table).filterMap Block.cell?, stop = cell.columnStop} := by
    ext stop
    constructor
    · rintro ⟨row, hrow, j, node, hnode, rfl⟩
      obtain ⟨i, hi⟩ := List.mem_iff_getElem?.mp hrow
      exact ⟨_, mem_geometry.mpr ⟨i, j, row, node, hi, hnode, rfl⟩, rfl⟩
    · rintro ⟨cell, hcell, rfl⟩
      obtain ⟨i, j, row, node, hrow, hnode, rfl⟩ := mem_geometry.mp hcell
      exact ⟨row, List.mem_of_getElem? hrow, j, node, hnode, rfl⟩
  rw [hstops]
  exact columnCount_isGreatest hne hpos

end Table

namespace Block

theorem exists_of_mem_lengthened {bs cells : List Block} (h : List.Forall₂ Lengthens bs cells)
    {cell : Block} (hcell : cell ∈ cells) : ∃ b ∈ bs, b.Lengthens cell := by
  induction h with
  | nil => exact absurd hcell List.not_mem_nil
  | @cons b c bs cells hc _ ih =>
    rcases List.mem_cons.mp hcell with rfl | hcell
    · exact ⟨b, List.mem_cons_self, hc⟩
    · obtain ⟨b', hb', hlengthens⟩ := ih hcell
      exact ⟨b', List.mem_cons_of_mem b hb', hlengthens⟩

theorem filterMap_cell?_lengthened {bs cells : List Block} (h : List.Forall₂ Lengthens bs cells) :
    cells.filterMap Block.cell? = bs.filterMap Block.cell? := by
  induction h with
  | nil => rfl
  | cons hc _ ih => rw [List.filterMap_cons, List.filterMap_cons, hc.cell_eq, ih]

end Block

open TableRegion (tableOf? measureFrom)

/--
A region holds the cells of a numbered table, and no other block is a cell of that table. The blocks
are counted from `index` on, and the tables are numbered from `lowest` on.
-/
structure TableRegion.Holds (index lowest : Nat) (blocks : List Block) (numbered : List Node × Nat)
    (r : TableRegion) : Prop where
  number_ge : lowest ≤ numbered.2
  stands : ∃ before cells after, blocks = before ++ cells ++ after ∧
    r.position = index + before.length ∧
    List.Forall₂ Block.Lengthens (Table.cellBlocks numbered.2 numbered.1) cells ∧
    ∀ b ∈ before ++ after, tableOf? b ≠ some (numbered.2 : Int)
  rows_eq : r.rows = (Table.filledRows numbered.1).length
  columns_eq : IsGreatest (Table.columnStops numbered.1) r.columns

theorem TableRegion.Holds.behind {index lowest lower : Nat} {blocks front : List Block}
    {numbered : List Node × Nat} {r : TableRegion}
    (h : Holds (index + front.length) lowest blocks numbered r) (hlower : lower ≤ lowest)
    (hfront : ∀ b ∈ front, tableOf? b ≠ some (numbered.2 : Int)) :
    Holds index lower (front ++ blocks) numbered r := by
  obtain ⟨before, cells, after, rfl, hposition, hcells, hothers⟩ := h.stands
  refine ⟨Nat.le_trans hlower h.number_ge, ?_, h.rows_eq, h.columns_eq⟩
  refine ⟨front ++ before, cells, after, ?_, ?_, hcells, ?_⟩
  · simp only [List.append_assoc]
  · rw [hposition, List.length_append]
    omega
  · intro b hb
    rw [List.append_assoc] at hb
    rcases List.mem_append.mp hb with hb | hb
    · exact hfront b hb
    · exact hothers b hb

theorem TableRegion.Holds.bounded {index lowest : Nat} {blocks : List Block} {table : List Node}
    {number : Nat} {r : TableRegion} (h : Holds index lowest blocks (table, number) r) {b : Block}
    (hb : b ∈ blocks) {cell : CellGeometry} (hcell : b.cell? = some cell)
    (hnumber : cell.tableIndex = number) :
    0 ≤ cell.rowIndex ∧ cell.rowIndex < r.rows ∧ 0 ≤ cell.columnIndex ∧
      cell.columnIndex + cell.columnSpan ≤ r.columns := by
  obtain ⟨before, cells, after, rfl, -, hcells, hothers⟩ := h.stands
  have htable : tableOf? b = some (number : Int) := by
    rw [tableOf?, hcell, ← hnumber]
    rfl
  have hmem : b ∈ cells := by
    rcases List.mem_append.mp hb with hb | hb
    · rcases List.mem_append.mp hb with hb | hb
      · exact absurd htable (hothers b (List.mem_append_left _ hb))
      · exact hb
    · exact absurd htable (hothers b (List.mem_append_right _ hb))
  obtain ⟨b', hb', hlengthens⟩ := Block.exists_of_mem_lengthened hcells hmem
  have hgeometry : cell ∈ (Table.cellBlocks number table).filterMap Block.cell? :=
    List.mem_filterMap.mpr ⟨b', hb', hlengthens.cell_eq.symm.trans hcell⟩
  obtain ⟨i, j, row, node, hrow, hnode, rfl⟩ := Table.mem_geometry.mp hgeometry
  obtain ⟨hi, -⟩ := List.getElem?_eq_some_iff.mp hrow
  have hrows : r.rows = (Table.filledRows table).length := h.rows_eq
  have hstop := h.columns_eq.2 ⟨row, List.mem_of_getElem? hrow, j, node, hnode, rfl⟩
  refine ⟨Int.natCast_nonneg i, ?_, Int.natCast_nonneg j, hstop⟩
  show (i : Int) < r.rows
  omega

namespace Block.Tabulated

variable {n : Nat} {tables : List (List Node)} {blocks : List Block}

theorem number_ge (h : Tabulated n tables blocks) :
    ∀ b ∈ blocks, ∀ k : Nat, tableOf? b = some (k : Int) → n ≤ k := by
  induction h with
  | nil n => simp
  | plain hplain _ ih =>
    rw [List.forall_mem_cons]
    refine ⟨fun k hk => ?_, ih⟩
    rw [TableRegion.tableOf?_eq_none_iff.mpr hplain] at hk
    exact absurd hk (by simp)
  | @table n table tables cells blocks hcells _ ih =>
    intro b hb k hk
    rcases List.mem_append.mp hb with hb | hb
    · obtain ⟨b', hb', hlengthens⟩ := exists_of_mem_lengthened hcells hb
      have htable := Table.tableOf?_cellBlocks b' hb'
      rw [tableOf?, ← hlengthens.cell_eq] at htable
      rw [tableOf?, htable] at hk
      have heq := Option.some.inj hk
      omega
    · have hmore := ih b hb k hk
      omega

theorem exists_table (h : Tabulated n tables blocks) :
    ∀ b ∈ blocks, ∀ cell, b.cell? = some cell → ∃ numbered ∈ tables.zipIdx n,
      Table.filledRows numbered.1 ≠ [] ∧ cell.tableIndex = numbered.2 := by
  induction h with
  | nil n => simp
  | plain hplain _ ih =>
    rw [List.forall_mem_cons]
    refine ⟨fun cell hcell => ?_, ih⟩
    rw [hplain] at hcell
    exact absurd hcell (by simp)
  | @table n table tables cells blocks hcells _ ih =>
    intro b hb cell hcell
    rw [List.zipIdx_cons]
    rcases List.mem_append.mp hb with hb | hb
    · obtain ⟨b', hb', hlengthens⟩ := exists_of_mem_lengthened hcells hb
      have htable := Table.tableOf?_cellBlocks b' hb'
      rw [tableOf?, ← hlengthens.cell_eq, hcell] at htable
      refine ⟨(table, n), List.mem_cons_self, ?_, Option.some.inj htable⟩
      intro hempty
      rw [Table.cellBlocks_eq_nil_iff.mpr hempty] at hb'
      exact absurd hb' List.not_mem_nil
    · obtain ⟨numbered, hmem, hfilled, hindex⟩ := ih b hb cell hcell
      exact ⟨numbered, List.mem_cons_of_mem _ hmem, hfilled, hindex⟩

/-- The regions of tabulated blocks are the tables with cells, in order. -/
theorem regions (h : Tabulated n tables blocks) (index : Nat) :
    List.Forall₂ (TableRegion.Holds index n blocks)
      ((tables.zipIdx n).filter fun numbered => !(Table.filledRows numbered.1).isEmpty)
      (measureFrom index none blocks) := by
  induction h generalizing index with
  | nil n => exact .nil
  | @plain n tables b blocks hplain _ ih =>
    have hskip : measureFrom index none (b :: blocks) = measureFrom (index + 1) none blocks :=
      TableRegion.measureFrom_of_plain (List.forall_mem_singleton.mpr hplain) index blocks
    rw [hskip]
    refine (ih (index + [b].length)).imp fun numbered r hr => ?_
    refine hr.behind (Nat.le_refl n) fun c hc => ?_
    rw [List.mem_singleton.mp hc, TableRegion.tableOf?_eq_none_iff.mpr hplain]
    simp
  | @table n table tables cells blocks hcells htail ih =>
    have hnumber : ∀ c ∈ cells, tableOf? c = some (n : Int) := by
      intro c hc
      obtain ⟨b, hb, hlengthens⟩ := exists_of_mem_lengthened hcells hc
      rw [tableOf?, hlengthens.cell_eq]
      exact Table.tableOf?_cellBlocks b hb
    have hmore := (ih (index + cells.length)).imp fun numbered r hr =>
      TableRegion.Holds.behind hr (Nat.le_succ n) fun c hc heq => by
        have hge := hr.number_ge
        rw [hnumber c hc] at heq
        have hsame := Option.some.inj heq
        omega
    rw [List.zipIdx_cons]
    by_cases hfilled : Table.filledRows table = []
    · -- A table without cells has no blocks, and is no region.
      rw [Table.cellBlocks_eq_nil_iff.mpr hfilled, List.forall₂_nil_left_iff] at hcells
      subst hcells
      rw [List.filter_cons_of_neg (by simp [hfilled])]
      exact hmore
    · cases cells with
      | nil =>
        have hnone := List.forall₂_nil_right_iff.mp hcells
        exact absurd (Table.cellBlocks_eq_nil_iff.mp hnone) hfilled
      | cons first run =>
        have hleads : Runs.Leads tableOf? (some (n : Int)) (first :: run) blocks := by
          refine ⟨hnumber, fun b hb heq => ?_⟩
          have hge := htail.number_ge b (List.mem_of_mem_head? hb) n heq
          omega
        rw [TableRegion.measureFrom_of_cells hleads, filterMap_cell?_lengthened hcells,
          List.filter_cons_of_pos (by simpa using hfilled)]
        refine .cons ⟨Nat.le_refl n, ?_, Table.rowCount_cellBlocks,
          Table.columnCount_cellBlocks hfilled⟩ hmore
        refine ⟨[], first :: run, blocks, rfl, rfl, hcells, fun b hb heq => ?_⟩
        have hge := htail.number_ge b hb n heq
        omega

end Block.Tabulated

end MarkupCompiler
