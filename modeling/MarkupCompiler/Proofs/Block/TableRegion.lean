import MarkupCompiler.Block.TableRegion
import MarkupCompiler.Proofs.Sequence.Runs
import Mathlib.Data.Finset.Card

/-!
# Sizes of table regions

Blocks fall into runs of cells of one table and of blocks that are no cells. A run of cells is
measured as one region, at the position of its first cell, and other blocks have none. So regions
are in the order of their positions, and at most one begins at a position. Joined blocks are
measured like their parts, unless a table goes on from one part to the next.
-/

namespace MarkupCompiler

def CellGeometry.columnStop (cell : CellGeometry) : Int := cell.columnIndex + cell.columnSpan

namespace TableRegion

def tableOf? (b : Block) : Option Int := b.cell?.map CellGeometry.tableIndex

/-- How many different row indices some cells have. -/
def rowCount (cells : List CellGeometry) : Nat := (cells.map CellGeometry.rowIndex).toFinset.card

/-- The largest column that some cells reach, counted from zero. -/
def columnCount (cells : List CellGeometry) : Int :=
  (cells.map CellGeometry.columnStop).foldl max 0

theorem tableOf?_eq_none_iff {b : Block} : tableOf? b = none ↔ b.cell? = none :=
  Option.map_eq_none_iff

/-! ## Measuring cells -/

namespace Open

def addAll (cells : List CellGeometry) (o : Open) : Open := cells.foldl (fun o cell => o.add cell) o

theorem position_addAll (cells : List CellGeometry) (o : Open) :
    (o.addAll cells).position = o.position := by
  induction cells generalizing o with
  | nil => rfl
  | cons cell cells ih => exact ih (o.add cell)

theorem columns_addAll (cells : List CellGeometry) (o : Open) :
    (o.addAll cells).columns = (cells.map CellGeometry.columnStop).foldl max o.columns := by
  induction cells generalizing o with
  | nil => rfl
  | cons cell cells ih => exact ih (o.add cell)

theorem rowIndices_add {o : Open} (h : o.rowIndices.Nodup) (cell : CellGeometry) :
    (o.add cell).rowIndices.Nodup ∧
      (o.add cell).rowIndices.toFinset = insert cell.rowIndex o.rowIndices.toFinset := by
  rw [add]
  split
  · next hmem =>
    have hmem := List.contains_iff_mem.mp hmem
    exact ⟨h, (Finset.insert_eq_of_mem (List.mem_toFinset.mpr hmem)).symm⟩
  · next hmem =>
    rw [List.contains_iff_mem] at hmem
    exact ⟨List.nodup_cons.mpr ⟨hmem, h⟩, List.toFinset_cons⟩

theorem rowIndices_addAll (cells : List CellGeometry) {o : Open} (h : o.rowIndices.Nodup) :
    (o.addAll cells).rowIndices.Nodup ∧
      (o.addAll cells).rowIndices.toFinset =
        (cells.map CellGeometry.rowIndex).toFinset ∪ o.rowIndices.toFinset := by
  induction cells generalizing o with
  | nil => exact ⟨h, (Finset.empty_union _).symm⟩
  | cons cell cells ih =>
    obtain ⟨hnodup, hset⟩ := rowIndices_add h cell
    obtain ⟨hmoreNodup, hmore⟩ := ih hnodup
    refine ⟨hmoreNodup, ?_⟩
    have hstep : (o.addAll (cell :: cells)).rowIndices =
        ((o.add cell).addAll cells).rowIndices := rfl
    rw [hstep, hmore, hset, List.map_cons, List.toFinset_cons, Finset.insert_union,
      Finset.union_insert]

theorem close_addAll_start (position : Nat) (first : CellGeometry) (cells : List CellGeometry) :
    ((start position first).addAll cells).close =
      ⟨position, rowCount cells, columnCount cells⟩ := by
  obtain ⟨hnodup, hset⟩ := rowIndices_addAll cells (o := start position first) List.nodup_nil
  have hrows : ((start position first).addAll cells).rowIndices.length = rowCount cells := by
    rw [← List.toFinset_card_of_nodup hnodup, hset, rowCount]
    exact congrArg Finset.card (Finset.union_empty _)
  rw [close, position_addAll, columns_addAll, hrows]
  rfl

end Open

/-! ## Measuring one block -/

def Open.next? (position : Nat) (open? : Option Open) (b : Block) : Option Open :=
  b.cell?.map fun cell =>
    ((open?.filter fun o => o.tableIndex == cell.tableIndex).getD (start position cell)).add cell

theorem Open.table_next? (position : Nat) (open? : Option Open) (b : Block) :
    (next? position open? b).map tableIndex = tableOf? b := by
  rw [next?, tableOf?, Option.map_map]
  refine Option.map_congr fun cell _ => ?_
  change ((open?.filter fun o => o.tableIndex == cell.tableIndex).getD _).tableIndex = _
  cases hopen : open?.filter fun o => o.tableIndex == cell.tableIndex with
  | none => rfl
  | some o => exact eq_of_beq (Option.filter_eq_some_iff.mp hopen).2

def closedBy (open? : Option Open) (b : Block) : List TableRegion :=
  if open?.map Open.tableIndex = tableOf? b then [] else (open?.map Open.close).toList

theorem closedBy_none (b : Block) : closedBy none b = [] := ite_self []

/-- A block closes the region that does not go on with it, and goes on with its own. -/
theorem measureFrom_cons (position : Nat) (open? : Option Open) (b : Block) (blocks : List Block) :
    measureFrom position open? (b :: blocks) =
      closedBy open? b ++ measureFrom (position + 1) (Open.next? position open? b) blocks := by
  rw [measureFrom, closedBy, Open.next?, tableOf?]
  cases b.cell? with
  | none => cases open? <;> rfl
  | some cell =>
    cases open? with
    | none => simp
    | some o =>
      by_cases hsame : o.tableIndex = cell.tableIndex
      · simp [hsame, Option.filter_some]
      · simp [hsame, Option.filter_some]

/-- A region that does not go on with the first block ends before it. -/
theorem measureFrom_of_apart (position : Nat) {open? : Option Open} {blocks : List Block}
    (h : ∀ c ∈ blocks.head?, ∀ t, open?.map Open.tableIndex = some t → tableOf? c ≠ some t) :
    measureFrom position open? blocks =
      (open?.map Open.close).toList ++ measureFrom position none blocks := by
  cases blocks with
  | nil => exact (List.append_nil _).symm
  | cons c blocks =>
    cases open? with
    | none => rfl
    | some o =>
      have hother := h c rfl o.tableIndex rfl
      have hclosed : closedBy (some o) c = [o.close] := if_neg (Ne.symm hother)
      have hnext : Open.next? position (some o) c = Open.next? position none c := by
        refine Option.map_congr fun cell hcell => ?_
        have hne : (o.tableIndex == cell.tableIndex) = false := by
          refine beq_eq_false_iff_ne.mpr fun hsame => hother ?_
          rw [tableOf?, hcell, hsame]
          rfl
        rw [Option.filter_some, hne]
        rfl
      rw [measureFrom_cons, measureFrom_cons, hclosed, hnext, closedBy_none]
      rfl

/-! ## Measuring runs -/

theorem position_cons (position : Nat) (b : Block) (blocks : List Block) :
    position + 1 + blocks.length = position + (b :: blocks).length := by
  rw [List.length_cons]
  omega

theorem measureFrom_of_plain {run : List Block} (h : ∀ b ∈ run, b.cell? = none) (position : Nat)
    (rest : List Block) :
    measureFrom position none (run ++ rest) = measureFrom (position + run.length) none rest := by
  induction run generalizing position with
  | nil => rfl
  | cons b run ih =>
    obtain ⟨hb, hrun⟩ := List.forall_mem_cons.mp h
    rw [List.cons_append, measureFrom, hb, ← position_cons]
    exact ih hrun (position + 1)

/-- The cells of the open region are added to it, and then it is closed. -/
theorem measureFrom_of_open {o : Open} {run rest : List Block}
    (h : Runs.Leads tableOf? (some o.tableIndex) run rest) (position : Nat) :
    measureFrom position (some o) (run ++ rest) =
      (o.addAll (run.filterMap Block.cell?)).close ::
        measureFrom (position + run.length) none rest := by
  induction run generalizing o position with
  | nil =>
    refine measureFrom_of_apart position fun c hc t ht => ?_
    obtain rfl := Option.some.inj ht
    exact h.differ c hc
  | cons b run ih =>
    obtain ⟨hb, hrun⟩ := List.forall_mem_cons.mp h.same
    obtain ⟨cell, hcell, htable⟩ := Option.map_eq_some_iff.mp hb
    have hmore : Runs.Leads tableOf? (some (o.add cell).tableIndex) run rest := ⟨hrun, h.differ⟩
    rw [List.cons_append, measureFrom, hcell, List.filterMap_cons_some hcell, ← position_cons]
    simp only [htable, beq_self_eq_true, if_true]
    exact ih hmore (position + 1)

/-- A run of cells is one region. -/
theorem measureFrom_of_cells {t : Int} {first : Block} {run rest : List Block}
    (h : Runs.Leads tableOf? (some t) (first :: run) rest) (position : Nat) :
    measureFrom position none (first :: run ++ rest) =
      ⟨position, rowCount ((first :: run).filterMap Block.cell?),
          columnCount ((first :: run).filterMap Block.cell?)⟩ ::
        measureFrom (position + (first :: run).length) none rest := by
  obtain ⟨hfirst, hrun⟩ := List.forall_mem_cons.mp h.same
  obtain ⟨cell, hcell, rfl⟩ := Option.map_eq_some_iff.mp hfirst
  have hopen : Runs.Leads tableOf? (some ((Open.start position cell).add cell).tableIndex) run
      rest := ⟨hrun, h.differ⟩
  have hclosed := Open.close_addAll_start position cell ((first :: run).filterMap Block.cell?)
  rw [List.filterMap_cons_some hcell] at hclosed ⊢
  rw [List.cons_append, measureFrom, hcell]
  simp only [measureFrom_of_open hopen]
  rw [position_cons, ← hclosed]
  rfl

/-! ## Measuring joined blocks -/

/-- The region when `k` more blocks stand before it. -/
def moved (k : Nat) (r : TableRegion) : TableRegion := { r with position := r.position + k }

def Open.moved (k : Nat) (o : Open) : Open := { o with position := o.position + k }

theorem Open.next?_moved (k position : Nat) (open? : Option Open) (b : Block) :
    next? (position + k) (open?.map (moved k)) b = (next? position open? b).map (moved k) := by
  rw [next?, next?, Option.map_map]
  refine Option.map_congr fun cell _ => ?_
  have hfilter : (open?.map (moved k)).filter (fun o => o.tableIndex == cell.tableIndex) =
      (open?.filter fun o => o.tableIndex == cell.tableIndex).map (moved k) := by
    rw [Option.filter_map]
    rfl
  rw [Function.comp_apply, hfilter]
  cases open?.filter fun o => o.tableIndex == cell.tableIndex with
  | none => rfl
  | some o => rfl

theorem closedBy_moved (k : Nat) (open? : Option Open) (b : Block) :
    closedBy (open?.map (Open.moved k)) b = (closedBy open? b).map (moved k) := by
  cases open? with
  | none => rw [Option.map_none, closedBy_none, List.map_nil]
  | some o =>
    rw [closedBy, closedBy, apply_ite (List.map (moved k))]
    rfl

theorem measureFrom_moved (k position : Nat) (open? : Option Open) (blocks : List Block) :
    measureFrom (position + k) (open?.map (Open.moved k)) blocks =
      (measureFrom position open? blocks).map (moved k) := by
  induction blocks generalizing position open? with
  | nil => cases open? <;> rfl
  | cons b blocks ih =>
    have hnext : position + k + 1 = position + 1 + k := by omega
    rw [measureFrom_cons, measureFrom_cons, closedBy_moved, Open.next?_moved, hnext, ih,
      List.map_append]

/-- Blocks that are apart are measured apart. The open region is that of the last block before. -/
theorem measureFrom_append (position : Nat) (open? : Option Open) {before after : List Block}
    (h : ∀ c ∈ after.head?, ∀ t,
      before.foldl (fun _ b => tableOf? b) (open?.map Open.tableIndex) = some t →
        tableOf? c ≠ some t) :
    measureFrom position open? (before ++ after) =
      measureFrom position open? before ++ measureFrom (position + before.length) none after := by
  induction before generalizing position open? with
  | nil => exact measureFrom_of_apart position h
  | cons b before ih =>
    rw [List.foldl_cons, ← Open.table_next? position open?] at h
    rw [List.cons_append, measureFrom_cons, measureFrom_cons, ih _ _ h, position_cons, List.append_assoc]

/-! ## Positions of regions -/

/-- Regions follow one another, and begin at blocks that were measured. -/
theorem positions_measureFrom (index : Nat) (blocks : List Block) :
    (measureFrom index none blocks).Pairwise (fun r s => r.position < s.position) ∧
      ∀ r ∈ measureFrom index none blocks, index ≤ r.position ∧
        r.position < index + blocks.length := by
  induction blocks using Runs.run_induction tableOf? generalizing index with
  | nil => exact ⟨List.Pairwise.nil, fun r hr => absurd hr List.not_mem_nil⟩
  | run first run rest hleads ih =>
    obtain ⟨hsorted, hbounds⟩ := ih (index + (first :: run).length)
    have hlength : ((first :: run) ++ rest).length = (first :: run).length + rest.length :=
      List.length_append
    have hpos : 0 < (first :: run).length := Nat.succ_pos _
    cases hkey : tableOf? first with
    | none =>
      rw [measureFrom_of_plain fun b hb =>
        tableOf?_eq_none_iff.mp ((hleads.same b hb).trans hkey)]
      refine ⟨hsorted, fun r hr => ?_⟩
      obtain ⟨hlow, hhigh⟩ := hbounds r hr
      constructor
      · omega
      · omega
    | some t =>
      rw [hkey] at hleads
      rw [measureFrom_of_cells hleads]
      constructor
      · refine List.pairwise_cons.mpr ⟨fun r hr => ?_, hsorted⟩
        have hlow := (hbounds r hr).1
        show index < r.position
        omega
      · intro r hr
        rcases List.mem_cons.mp hr with rfl | hr
        · constructor
          · exact Nat.le_refl index
          · show index < _
            omega
        · obtain ⟨hlow, hhigh⟩ := hbounds r hr
          constructor
          · omega
          · omega

/-! ## Finding regions -/

theorem startingAt?_cons_self (r : TableRegion) (regions : List TableRegion) :
    startingAt? r.position (r :: regions) = some r :=
  List.find?_cons_of_pos (beq_self_eq_true r.position)

theorem startingAt?_cons_of_ne {r : TableRegion} {position : Nat} (h : r.position ≠ position)
    (regions : List TableRegion) :
    startingAt? position (r :: regions) = startingAt? position regions :=
  List.find?_cons_of_neg (by simpa using h)

variable {regions : List TableRegion}

theorem startingAt?_of_mem (hsorted : regions.Pairwise fun r s => r.position < s.position)
    {r : TableRegion} (hr : r ∈ regions) : startingAt? r.position regions = some r := by
  induction regions with
  | nil => exact absurd hr List.not_mem_nil
  | cons s regions ih =>
    obtain ⟨hfirst, hregions⟩ := List.pairwise_cons.mp hsorted
    rcases List.mem_cons.mp hr with rfl | hr
    · exact startingAt?_cons_self r regions
    · have hlt := hfirst r hr
      rw [startingAt?_cons_of_ne (by omega)]
      exact ih hregions hr

/-- The region at the lowest position comes off; other positions find theirs behind it. -/
theorem exists_found (hsorted : regions.Pairwise fun r s => r.position < s.position) {index : Nat}
    (hlow : ∀ r ∈ regions, index ≤ r.position) :
    ∃ found? rest, startingAt? index regions = found? ∧ regions = found?.toList ++ rest ∧
      (∀ r, found? = some r → r.position = index) ∧ (∀ r ∈ rest, index < r.position) ∧
      ∀ position, index < position → startingAt? position regions = startingAt? position rest := by
  cases regions with
  | nil => exact ⟨none, [], rfl, rfl, by simp, by simp, fun _ _ => rfl⟩
  | cons r regions =>
    obtain ⟨hfirst, -⟩ := List.pairwise_cons.mp hsorted
    by_cases hr : r.position = index
    · refine ⟨some r, regions, ?_, rfl, ?_, ?_, ?_⟩
      · rw [← hr]
        exact startingAt?_cons_self r regions
      · intro s hs
        rw [← Option.some.inj hs, hr]
      · intro s hs
        rw [← hr]
        exact hfirst s hs
      · intro position hposition
        exact startingAt?_cons_of_ne (by omega) regions
    · have hbehind : ∀ s ∈ r :: regions, index < s.position := by
        intro s hs
        have hge := hlow r List.mem_cons_self
        rcases List.mem_cons.mp hs with rfl | hs
        · omega
        · have hlt := hfirst s hs
          omega
      refine ⟨none, r :: regions, ?_, rfl, by simp, hbehind, fun _ _ => rfl⟩
      refine List.find?_eq_none.mpr fun s hs => ?_
      have hlt := hbehind s hs
      simp only [beq_iff_eq]
      omega

end TableRegion

end MarkupCompiler
