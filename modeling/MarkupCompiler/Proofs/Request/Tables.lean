import MarkupCompiler.Proofs.Block.TableSize
import MarkupCompiler.Proofs.Request.AppendOnly

/-!
# Tables that are created

A table is created where a region of cells begins, right before its first cell is inserted, and
nowhere else. In the blocks of a tree the regions are the tables that have cells, in the order in
which the walk takes them apart. So each of these is created once, in its size, and then filled
without a gap.
-/

namespace MarkupCompiler

/-- A table that is created: its place and its size. -/
structure CreatedTable where
  position : Int
  rows : Int
  columns : Int
  deriving DecidableEq, Repr

def Request.createdTable? : Request → Option CreatedTable
  | .createTable position rows columns => some ⟨position, rows, columns⟩
  | _ => none

namespace TableRegion

/-- The table of a region whose first block is placed at a position. -/
def createdAt (position : Int) (r : TableRegion) : CreatedTable := ⟨position, r.rows, r.columns⟩

end TableRegion

open TableRegion (startingAt?)

namespace PlacedBlock

variable {config : Config} {regions : List TableRegion} {own : PlacedBlock → List Request}

theorem createdTables_own {p : PlacedBlock} {requests : List Request}
    (hown : p.requests config regions = .ok requests) :
    requests.filterMap Request.createdTable? =
      ((startingAt? p.index regions).map (TableRegion.createdAt p.start)).toList := by
  obtain ⟨paragraph, text, hparts⟩ := Block.exists_parts hown
  rw [Block.filterMap_parts hparts (fun _ _ _ => rfl) fun _ _ _ => rfl]
  cases startingAt? p.index regions with
  | none => rfl
  | some r => rfl

/-- Placed blocks find the regions that begin with them, in order. -/
theorem createdTables_place {blocks : List Block} {index : Nat} {position : Int}
    (hsorted : regions.Pairwise fun r s => r.position < s.position)
    (hbounds : ∀ r ∈ regions, index ≤ r.position ∧ r.position < index + blocks.length) :
    ((place index position blocks).flatMap fun p =>
        ((startingAt? p.index regions).map (TableRegion.createdAt p.start)).toList) =
      regions.map fun r =>
        r.createdAt (position + (Block.stream (blocks.take (r.position - index))).length) := by
  induction blocks generalizing index position regions with
  | nil =>
    cases regions with
    | nil => rfl
    | cons r regions =>
      obtain ⟨hlow, hhigh⟩ := hbounds r List.mem_cons_self
      simp only [List.length_nil] at hhigh
      omega
  | cons b blocks ih =>
    simp only [List.length_cons] at hbounds
    obtain ⟨found?, rest, hfound, rfl, hhere, hlow, hbehind⟩ :=
      TableRegion.exists_found hsorted fun r hr => (hbounds r hr).1
    have hrest : ∀ r ∈ rest, index + 1 ≤ r.position ∧ r.position < index + 1 + blocks.length := by
      intro r hr
      have hgt := hlow r hr
      have hlt := (hbounds r (List.mem_append_right _ hr)).2
      constructor
      · exact hgt
      · omega
    have hfirst : (found?.map (TableRegion.createdAt position)).toList =
        found?.toList.map fun r => r.createdAt
          (position + (Block.stream ((b :: blocks).take (r.position - index))).length) := by
      cases found? with
      | none => rfl
      | some r =>
        rw [Option.map_some, Option.toList_some, Option.toList_some, List.map_singleton,
          hhere r rfl, Nat.sub_self]
        simp
    rw [place, List.flatMap_cons, hfound, hfirst, List.map_append]
    refine congrArg (_ ++ ·) ?_
    calc ((place (index + 1) (position + b.extent) blocks).flatMap fun p =>
          ((startingAt? p.index (found?.toList ++ rest)).map
            (TableRegion.createdAt p.start)).toList)
        = (place (index + 1) (position + b.extent) blocks).flatMap fun p =>
            ((startingAt? p.index rest).map (TableRegion.createdAt p.start)).toList :=
          List.flatMap_congr fun p hp => by rw [hbehind p.index (bounds_of_mem_place hp).1]
      _ = rest.map fun r => r.createdAt (position + b.extent +
            (Block.stream (blocks.take (r.position - (index + 1)))).length) :=
          ih (List.pairwise_append.mp hsorted).2.1 hrest
      _ = _ := List.map_congr_left fun r hr => by
          have hgt := hlow r hr
          have hnext : r.position - index = (r.position - (index + 1)) + 1 := by omega
          rw [hnext, List.take_succ_cons, Block.stream_cons, List.length_append, Block.extent_eq,
            Int.natCast_add, Int.add_assoc]

/-- The tables that an arrangement creates are the measured regions, in order. -/
theorem createdTables_arrange {blocks : List Block} {position : Int}
    (hown : ∀ p ∈ place 0 position blocks,
      p.requests config (TableRegion.measure blocks) = .ok (own p)) :
    (arrange config own [] (listRuns (place 0 position blocks))).filterMap
        Request.createdTable? =
      (TableRegion.measure blocks).map fun r =>
        r.createdAt (position + (Block.stream (blocks.take r.position)).length) := by
  have hlist := filterMap_listRequests (f := Request.createdTable?) config (fun _ _ _ => rfl)
    fun _ _ _ => rfl
  have hmeasured := TableRegion.positions_measureFrom 0 blocks
  rw [filterMap_arrange hlist rfl, flatten_listRuns,
    List.flatMap_congr fun p hp => createdTables_own (hown p hp)]
  exact createdTables_place hmeasured.1 hmeasured.2

end PlacedBlock

open PlacedBlock (place listRuns)

namespace Generator

/--
A table is kept: it is created in its size, where its first cell is inserted, and the insertions of
its cells follow one another. `number` counts the tables that the walk takes apart.
-/
structure TableKept (start : Int) (blocks : List Block) (requests : List Request)
    (table : List Node) (number : Nat) (created : CreatedTable) : Prop where
  rows_eq : created.rows = (Table.filledRows table).length
  columns_eq : IsGreatest (Table.columnStops table) created.columns
  rows_pos : 1 ≤ created.rows
  columns_pos : 1 ≤ created.columns
  /-- Only the first cell is inserted right behind the creation, and then the other cells. -/
  filled : ∃ before cells after, blocks = before ++ cells ++ after ∧
    List.Forall₂ Block.Lengthens (Table.cellBlocks number table) cells ∧
    (∀ b ∈ before ++ after, TableRegion.tableOf? b ≠ some (number : Int)) ∧
    created.position = start + (Block.stream before).length ∧
    ∃ earlier text later,
      requests = earlier ++ .createTable created.position created.rows created.columns ::
        .insertText created.position text :: later ∧
      earlier.filterMap Request.insertion? =
        (place 0 start before).map (fun p => (p.start, p.block.text ++ ['\n'])) ∧
      (created.position, text) :: later.filterMap Request.insertion? =
        (place before.length created.position (cells ++ after)).map
          fun p => (p.start, p.block.text ++ ['\n'])
  /-- No cell of the table reaches out of it. -/
  bounded : ∀ b ∈ blocks, ∀ cell, b.cell? = some cell → cell.tableIndex = number →
    0 ≤ cell.rowIndex ∧ cell.rowIndex < created.rows ∧ 0 ≤ cell.columnIndex ∧
      cell.columnIndex + cell.columnSpan ≤ created.columns

/-- The tables of a tree are kept. -/
structure TablesKept (start : Int) (root : Root) (requests : List Request) : Prop where
  /-- The tables that are created are those with cells, in the order of the walk. -/
  created : List.Forall₂
    (fun numbered created =>
      TableKept start (Block.ofRoot root) requests numbered.1 numbered.2 created)
    (root.tables.zipIdx.filter fun numbered => !(Table.filledRows numbered.1).isEmpty)
    (requests.filterMap Request.createdTable?)
  /-- Every cell is one of a table that is created. -/
  cells : ∀ b ∈ Block.ofRoot root, ∀ cell, b.cell? = some cell →
    ∃ numbered ∈ root.tables.zipIdx, Table.filledRows numbered.1 ≠ [] ∧
      cell.tableIndex = numbered.2

/--
Where a region begins, its table is created right before the first block is inserted, behind the
insertions of all blocks before it.
-/
theorem exists_creation {config : Config} {before rest : List Block} {start cursor : Int}
    {own : PlacedBlock → List Request} {requests : List Request}
    (h : Arranged config (before ++ rest) start own requests cursor) {r : TableRegion}
    (hr : startingAt? before.length (TableRegion.measure (before ++ rest)) = some r)
    (hrest : rest ≠ []) {position : Int}
    (hposition : position = start + (Block.stream before).length) :
    ∃ earlier text later, requests = earlier ++ .createTable position r.rows r.columns ::
        .insertText position text :: later ∧
      earlier.filterMap Request.insertion? =
        (place 0 start before).map (fun p => (p.start, p.block.inserted)) ∧
      (position, text) :: later.filterMap Request.insertion? =
        (place before.length position rest).map fun p => (p.start, p.block.inserted) := by
  obtain ⟨b, rest, rfl⟩ := List.exists_cons_of_ne_nil hrest
  have hplace : place 0 start (before ++ b :: rest) =
      place 0 start before ++ place before.length position (b :: rest) := by
    rw [PlacedBlock.place_append, Nat.zero_add, hposition]
  have hflatten : (listRuns (place 0 start (before ++ b :: rest))).flatten = place 0 start before ++
      ⟨before.length, position, b⟩ :: place (before.length + 1) (position + b.extent) rest := by
    rw [PlacedBlock.flatten_listRuns, hplace]
    rfl
  have hown := h.own_eq
  rw [hplace, List.forall_mem_append] at hown
  obtain ⟨earlier, later, heq, hearlier⟩ := PlacedBlock.exists_arrange_own own
    (PlacedBlock.filterMap_listRequests (f := Request.insertion?) config (fun _ _ _ => rfl)
      fun _ _ _ => rfl) List.filterMap_nil hflatten
  obtain ⟨paragraph, text, hparts⟩ := Block.exists_parts (hown.2 _ List.mem_cons_self)
  have hrequests : requests = earlier ++ .createTable position r.rows r.columns ::
      .insertText position b.inserted :: (paragraph ++ text ++ later) := by
    rw [h.requests_eq, heq, hparts.own_eq, hr]
    simp [Block.tableRequests]
  have hbefore : earlier.filterMap Request.insertion? =
      (place 0 start before).map fun p => (p.start, p.block.inserted) := by
    rw [hearlier, List.flatMap_congr fun p hp => PlacedBlock.insertions_own (hown.1 p hp)]
    exact List.map_eq_flatMap.symm
  refine ⟨earlier, b.inserted, paragraph ++ text ++ later, hrequests, hbefore, ?_⟩
  -- The insertions of the blocks before are cut off from all insertions.
  have hall := PlacedBlock.insertions_arrange h.own_eq
  rw [← h.requests_eq, hrequests, hplace, List.map_append, List.filterMap_append, hbefore] at hall
  exact List.append_cancel_left hall

theorem tableKept_of_holds {config : Config} {blocks : List Block} {start cursor : Int}
    {own : PlacedBlock → List Request} {requests : List Request}
    (h : Arranged config blocks start own requests cursor) {table : List Node} {number : Nat}
    {r : TableRegion} (hr : r ∈ TableRegion.measure blocks)
    (hholds : TableRegion.Holds 0 0 blocks (table, number) r)
    (hfilled : Table.filledRows table ≠ []) :
    TableKept start blocks requests table number
      (r.createdAt (start + (Block.stream (blocks.take r.position)).length)) := by
  constructor
  case rows_eq => exact congrArg Nat.cast hholds.rows_eq
  case columns_eq => exact hholds.columns_eq
  case rows_pos =>
    have hlength := List.length_pos_iff.mpr hfilled
    have hrows : r.rows = (Table.filledRows table).length := hholds.rows_eq
    show (1 : Int) ≤ r.rows
    omega
  case columns_pos =>
    obtain ⟨row, -, column, cell, -, hstop⟩ := hholds.columns_eq.1
    have hspan := Table.span_pos cell.2.1 "colspan"
    show 1 ≤ r.columns
    omega
  case filled =>
    obtain ⟨before, cells, after, rfl, hposition, hcells, hothers⟩ := hholds.stands
    rw [Nat.zero_add] at hposition
    rw [List.append_assoc] at h hr ⊢
    have hne : cells ++ after ≠ [] := by
      intro hnil
      rw [(List.append_eq_nil_iff.mp hnil).1] at hcells
      exact hfilled (Table.cellBlocks_eq_nil_iff.mp (List.forall₂_nil_right_iff.mp hcells))
    have hfound := TableRegion.startingAt?_of_mem (TableRegion.positions_measureFrom 0 _).1 hr
    rw [hposition] at hfound ⊢
    rw [List.take_left]
    exact ⟨before, cells, after, (List.append_assoc ..).symm, hcells, hothers, rfl,
      exists_creation h hfound hne rfl⟩
  case bounded => exact fun b hb cell hcell hnumber => hholds.bounded hb hcell hnumber

/-- A call that succeeds on the blocks of a tree keeps its tables. -/
theorem generate_tables_kept {root : Root} {start : Int} {g g' : Generator}
    {requests : List Request}
    (h : generate (Block.ofRoot root) (.int start) g = (.ok requests, g')) :
    TablesKept start root requests := by
  obtain ⟨own, harranged⟩ := exists_arranged h
  have htabulated := Block.tabulated_ofRoot root
  have hregions := htabulated.regions 0
  constructor
  · rw [harranged.requests_eq, PlacedBlock.createdTables_arrange harranged.own_eq,
      List.forall₂_map_right_iff, List.forall₂_iff_zip]
    refine ⟨hregions.length_eq, fun {numbered r} hpair => ?_⟩
    obtain ⟨hnumbered, hr⟩ := List.of_mem_zip hpair
    have hfilled := (List.mem_filter.mp hnumbered).2
    rw [← harranged.requests_eq]
    exact tableKept_of_holds harranged hr (List.forall₂_zip hregions hpair) (by simpa using hfilled)
  · exact htabulated.exists_table

/-- A table without cells, one with a span and a caption, and one behind it before a line break. -/
theorem generate_tables_kept_adjacent :
    let caption : Node := .element "caption" [] [.text ['a']]
    let wide : Node := .element "td" [("colspan", .text " 2 ")] [.text ['c']]
    let row : Node := .element "tr" [] [.element "td" [] [.text ['b']], wide]
    let blank : Node := .element "tr" [] []
    let body : Node := .element "tbody" [] [.element "tr" [] [.element "td" [] [.text ['d']]]]
    let root : Root := .document [.element "table" [] [blank],
      .element "table" [] [row, blank, caption], .element "table" [] [body], .element "br" [] []]
    let requests : List Request :=
      [.insertText 1 ['a', '\n'], .setParagraphStyle 1 3 .normal,
        .createTable 3 1 3, .insertText 3 ['b', '\n'], .setParagraphStyle 3 5 .normal,
        .insertText 5 ['c', '\n'], .setParagraphStyle 5 7 .normal,
        .createTable 7 1 1, .insertText 7 ['d', '\n', '\n'], .setParagraphStyle 7 10 .normal]
    generate (Block.ofRoot root) (.int 1) {} = (.ok requests, { cursor := 10 }) ∧
      TablesKept 1 root requests := by
  intro caption wide row blank body root requests
  have hblocks : Block.ofRoot root = [{ text := ['a'] },
      { text := ['b'], cell? := some { rowIndex := 0, columnIndex := 0, tableIndex := 1 } },
      { text := ['c'],
        cell? := some { rowIndex := 0, columnIndex := 1, columnSpan := 2, tableIndex := 1 } },
      { text := ['d', '\n'],
        cell? := some { rowIndex := 0, columnIndex := 0, tableIndex := 2 } }] := by
    decide +kernel
  have hgenerate : generate (Block.ofRoot root) (.int 1) {} = (.ok requests, { cursor := 10 }) := by
    rw [hblocks]
    exact generate_of_run (by decide) (by decide +kernel)
  exact ⟨hgenerate, generate_tables_kept hgenerate⟩

end Generator

end MarkupCompiler
