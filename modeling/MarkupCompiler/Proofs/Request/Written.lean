import MarkupCompiler.Proofs.Json.ReadBack
import MarkupCompiler.Proofs.Request.AppendOnly
import MarkupCompiler.Proofs.Request.Object
import MarkupCompiler.Proofs.Request.Regions
import MarkupCompiler.Proofs.Request.Success

/-!
# Requests in writing

A generator that gives requests has put their greatest integers on record. So the requests can be
written as JSON, and since no object in them has two members of one name, they are read back.
-/

namespace MarkupCompiler

theorem Json.isWritable_arr_iff {items : List Json} :
    (Json.arr items).isWritable = true ↔ ∀ item ∈ items, item.isWritable = true := by
  rw [isWritable]
  induction items with
  | nil => simp [areWritable]
  | cons item items ih => simp [areWritable, ih]

theorem Json.isWritable_obj_iff {members : List (String × Json)} :
    (Json.obj members).isWritable = true ↔ ∀ member ∈ members, member.2.isWritable = true := by
  rw [isWritable]
  induction members with
  | nil => simp [membersAreWritable]
  | cons member members ih => simp [membersAreWritable, ih]

theorem SlotValue.isWritable_toJson (v : SlotValue) : v.toJson.isWritable = true := by
  cases v <;> rfl

theorem SlotValue.namesDistinct_toJson (v : SlotValue) : v.toJson.NamesDistinct := by
  cases v <;>
    simp [toJson, Color.toJson, pointsJson, Json.NamesDistinct, Json.MembersDistinct]

namespace Slot

theorem isWritable_write (k : Slot) (v : SlotValue) : (k.write v).isWritable = true := by
  have hweight : IntegerText.isWritable 400 = true := by decide +kernel
  have hvalue := v.isWritable_toJson
  cases k <;> simp [write, Json.isWritable, Json.membersAreWritable, hvalue, hweight]

theorem namesDistinct_write (k : Slot) (v : SlotValue) : (k.write v).NamesDistinct := by
  have hvalue := v.namesDistinct_toJson
  cases k <;> simp [write, Json.NamesDistinct, Json.MembersDistinct, hvalue]

end Slot

namespace StyleTable.Writes

variable {κ σ : Type} {table : StyleTable κ} {slot : σ → κ → Option SlotValue}
  {merged : σ → σ → σ} {object : σ → Json} {mask : σ → String}

theorem isWritable (h : table.Writes slot merged object mask)
    (hwrite : ∀ k v, (table.write k v).isWritable = true) (s : σ) :
    (object s).isWritable = true := by
  rw [h.object_eq, Json.isWritable_obj_iff]
  rintro ⟨name, part⟩ hmember
  obtain ⟨k, v, -, -, rfl⟩ := (table.mem_members (slot s)).mp hmember
  exact hwrite k v

theorem namesDistinct (h : table.Writes slot merged object mask)
    (hwrite : ∀ k v, (table.write k v).NamesDistinct) (s : σ) : (object s).NamesDistinct := by
  rw [h.object_eq, Json.NamesDistinct, Json.membersDistinct_iff]
  refine ⟨table.nodup_names (slot s), ?_⟩
  rintro ⟨name, part⟩ hmember
  obtain ⟨k, v, -, -, rfl⟩ := (table.mem_members (slot s)).mp hmember
  exact hwrite k v

end StyleTable.Writes

theorem TextStyle.isWritable_toJson (s : TextStyle) : s.toJson.isWritable = true :=
  writes.isWritable Slot.isWritable_write s

theorem TextStyle.namesDistinct_toJson (s : TextStyle) : s.toJson.NamesDistinct :=
  writes.namesDistinct Slot.namesDistinct_write s

theorem ParagraphStyle.isWritable_toJson (s : ParagraphStyle) : s.toJson.isWritable = true :=
  writes.isWritable (fun _ => SlotValue.isWritable_toJson) s

theorem ParagraphStyle.namesDistinct_toJson (s : ParagraphStyle) : s.toJson.NamesDistinct :=
  writes.namesDistinct (fun _ => SlotValue.namesDistinct_toJson) s

namespace Request

theorem namesDistinct_toJson (r : Request) : r.toJson.NamesDistinct := by
  cases r <;>
    simp [toJson, RequestShape.insertText, RequestShape.updateParagraphStyle,
      RequestShape.updateTextStyle, RequestShape.bulletList, RequestShape.insertTable,
      RequestShape.range, RequestShape.location, Json.NamesDistinct, Json.MembersDistinct,
      TextStyle.namesDistinct_toJson, ParagraphStyle.namesDistinct_toJson]

theorem namesDistinct_listToJson (requests : List Request) :
    (listToJson requests).NamesDistinct := by
  rw [listToJson, Json.NamesDistinct, Json.itemsDistinct_iff]
  exact List.forall_mem_map.mpr fun r _ => r.namesDistinct_toJson

theorem isWritable_toJson {r : Request} (hstart : IntegerText.isWritable r.span.1 = true)
    (hstop : IntegerText.isWritable r.span.2 = true)
    (hsize : ∀ table, r.createdTable? = some table →
      IntegerText.isWritable table.rows = true ∧ IntegerText.isWritable table.columns = true) :
    r.toJson.isWritable = true := by
  cases r with
  | createTable position rows columns =>
    obtain ⟨hrows, hcolumns⟩ := hsize ⟨position, rows, columns⟩ rfl
    unfold span at hstart
    simp [toJson, RequestShape.insertTable, RequestShape.location, Json.isWritable,
      Json.membersAreWritable, hstart, hrows, hcolumns]
  | _ =>
    unfold span at hstart hstop
    simp [toJson, RequestShape.insertText, RequestShape.updateParagraphStyle,
      RequestShape.updateTextStyle, RequestShape.bulletList, RequestShape.range,
      RequestShape.location, Json.isWritable, Json.membersAreWritable, hstart, hstop,
      TextStyle.isWritable_toJson, ParagraphStyle.isWritable_toJson]

end Request

open PlacedBlock (place)

theorem Block.length_le_stream (blocks : List Block) : blocks.length ≤ (stream blocks).length := by
  induction blocks with
  | nil => exact Nat.le_refl 0
  | cons b blocks ih =>
    rw [stream_cons, List.length_append, List.length_cons, inserted, List.length_append, separator,
      List.length_singleton]
    omega

/-- A region has no more rows than there are blocks. -/
theorem TableRegion.rows_le {blocks : List Block} {r : TableRegion} (h : r ∈ measure blocks) :
    r.rows ≤ blocks.length := by
  obtain ⟨before, run, after, t, ⟨rfl, -⟩, rfl⟩ := mem_measureFrom.mp h
  have hrows : rowCount (run.filterMap Block.cell?) ≤ (run.filterMap Block.cell?).length :=
    (List.toFinset_card_le _).trans_eq (List.length_map _)
  have hcells := List.length_filterMap_le Block.cell? run
  simp only [List.length_append, ofRun]
  omega

theorem PlacedBlock.Makes.span_within {p : PlacedBlock} {r : Request} (h : p.Makes r) :
    p.start ≤ r.span.1 ∧ r.span.1 ≤ r.span.2 ∧ r.span.2 ≤ p.stop := by
  have hend := p.stop_eq
  have htext := p.start_le_textStop
  cases h with
  | table | insertion | paragraph =>
    unfold Request.span
    refine ⟨?_, ?_, ?_⟩ <;> dsimp only <;> omega
  | text _ hlow hne hhigh =>
    unfold Request.span
    refine ⟨hlow, ?_, ?_⟩ <;> dsimp only <;> omega

namespace Generator

/-- A request addresses nothing outside the text of the blocks. -/
theorem Arranged.span_within {config : Config} {blocks : List Block} {start cursor : Int}
    {own : PlacedBlock → List Request} {requests : List Request}
    (h : Arranged config blocks start own requests cursor) {r : Request} (hr : r ∈ requests) :
    start ≤ r.span.1 ∧ r.span.1 ≤ r.span.2 ∧ r.span.2 ≤ cursor := by
  have hplace : ∀ p ∈ place 0 start blocks, start ≤ p.start ∧ p.start ≤ p.stop ∧ p.stop ≤ cursor := by
    intro p hp
    obtain ⟨-, hlow, hhigh⟩ := PlacedBlock.bounds_of_mem_place hp
    have hpos := p.block.extent_pos
    refine ⟨hlow, ?_, h.cursor_eq ▸ hhigh⟩
    unfold PlacedBlock.stop
    omega
  have hruns : ∀ run ∈ PlacedBlock.listRuns (place 0 start blocks), ∀ p ∈ run,
      p ∈ place 0 start blocks := by
    intro run hrun p hp
    rw [← PlacedBlock.flatten_listRuns (place 0 start blocks)]
    exact List.mem_flatten.mpr ⟨run, hrun, hp⟩
  rw [h.requests_eq] at hr
  rcases PlacedBlock.mem_arrange hr with hr | ⟨p, hp, hr⟩ | ⟨run, hrun, hr⟩
  · exact absurd hr List.not_mem_nil
  · rw [PlacedBlock.flatten_listRuns] at hp
    obtain ⟨hlow, -, hhigh⟩ := hplace p hp
    obtain ⟨hstart, hspan, hstop⟩ := (PlacedBlock.makes_of_mem_own (h.own_eq p hp) hr).span_within
    exact ⟨hlow.trans hstart, hspan, hstop.trans hhigh⟩
  · rcases PlacedBlock.mem_listRequests hr with
      ⟨first, hfirst, last, hlast, isOrdered, hne, rfl⟩ | ⟨p, hp, level, rfl⟩
    · have hlow := (hplace first (hruns run hrun first hfirst)).1
      have hhigh := (hplace last (hruns run hrun last hlast)).2.2
      rw [last.stop_eq] at hhigh
      exact ⟨hlow, hne.le, (Int.lt_of_add_one_le hhigh).le⟩
    · exact hplace p (hruns run hrun p hp)

/-- The requests of a call that succeeds can be written. -/
theorem isWritable_of_generate {blocks : List Block} {start : Int} {g g' : Generator}
    {requests : List Request} (h : generate blocks (.int start) g = (.ok requests, g')) :
    (Request.listToJson requests).isWritable = true := by
  obtain ⟨hstart, hrun⟩ := run_of_generate h
  obtain ⟨own, harranged⟩ := exists_arranged_of_run hrun
  obtain ⟨hcolumns, -, hend, -⟩ := exists_run_iff.mp ⟨requests, g'.cursor, hrun⟩
  have hcursor := harranged.cursor_eq
  rw [← hcursor] at hend
  rw [Request.listToJson, Json.isWritable_arr_iff, List.forall_mem_map]
  intro r hr
  obtain ⟨hlow, hspan, hhigh⟩ := harranged.span_within hr
  refine Request.isWritable_toJson (IntegerText.isWritable_of_le (by omega) (by omega) hend)
    (IntegerText.isWritable_of_le (by omega) hhigh hend) fun table htable => ?_
  have hcreated : table ∈ requests.filterMap Request.createdTable? :=
    List.mem_filterMap.mpr ⟨r, hr, htable⟩
  rw [harranged.requests_eq, PlacedBlock.createdTables_arrange harranged.own_eq] at hcreated
  obtain ⟨region, hregion, rfl⟩ := List.mem_map.mp hcreated
  refine ⟨IntegerText.isWritable_of_le (Int.natCast_nonneg _) ?_ hend, hcolumns region hregion⟩
  have hrows := TableRegion.rows_le hregion
  have hstream := Block.length_le_stream blocks
  show (region.rows : Int) ≤ g'.cursor
  omega

end Generator

end MarkupCompiler
