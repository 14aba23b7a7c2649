import MarkupCompiler.Proofs.Block.TableRegion
import MarkupCompiler.Proofs.Request.Arrangement
import Mathlib.Algebra.Ring.Int.Defs

/-!
# Requests of joined documents

Where neither a list nor a table goes on from one block to the next, a document can be cut. Table
regions end at the cut, and what waits for the end of a list is emitted before anything else. So the
requests of the whole are those of the part before the cut, and then those that the part behind it
gets from the position where the first part ends.
-/

namespace MarkupCompiler

/-- Neither the list nor the table of the first block goes on with the second one. -/
structure Block.Apart (b c : Block) : Prop where
  list : ¬(b.isListItem = true ∧ c.isListItem = true)
  table : ∀ x y, b.cell? = some x → c.cell? = some y → x.tableIndex ≠ y.tableIndex

namespace TableRegion

theorem measure_append {before after : List Block}
    (h : ∀ b ∈ before.getLast?, ∀ c ∈ after.head?, b.Apart c) :
    measure (before ++ after) =
      measure before ++ (measure after).map (moved before.length) := by
  have hmoved := measureFrom_moved before.length 0 none after
  rw [measure, measure, measure, ← hmoved, measureFrom_append]
  · rfl
  · intro c hc t ht hct
    rcases List.eq_nil_or_concat' before with rfl | ⟨init, b, rfl⟩
    · exact absurd ht (by simp)
    · rw [List.foldl_append] at ht
      obtain ⟨x, hx, hxt⟩ := Option.map_eq_some_iff.mp (ht : tableOf? b = some t)
      obtain ⟨y, hy, hyt⟩ := Option.map_eq_some_iff.mp hct
      exact (h b (by simp) c hc).table x y hx hy (hxt.trans hyt.symm)

/-- A block begins the same region, in its own part and in the whole. -/
theorem startingAt?_measure_append {before after : List Block}
    (h : ∀ b ∈ before.getLast?, ∀ c ∈ after.head?, b.Apart c) :
    (∀ k < before.length,
      startingAt? k (measure (before ++ after)) = startingAt? k (measure before)) ∧
    ∀ k, startingAt? (before.length + k) (measure (before ++ after)) =
      (startingAt? k (measure after)).map (moved before.length) := by
  rw [measure_append h]
  constructor
  · intro k hk
    have hnone : startingAt? k ((measure after).map (moved before.length)) = none := by
      refine List.find?_eq_none.mpr fun r hr => ?_
      obtain ⟨s, -, rfl⟩ := List.mem_map.mp hr
      simp only [moved, beq_iff_eq]
      omega
    rw [startingAt?] at hnone
    rw [startingAt?, List.find?_append, hnone, Option.or_none, startingAt?]
  · intro k
    have hnone : startingAt? (before.length + k) (measure before) = none := by
      refine List.find?_eq_none.mpr fun r hr => ?_
      have hbound := ((positions_measureFrom 0 before).2 r hr).2
      simp only [beq_iff_eq]
      omega
    have hsame : ∀ r : TableRegion, ((r.moved before.length).position == before.length + k) =
        (r.position == k) := by
      intro r
      rw [Bool.eq_iff_iff, beq_iff_eq, beq_iff_eq]
      simp only [moved]
      omega
    rw [startingAt?] at hnone
    rw [startingAt?, List.find?_append, hnone, Option.none_or, List.find?_map, startingAt?]
    simp only [Function.comp_def, hsame]

end TableRegion

open TableRegion (startingAt? measure)

namespace Emission

variable {config : Config} {regions regions' : List TableRegion}

/-- The emission when other requests were made before its own. -/
def behind (earlier : List Request) (e : Emission) : Emission :=
  { e with requests := earlier ++ e.requests }

def closed (config : Config) (e : Emission) : Emission :=
  ⟨e.cursor, e.requests ++ e.pending config, none⟩

theorem closed_behind (config : Config) (earlier : List Request) (e : Emission) :
    (e.behind earlier).closed config = (e.closed config).behind earlier := by
  rw [closed, closed, behind, behind, List.append_assoc]
  rfl

/-- A block emits the same, whatever was emitted before. -/
theorem insertBlock_behind {region? : Option TableRegion} {b : Block} (earlier : List Request)
    {e e' : Emission} (h : e.insertBlock config region? b = .ok e') :
    (e.behind earlier).insertBlock config region? b = .ok (e'.behind earlier) := by
  cases hlist : b.list? with
  | none =>
    obtain ⟨hfit, own, hown, rfl⟩ := (insertBlock_of_plain hlist).mp h
    exact (insertBlock_of_plain hlist).mpr ⟨hfit, own, hown, by simp [behind, pending]⟩
  | some list =>
    by_cases hgroup : ∃ g, e.group? = some g ∧ g.isOrdered = list.ordered
    · obtain ⟨g, hg, hkind⟩ := hgroup
      obtain ⟨own, hown, rfl⟩ := (insertBlock_of_next hlist hg hkind).mp h
      have hg' : (e.behind earlier).group? = some g := hg
      exact (insertBlock_of_next hlist hg' hkind).mpr ⟨own, hown, by simp [behind]⟩
    · have hother : ∀ g, e.group? = some g → g.isOrdered ≠ list.ordered :=
        fun g hg hkind => hgroup ⟨g, hg, hkind⟩
      obtain ⟨hfit, own, hown, rfl⟩ := (insertBlock_of_first hlist hother).mp h
      have hother' : ∀ g, (e.behind earlier).group? = some g → g.isOrdered ≠ list.ordered := hother
      exact (insertBlock_of_first hlist hother').mpr
        ⟨hfit, own, hown, by simp [behind, pending]⟩

theorem addBlocks_behind {index : Nat} {blocks : List Block} (earlier : List Request)
    {e e' : Emission} (h : addBlocks config regions index blocks e = .ok e') :
    addBlocks config regions index blocks (e.behind earlier) = .ok (e'.behind earlier) := by
  induction blocks generalizing index e with
  | nil =>
    obtain rfl := Except.ok.inj h
    rfl
  | cons b blocks ih =>
    obtain ⟨e₁, hadd, hmore⟩ := addBlocks_cons_eq_ok_iff.mp h
    obtain ⟨hinsert, hshown⟩ := addBlock_eq_ok_iff.mp hadd
    exact addBlocks_cons_eq_ok_iff.mpr ⟨e₁.behind earlier,
      addBlock_eq_ok_iff.mpr ⟨insertBlock_behind earlier hinsert, hshown⟩, ih hmore⟩

/-- Of a region, a block reads no more than the table that begins with it. -/
theorem addBlock_congr {region? region?' : Option TableRegion}
    (h : ∀ start, Block.tableRequests start region? = Block.tableRequests start region?') (b : Block)
    (e : Emission) : e.addBlock config region? b = e.addBlock config region?' b := by
  have hinsert : e.insertBlock config region? b = e.insertBlock config region?' b := by
    simp only [insertBlock, Block.requestsAt, h]
  rw [addBlock, addBlock, hinsert]

/-- Of the regions, blocks read those that begin with one of them. -/
theorem addBlocks_congr {i j : Nat} {blocks : List Block}
    (h : ∀ k < blocks.length, ∀ start, Block.tableRequests start (startingAt? (i + k) regions) =
      Block.tableRequests start (startingAt? (j + k) regions')) (e : Emission) :
    addBlocks config regions i blocks e = addBlocks config regions' j blocks e := by
  induction blocks generalizing i j e with
  | nil => rfl
  | cons b blocks ih =>
    have hfirst : ∀ start, Block.tableRequests start (startingAt? i regions) =
        Block.tableRequests start (startingAt? j regions') := h 0 (Nat.succ_pos _)
    have hrest : ∀ k < blocks.length, ∀ start,
        Block.tableRequests start (startingAt? (i + 1 + k) regions) =
          Block.tableRequests start (startingAt? (j + 1 + k) regions') := by
      intro k hk
      have hnext := h (k + 1) (Nat.succ_lt_succ hk)
      rwa [Nat.add_comm k 1, ← Nat.add_assoc, ← Nat.add_assoc] at hnext
    rw [addBlocks, addBlocks, addBlock_congr hfirst]
    cases e.addBlock config (startingAt? j regions') b with
    | error fault => rfl
    | ok e₁ => exact ih hrest e₁

theorem group?_of_plain {region? : Option TableRegion} {b : Block} {e e' : Emission}
    (hplain : b.isListItem = false) (h : e.addBlock config region? b = .ok e') :
    e'.group? = none := by
  have hlist : b.list? = none :=
    Option.isNone_iff_eq_none.mp (by simpa [Block.isListItem] using hplain)
  obtain ⟨-, own, -, rfl⟩ := (insertBlock_of_plain hlist).mp (addBlock_eq_ok_iff.mp h).1
  rfl

/-- A group stays open behind a list item only. -/
theorem isListItem_of_group? {index : Nat} {blocks : List Block} {e e' : Emission}
    (h : addBlocks config regions index blocks e = .ok e') (hopen : e'.group? ≠ none) :
    (blocks = [] ∧ e' = e) ∨ ∃ b ∈ blocks.getLast?, b.isListItem = true := by
  induction blocks generalizing index e with
  | nil => exact Or.inl ⟨rfl, (Except.ok.inj h).symm⟩
  | cons b blocks ih =>
    refine Or.inr ?_
    obtain ⟨e₁, hadd, hmore⟩ := addBlocks_cons_eq_ok_iff.mp h
    rcases ih hmore with ⟨rfl, rfl⟩ | ⟨last, hlast, hitem⟩
    · refine ⟨b, rfl, ?_⟩
      by_contra hplain
      exact hopen (group?_of_plain (Bool.eq_false_iff.mpr hplain) hadd)
    · refine ⟨last, ?_, hitem⟩
      rw [List.getLast?_cons, Option.mem_def.mp hlast]
      rfl

/-- A group that no list item follows may as well be closed before. -/
theorem addBlocks_of_closed {index : Nat} {blocks : List Block} {e e' : Emission}
    (hplain : e.group? ≠ none → ∀ b ∈ blocks.head?, b.isListItem = false) (hfit : e.LevelsFit)
    (h : addBlocks config regions index blocks (e.closed config) = .ok e') :
    ∃ e₁, addBlocks config regions index blocks e = .ok e₁ ∧
      e₁.closed config = e'.closed config ∧ (e'.LevelsFit → e₁.LevelsFit) := by
  by_cases hopen : e.group? = none
  · have hself : e.closed config = e := by
      obtain ⟨cursor, requests, group?⟩ := e
      obtain rfl : group? = none := hopen
      rw [closed, pending_none, List.append_nil]
    rw [hself] at h
    exact ⟨e', h, rfl, id⟩
  · cases blocks with
    | nil =>
      obtain rfl := Except.ok.inj h
      refine ⟨e, rfl, ?_, fun _ => hfit⟩
      simp [closed]
    | cons b blocks =>
      have hlist : b.list? = none :=
        Option.isNone_iff_eq_none.mp (by simpa [Block.isListItem] using hplain hopen b rfl)
      obtain ⟨e₁, hadd, hmore⟩ := addBlocks_cons_eq_ok_iff.mp h
      obtain ⟨hinsert, hshown⟩ := addBlock_eq_ok_iff.mp hadd
      obtain ⟨-, own, hown, rfl⟩ := (insertBlock_of_plain hlist).mp hinsert
      have hfirst : e.insertBlock config (startingAt? index regions) b =
          .ok ⟨e.cursor + b.extent, e.requests ++ e.pending config ++ own, none⟩ :=
        (insertBlock_of_plain hlist).mpr ⟨hfit, own, hown, rfl⟩
      rw [closed, pending_none, List.append_nil] at hmore
      exact ⟨e', addBlocks_cons_eq_ok_iff.mpr
        ⟨_, addBlock_eq_ok_iff.mpr ⟨hfirst, hshown⟩, hmore⟩, rfl, id⟩

end Emission

namespace Generator

/--
Behind a part that gives requests, the rest of a document that is apart from it gives what it gives
alone from there on.
-/
theorem run_append {config : Config} {before after : List Block}
    (hcut : ∀ b ∈ before.getLast?, ∀ c ∈ after.head?, b.Apart c) {start cursor stop : Int}
    {requests more : List Request} (h : run config before start = (.ok requests, cursor))
    (hafter : run config after cursor = (.ok more, stop)) :
    run config (before ++ after) start = (.ok (requests ++ more), stop) := by
  obtain ⟨hinside, hbehind⟩ := TableRegion.startingAt?_measure_append hcut
  obtain ⟨hcolumns, e, hadd, hfinish, rfl⟩ := run_eq_ok_iff.mp h
  obtain ⟨hfit, hstart, -, rfl⟩ := Emission.finish_eq_ok_iff.mp hfinish
  obtain ⟨hcolumns', e', hadd', hfinish', rfl⟩ := run_eq_ok_iff.mp hafter
  obtain ⟨hfit', -, hstop, rfl⟩ := Emission.finish_eq_ok_iff.mp hfinish'
  have hfirst : Emission.addBlocks config (measure (before ++ after)) 0 before
      { cursor := start } = .ok e := by
    rw [← hadd]
    refine Emission.addBlocks_congr (fun k hk position => ?_) _
    rw [Nat.zero_add, hinside k hk]
  have hsecond : ∀ e, Emission.addBlocks config (measure (before ++ after)) (0 + before.length)
      after e = Emission.addBlocks config (measure after) 0 after e := by
    refine fun e => Emission.addBlocks_congr (fun k _ position => ?_) e
    rw [Nat.zero_add, Nat.zero_add, hbehind k]
    cases startingAt? k (measure after) <;> rfl
  have hplain : e.group? ≠ none → ∀ c ∈ after.head?, c.isListItem = false := by
    intro hopen c hc
    rcases Emission.isListItem_of_group? hadd hopen with ⟨-, rfl⟩ | ⟨b, hb, hitem⟩
    · exact absurd rfl hopen
    · exact Bool.eq_false_iff.mpr fun hc' => (hcut b hb c hc).list ⟨hitem, hc'⟩
  -- Once its group is closed, the first part leaves a fresh emission behind its requests.
  have hclosed : e.closed config =
      Emission.behind (e.requests ++ e.pending config) { cursor := e.cursor } := by
    rw [Emission.closed, Emission.behind, List.append_nil]
  have hmore := Emission.addBlocks_behind (e.requests ++ e.pending config) hadd'
  rw [← hclosed] at hmore
  obtain ⟨e₂, hadd₂, hsame, hfits⟩ := Emission.addBlocks_of_closed hplain hfit hmore
  rw [Emission.closed_behind] at hsame
  obtain ⟨hcursor, hrequests, -⟩ := Emission.mk.inj hsame
  refine run_eq_ok_iff.mpr ⟨?_, e₂, ?_, Emission.finish_eq_ok_iff.mpr ⟨hfits hfit', hstart, ?_, ?_⟩,
    ?_⟩
  · rw [TableRegion.measure_append hcut, List.forall_mem_append, List.forall_mem_map]
    exact ⟨hcolumns, hcolumns'⟩
  · exact Emission.addBlocks_append_eq_ok_iff.mpr ⟨e, hfirst, (hsecond e).trans hadd₂⟩
  · rw [hcursor]
    exact hstop
  · exact hrequests.symm
  · exact hcursor.symm

/-- How many positions blocks take, their separators included. -/
theorem length_stream (blocks : List Block) :
    ((Block.stream blocks).length : Int) = (blocks.map fun b => (b.text.length : Int) + 1).sum := by
  induction blocks with
  | nil => rfl
  | cons b blocks ih =>
    rw [Block.stream_cons, List.length_append, Int.natCast_add, ← Block.extent_eq, ih]
    rfl

/--
A document that can be cut between two blocks gives the requests of its parts, those of the second
part from the position on where the first one ends.
-/
theorem generate_append {before after : List Block} {start : Int} {g g' g₁ g₂ : Generator}
    {requests more : List Request} (hcut : ∀ b ∈ before.getLast?, ∀ c ∈ after.head?, b.Apart c)
    (hconfig : g'.config = g.config)
    (hbefore : generate before (.int start) g = (.ok requests, g₁))
    (hafter : generate after
      (.int (start + (before.map fun b => (b.text.length : Int) + 1).sum)) g' = (.ok more, g₂)) :
    generate (before ++ after) (.int start) g =
      (.ok (requests ++ more), { g with cursor := g₂.cursor }) := by
  obtain ⟨hstart, hrun⟩ := run_of_generate hbefore
  obtain ⟨-, hmore⟩ := run_of_generate hafter
  obtain ⟨own, harranged⟩ := exists_arranged hbefore
  rw [hconfig, ← length_stream, ← harranged.cursor_eq] at hmore
  exact generate_of_run hstart (run_append hcut hrun hmore)

/-- A nested item before the cut, and behind it two tables of one cell each. -/
theorem generate_append_tables :
    let item : Block := { text := ['a'], list? := some { ordered := true, nestingLevel := 1 } }
    let cell : Block := { text := ['b'], cell? := some { rowIndex := 3, columnIndex := 0 } }
    let other : Block :=
      { text := [], cell? := some { rowIndex := 0, columnIndex := 1, tableIndex := 1 } }
    let requests : List Request :=
      [.insertText 5 ['a', '\n'], .setParagraphStyle 5 7 .normal, .setListBullet 5 6 true,
        .setParagraphStyle 5 7 (Config.levelIndent {} 1)]
    let more : List Request :=
      [.createTable 7 1 1, .insertText 7 ['b', '\n'], .setParagraphStyle 7 9 .normal,
        .createTable 9 1 2, .insertText 9 ['\n'], .setParagraphStyle 9 10 .normal]
    (∀ b ∈ [item].getLast?, ∀ c ∈ [cell, other].head?, b.Apart c) ∧
      generate [item] (.int 5) {} = (.ok requests, { cursor := 7 }) ∧
      generate [cell, other] (.int (5 + 2)) {} = (.ok more, { cursor := 10 }) ∧
      generate [item, cell, other] (.int 5) {} = (.ok (requests ++ more), { cursor := 10 }) := by
  intro item cell other requests more
  have hcut : ∀ b ∈ [item].getLast?, ∀ c ∈ [cell, other].head?, b.Apart c := by
    rintro b ⟨⟩ c ⟨⟩
    constructor
    · decide
    · rintro x y ⟨⟩
  have hbefore : generate [item] (.int 5) {} = (.ok requests, { cursor := 7 }) :=
    generate_of_run (by decide) (by decide +kernel)
  have hafter : generate [cell, other] (.int (5 + 2)) {} = (.ok more, { cursor := 10 }) :=
    generate_of_run (by decide) (by decide +kernel)
  exact ⟨hcut, hbefore, hafter, generate_append hcut rfl hbefore hafter⟩

end Generator

end MarkupCompiler
