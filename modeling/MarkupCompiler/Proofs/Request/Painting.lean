import MarkupCompiler.Block.Extract
import MarkupCompiler.Proofs.Interval.Painting
import MarkupCompiler.Proofs.Request.Success

/-!
# What requests paint

The text styles of a document come from the requests that set them, later ones over earlier ones.
Under the default configuration the requests for a block paint its text as its intervals do, if
these fit the text and are sorted by range.
-/

namespace MarkupCompiler

namespace Request

def textInterval? : Request → Option StyleInterval
  | .setTextStyle start stop style => some ⟨start, stop, style⟩
  | _ => none

/-- The text style that requests give a position, later ones over earlier ones. -/
def paint (requests : List Request) (p : Int) : TextStyle :=
  StyleInterval.paint (requests.filterMap textInterval?) p

end Request

namespace StyleInterval

theorem covers_shifted (offset p : Int) (i : StyleInterval) :
    (i.shifted offset).covers (offset + p) = i.covers p := by
  rw [Bool.eq_iff_iff, covers_iff, covers_iff]
  simp only [shifted]
  omega

theorem paint_map_shifted (offset : Int) (is : List StyleInterval) (p : Int) :
    paint (is.map (shifted offset)) (offset + p) = paint is p := by
  induction is using List.reverseRecOn with
  | nil => rfl
  | append_singleton is i ih =>
    rw [List.map_append, List.map_singleton, paint_concat, paint_concat, ih, covers_shifted]
    rfl

/-- Intervals with an empty style paint nothing. -/
theorem paint_filter_isEmpty (is : List StyleInterval) (p : Int) :
    paint (is.filter fun i => !i.style.isEmpty) p = paint is p := by
  induction is using List.reverseRecOn with
  | nil => rfl
  | append_singleton is i ih =>
    rw [List.filter_append, paint_concat]
    cases hi : i.style.isEmpty with
    | false =>
      have hone : [i].filter (fun i => !i.style.isEmpty) = [i] := by simp [hi]
      rw [hone, paint_concat, ih]
    | true =>
      have hnone : [i].filter (fun i => !i.style.isEmpty) = [] := by simp [hi]
      rw [hnone, List.append_nil, ih, TextStyle.eq_empty_of_isEmpty hi, TextStyle.merged_empty,
        ite_self]

end StyleInterval

namespace ParagraphStyle

/-- The rank depends on the name of a style only. -/
theorem headingRank_of_namedStyle_eq {s : ParagraphStyle} {name : String}
    (h : s.namedStyle = some name) : s.headingRank = headingRank { namedStyle := some name } := by
  rw [headingRank, headingRank, h]

/-- The rank in the name of a style that markup gives can be read. -/
theorem exists_headingRank_of_name (name : String) :
    ∃ rank, headingRank { namedStyle := some ((headingName? name).getD normalName) } =
      .ok rank := by
  by_cases hmem : name ∈ ["h1", "h2", "h3", "h4", "h5", "h6"]
  · simp only [List.mem_cons, List.not_mem_nil, or_false] at hmem
    rcases hmem with rfl | rfl | rfl | rfl | rfl | rfl
    · exact ⟨some 1, rfl⟩
    · exact ⟨some 2, rfl⟩
    · exact ⟨some 3, rfl⟩
    · exact ⟨some 4, rfl⟩
    · exact ⟨some 5, rfl⟩
    · exact ⟨some 6, rfl⟩
  · rw [headingName?, if_neg (by simpa using hmem)]
    exact ⟨none, rfl⟩

end ParagraphStyle

namespace Surroundings

theorem namedStyle_indented (around : Surroundings) (style : ParagraphStyle) :
    (around.indented style).namedStyle = style.namedStyle := by
  rw [indented]
  split
  · rfl
  · simp [ParagraphStyle.merged]

/-- The paragraph style of an extracted block has a rank that can be read. -/
theorem exists_headingRank_indented (around : Surroundings) (tag : String)
    (attributes : Attributes) :
    ∃ rank, (around.indented (ParagraphStyle.ofElement tag attributes)).headingRank = .ok rank := by
  have hname := namedStyle_indented around (ParagraphStyle.ofElement tag attributes)
  rw [ParagraphStyle.headingRank_of_namedStyle_eq (hname.trans rfl)]
  exact ParagraphStyle.exists_headingRank_of_name _

end Surroundings

namespace Block

/-- A default configuration lets every paragraph style with a readable rank pass. -/
theorem exists_paragraphRequests {b : Block} (start : Int)
    (h : ∃ rank, b.paragraphStyle.headingRank = .ok rank) :
    ∃ requests, b.paragraphRequests {} start = .ok requests ∧
      requests.filterMap Request.textInterval? = [] := by
  obtain ⟨rank, hrank⟩ := h
  have hstyle : ∃ style, Config.paragraphStyleFor {} b.paragraphStyle = .ok style := by
    rw [Config.paragraphStyleFor, hrank]
    cases rank with
    | none => exact ⟨_, rfl⟩
    | some rank => exact ⟨_, rfl⟩
  obtain ⟨style, hstyle⟩ := hstyle
  rw [paragraphRequests, hstyle]
  refine ⟨_, rfl, ?_⟩
  cases hempty : style.isEmpty with
  | true => simp [hempty]
  | false => simp [hempty, Request.textInterval?]

/-- A default configuration makes a request of each interval with a style. -/
theorem textRequestsOf_default (start : Int) (is : List StyleInterval) :
    ∃ requests, textRequestsOf {} start is = .ok requests ∧
      requests.filterMap Request.textInterval? =
        (is.filter fun i => !i.style.isEmpty).map (StyleInterval.shifted start) := by
  induction is with
  | nil => exact ⟨[], rfl, rfl⟩
  | cons i is ih =>
    obtain ⟨requests, hrequests, htext⟩ := ih
    have hstyle : Config.textStyleFor {} i.style = .ok i.style :=
      congrArg Except.ok (TextStyle.merged_empty i.style)
    rw [textRequestsOf, hstyle]
    simp only [hrequests]
    refine ⟨_, rfl, ?_⟩
    cases hempty : i.style.isEmpty with
    | true => simp [hempty, htext]
    | false => simp [hempty, htext, Request.textInterval?, StyleInterval.shifted]

/-- Intervals that fit the text and are sorted by range are painted by the requests for them. -/
theorem textRequests_paint {b : Block} (start : Int)
    (hfits : ∀ i ∈ b.intervals, i.Fits b.text.length)
    (hsorted : b.intervals.Pairwise StyleInterval.RangeLe) :
    ∃ requests, b.textRequests {} start = .ok requests ∧
      ∀ p, Request.paint requests (start + p) = StyleInterval.paint b.intervals p := by
  obtain ⟨-, hpaint, -⟩ := StyleInterval.coalesce_of_pairwise_rangeLe hsorted
  obtain ⟨requests, hrequests, htext⟩ :=
    textRequestsOf_default start (StyleInterval.coalesce b.intervals)
  refine ⟨requests, ?_, fun p => ?_⟩
  · rw [textRequests, StyleInterval.clampAll_eq_self hfits, hrequests]
  · rw [Request.paint, htext, StyleInterval.paint_map_shifted,
      StyleInterval.paint_filter_isEmpty, hpaint]

/-- A block whose intervals fit the text leaves none of them out. -/
theorem skippedEnds_eq_nil {b : Block} (h : ∀ i ∈ b.intervals, i.Fits b.text.length) :
    b.skippedEnds = [] := by
  have hskipped : (b.intervals.filter fun i => (i.clamped b.text.length).isEmpty) = [] := by
    refine List.filter_eq_nil_iff.mpr fun i hi => ?_
    rw [(h i hi).clamped_eq, (h i hi).isEmpty_eq]
    exact Bool.false_ne_true
  rw [skippedEnds, hskipped]
  rfl

/-- A block under a default configuration has requests, and they paint what its intervals do. -/
theorem requestsAt_paint {b : Block} (region? : Option TableRegion) (start : Int)
    (hrank : ∃ rank, b.paragraphStyle.headingRank = .ok rank)
    (hfits : ∀ i ∈ b.intervals, i.Fits b.text.length)
    (hsorted : b.intervals.Pairwise StyleInterval.RangeLe) :
    ∃ own, b.requestsAt {} region? start = .ok own ∧
      ∀ p, Request.paint own (start + p) = StyleInterval.paint b.intervals p := by
  obtain ⟨paragraph, hparagraph, hnone⟩ := exists_paragraphRequests start hrank
  obtain ⟨text, htext, hpaint⟩ := textRequests_paint start hfits hsorted
  have hskipped : ∀ n ∈ b.skippedEnds, IntegerText.isWritable n = true := by
    rw [skippedEnds_eq_nil hfits]
    exact fun n hn => absurd hn List.not_mem_nil
  refine ⟨_, requestsAt_eq_ok_iff.mpr ⟨paragraph, text, hparagraph, htext, hskipped, rfl⟩,
    fun p => ?_⟩
  have htable : (tableRequests start region?).filterMap Request.textInterval? = [] := by
    cases region? with
    | none => rfl
    | some region => rfl
  rw [← hpaint p, Request.paint, Request.paint]
  simp only [List.filterMap_append, htable, hnone, List.nil_append, List.append_nil]
  rfl

end Block

theorem ListGroup.textInterval?_outline (config : Config) (g : ListGroup) :
    (g.outline config).filterMap Request.textInterval? = [] := by
  have hbullets : g.bullets.filterMap Request.textInterval? = [] := by
    rw [bullets]
    split
    · rfl
    · rfl
  have hindents : (g.nested.map (indentOf config)).filterMap Request.textInterval? = [] := by
    rw [List.filterMap_map, List.filterMap_eq_nil_iff]
    intro item _
    rfl
  rw [outline, List.filterMap_append, hbullets, hindents, List.append_nil]

namespace Generator

/-- A run over one block gives its requests, and after them no request that sets a text style. -/
theorem exists_own_of_run_single {config : Config} {b : Block} {start cursor : Int}
    {requests : List Request} (h : run config [b] start = (.ok requests, cursor)) :
    ∃ own more, b.requestsAt config (TableRegion.startingAt? 0 (TableRegion.measure [b])) start =
      .ok own ∧ requests = own ++ more ∧ more.filterMap Request.textInterval? = [] := by
  obtain ⟨-, e, hblocks, hfinish, -⟩ := run_eq_ok_iff.mp h
  obtain ⟨-, -, -, rfl⟩ := Emission.finish_eq_ok_iff.mp hfinish
  obtain ⟨e₁, hadd, hnil⟩ := Emission.addBlocks_cons_eq_ok_iff.mp hblocks
  obtain rfl := Except.ok.inj hnil
  obtain ⟨own, hown⟩ :=
    (Emission.exists_own_of_insertBlock (Emission.addBlock_eq_ok_iff.mp hadd).1).1
  cases hlist : b.list? with
  | none =>
    obtain rfl := Emission.addBlock_of_plain hlist hown hadd
    exact ⟨own, [], hown, by simp, rfl⟩
  | some list =>
    obtain rfl := Emission.addBlock_of_first hlist (fun g hg => absurd hg (by simp)) hown hadd
    let g := ListGroup.single list.ordered ⟨start, b.text.length, list.nestingLevel⟩
    exact ⟨own, g.outline config, hown, by simp [g], ListGroup.textInterval?_outline config g⟩

/-- All that a run over one block has to write can be written, and its level has an indent. -/
structure Records (b : Block) (start : Int) : Prop where
  columnsWritten : ∀ r ∈ TableRegion.measure [b], IntegerText.isWritable r.columns = true
  startWritten : IntegerText.isWritable start = true
  stopWritten : IntegerText.isWritable (start + b.extent) = true
  levelFits : b.LevelFits

/--
A run over one block under a default configuration fails on nothing but its record and its level, and
its requests paint the text as the intervals of the block do.
-/
theorem run_paint {b : Block} (start : Int)
    (hrank : ∃ rank, b.paragraphStyle.headingRank = .ok rank)
    (hfits : ∀ i ∈ b.intervals, i.Fits b.text.length)
    (hsorted : b.intervals.Pairwise StyleInterval.RangeLe) :
    ((∃ requests cursor, run {} [b] start = (.ok requests, cursor)) ↔ Records b start) ∧
      ∀ requests cursor, run {} [b] start = (.ok requests, cursor) →
        ∀ p, Request.paint requests (start + p) = StyleInterval.paint b.intervals p := by
  have hown := Block.requestsAt_paint (b := b)
    (TableRegion.startingAt? 0 (TableRegion.measure [b])) start hrank hfits hsorted
  obtain ⟨own, hown, hpaint⟩ := hown
  constructor
  · have hstop : start + (Block.stream [b]).length = start + b.extent := by
      rw [Block.stream_cons, Block.stream_nil, List.append_nil, Block.extent_eq]
    rw [exists_run_iff, hstop]
    constructor
    · rintro ⟨hcolumns, hstart, hstop, hall⟩
      exact ⟨hcolumns, hstart, hstop, (hall ⟨0, start, b⟩ List.mem_cons_self).level⟩
    · rintro ⟨hcolumns, hstart, hstop, hlevel⟩
      refine ⟨hcolumns, hstart, hstop, fun p hp => ?_⟩
      obtain rfl := List.mem_singleton.mp hp
      exact ⟨⟨own, hown⟩, hlevel, hstart, hstop⟩
  · intro requests cursor hrun p
    obtain ⟨own', more, hown', rfl, hmore⟩ := exists_own_of_run_single hrun
    obtain rfl := Except.ok.inj (hown.symm.trans hown')
    rw [← hpaint p, Request.paint, Request.paint, List.filterMap_append, hmore, List.append_nil]

end Generator

end MarkupCompiler
