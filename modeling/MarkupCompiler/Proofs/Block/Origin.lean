import MarkupCompiler.Proofs.Block.Event
import MarkupCompiler.Proofs.Block.TableSize
import MarkupCompiler.Proofs.Fragment.Joined

/-!
# Origins of blocks

Every block of a tree has an origin: a paragraph element or a caption, a run of loose pieces, a list
item or a table cell. The origins are read off the events of the walk, and the blocks are made from
them one by one, in the same order; only line breaks are added behind. The position of an item is the
number of items of its kind and level that were counted since a list of that kind and level started
last.
-/

namespace MarkupCompiler

/-- Where a block comes from. -/
inductive Origin where
  | paragraph (site : Site)
  /-- Loose pieces that were flushed at the end of a way. -/
  | loose (around : Way) (pieces : List Site)
  /-- An item with all that happened before it. -/
  | item (site : Site) (ordered : Bool) (level : Nat) (past : List Event)
  | cell (table : Site) (cell : String × Attributes × List Node)

namespace Event

/-- What an event does to the count of items of a kind and level. -/
def count (ordered : Bool) (level n : Nat) : Event → Nat
  | .list _ o l => if ordered == o && level == l then 0 else n
  | .item _ o l => if ordered == o && level == l then n + 1 else n
  | _ => n

/-- How many items of a kind and level were counted since a list of these started last. -/
def counted (ordered : Bool) (level : Nat) (past : List Event) : Nat :=
  past.foldl (count ordered level) 0

theorem counted_append (ordered : Bool) (level : Nat) (past events : List Event) :
    counted ordered level (past ++ events) =
      events.foldl (count ordered level) (counted ordered level past) :=
  List.foldl_append ..

end Event

/-- Whether the node is a caption that has text. -/
def Site.isCaption (site : Site) : Bool :=
  site.node.isNamed ["caption"] && !site.collected.text.isEmpty

def Site.captions (table : Site) : List Site :=
  (table.node.children.zipIdx.map fun (node, index) => ⟨table.way, index, node⟩).filter isCaption

namespace Event

def origins (past : List Event) (pieces : List Site) : Event → List Origin
  | .loose _ => []
  | .flush around => if pieces.isEmpty then [] else [.loose around pieces]
  | .lineBreak => []
  | .paragraph site => if site.isParagraph then [.paragraph site] else []
  | .list _ _ _ => []
  | .item site ordered level => [.item site ordered level past]
  | .table site =>
    site.captions.map .paragraph ++
      (Table.filledRows site.node.children).flatten.map (.cell site)

/-- Which origins an event has: all the routes by which a block is made. -/
inductive Yields (past : List Event) (pieces : List Site) : Event → Origin → Prop
  | paragraph (site : Site) : Yields past pieces (.paragraph site) (.paragraph site)
  | caption {table caption : Site} (h : caption ∈ table.captions) :
    Yields past pieces (.table table) (.paragraph caption)
  | loose (around : Way) (h : pieces ≠ []) :
    Yields past pieces (.flush around) (.loose around pieces)
  | item (site : Site) (ordered : Bool) (level : Nat) :
    Yields past pieces (.item site ordered level) (.item site ordered level past)
  | cell {table : Site} {row : List (String × Attributes × List Node)}
    {cell : String × Attributes × List Node} (hrow : row ∈ Table.filledRows table.node.children)
    (hcell : cell ∈ row) : Yields past pieces (.table table) (.cell table cell)

theorem yields_of_mem_origins {event : Event} {past : List Event} {pieces : List Site}
    {origin : Origin} (h : origin ∈ event.origins past pieces) : event.Yields past pieces origin := by
  cases event with
  | loose site => exact absurd h List.not_mem_nil
  | flush around =>
    rw [origins] at h
    split at h
    · exact absurd h List.not_mem_nil
    · next hne =>
      obtain rfl := List.mem_singleton.mp h
      exact .loose around (by simpa using hne)
  | lineBreak => exact absurd h List.not_mem_nil
  | paragraph site =>
    rw [origins] at h
    split at h
    · obtain rfl := List.mem_singleton.mp h
      exact .paragraph site
    · exact absurd h List.not_mem_nil
  | list way ordered level => exact absurd h List.not_mem_nil
  | item site ordered level =>
    obtain rfl := List.mem_singleton.mp h
    exact .item site ordered level
  | table site =>
    rcases List.mem_append.mp h with hcaption | hcell
    · obtain ⟨caption, hmem, rfl⟩ := List.mem_map.mp hcaption
      exact .caption hmem
    · obtain ⟨cell, hmem, rfl⟩ := List.mem_map.mp hcell
      obtain ⟨row, hrow, hcell⟩ := List.mem_flatten.mp hmem
      exact .cell hrow hcell

/-- The loose pieces that wait after an event. -/
def pending (pieces : List Site) : Event → List Site
  | .loose site => if site.collected.text.isEmpty then pieces else pieces ++ [site]
  | .flush _ => []
  | _ => pieces

/-- The origins of the blocks that events make, one after another. -/
def originsOf : List Event → List Site → List Event → List Origin
  | _, _, [] => []
  | past, pieces, event :: events =>
    event.origins past pieces ++ originsOf (past ++ [event]) (event.pending pieces) events

/-- The loose pieces that wait after some events. -/
def pendingOf (pieces : List Site) (events : List Event) : List Site :=
  events.foldl pending pieces

theorem originsOf_append (past : List Event) (pieces : List Site) (events more : List Event) :
    originsOf past pieces (events ++ more) =
      originsOf past pieces events ++ originsOf (past ++ events) (pendingOf pieces events) more := by
  induction events generalizing past pieces with
  | nil => simp [originsOf, pendingOf]
  | cons event events ih =>
    rw [List.cons_append, originsOf, originsOf, ih, List.append_assoc, List.append_assoc]
    rfl

theorem pendingOf_append (pieces : List Site) (events more : List Event) :
    pendingOf pieces (events ++ more) = pendingOf (pendingOf pieces events) more :=
  List.foldl_append ..

end Event

def Root.origins (root : Root) : List Origin := Event.originsOf [] [] root.events

namespace Site

def paragraphBlock (place : TextKind) (site : Site) : Block :=
  { text := site.collected.text
    paragraphStyle := (Surroundings.along place site.way).indented site.paragraphStyle
    intervals := site.collected.intervals }

/-- What a list item is collected to, without the lists among its children. -/
def ownCollected (site : Site) : CollectedText :=
  CollectedText.ofElement true false site.node.tag site.node.attributes site.node.children

def itemBlock (ordered : Bool) (level position : Nat) (site : Site) : Block :=
  { text := site.ownCollected.text
    paragraphStyle := ParagraphStyle.ofElement "li" site.node.attributes
    intervals := site.ownCollected.intervals
    list? := some { ordered := ordered, nestingLevel := level, position := position } }

theorem sound_collected (site : Site) : site.collected.Sound := by
  rw [collected]
  split
  · exact CollectedText.sound_text _
  · exact CollectedText.sound_text []
  · exact CollectedText.sound_ofElement false false _ _ _

end Site

namespace Origin

/-- The blocks that an origin can make, in a tree whose root stands in text of some kind. -/
inductive Makes (place : TextKind) : Origin → Block → Prop
  | paragraph (site : Site) : Makes place (.paragraph site) (site.paragraphBlock place)
  | loose (around : Way) {pieces : List Site} {t : Text} {is ranges : List StyleInterval}
    (hjoined : Joined (pieces.map Site.collected) t is) (hperm : ranges.Perm is)
    (hsorted : StyleInterval.SortedByStart ranges) :
    Makes place (.loose around pieces)
      { text := t
        paragraphStyle := (Surroundings.along place around).indented ParagraphStyle.normal
        intervals := StyleInterval.clampAll t.length ranges }
  | item (site : Site) (ordered : Bool) (level : Nat) (past : List Event) :
    Makes place (.item site ordered level past)
      (site.itemBlock ordered level (Event.counted ordered level past + 1))
  | cell (table : Site) (cell : String × Attributes × List Node) (n row column : Nat) :
    Makes place (.cell table cell) (Table.cellBlock n row column cell)

/-- The block is made from the origin, and line breaks may follow. -/
def Gives (place : TextKind) (origin : Origin) (block : Block) : Prop :=
  ∃ made, origin.Makes place made ∧ made.Lengthens block

theorem Makes.gives {place : TextKind} {origin : Origin} {block : Block}
    (h : origin.Makes place block) : origin.Gives place block :=
  ⟨block, h, block.lengthens_refl⟩

theorem Gives.appendBreak {place : TextKind} {origin : Origin} {block : Block}
    (h : origin.Gives place block) : origin.Gives place (block.appendText ['\n']) := by
  obtain ⟨made, hmade, hlengthens⟩ := h
  exact ⟨made, hmade, hlengthens.appendBreak⟩

end Origin

namespace Table

theorem captionBlocks_singleton (place : TextKind) (way : Way) (index : Nat) (node : Node) :
    captionBlocks (.along place way) [node] =
      (([⟨way, index, node⟩] : List Site).filter Site.isCaption).map
        (Site.paragraphBlock place) := by
  cases node with
  | text content => rfl
  | special kind content => rfl
  | element tag attributes children =>
    by_cases hname : Text.lowerName tag = "caption"
    · have hdepth : (Surroundings.along place way).quoteDepth =
          (Surroundings.along place (way ++ [(index, tag)])).quoteDepth := by
        rw [Surroundings.quoteDepth_along, Surroundings.quoteDepth_along,
          Way.quotes_concat_of_ne way index (by rw [hname]; decide)]
      have hstyle : Site.paragraphStyle ⟨way, index, .element tag attributes children⟩ =
          ParagraphStyle.ofElement "caption" attributes := by
        rw [← hname]
        rfl
      cases hempty : (CollectedText.ofElement false false tag attributes children).text.isEmpty with
      | true =>
        simp [captionBlocks, Site.isCaption, Node.isNamed, Site.collected, hname,
          List.isEmpty_iff.mp hempty]
      | false =>
        simp only [captionBlocks, List.filterMap_cons, List.filterMap_nil, List.filter_cons,
          List.filter_nil, Site.isCaption, Node.isNamed, Site.collected, hname, hempty,
          Bool.not_false, List.contains_cons, beq_self_eq_true, Bool.true_or, Bool.and_self,
          if_true, List.map_cons, List.map_nil, Site.paragraphBlock, hstyle,
          Surroundings.indented_eq hdepth]
        rfl
    · simp [captionBlocks, Site.isCaption, Node.isNamed, hname]

theorem captionBlocks_zipIdx (place : TextKind) (way : Way) (nodes : List Node) (start : Nat) :
    captionBlocks (.along place way) nodes =
      (((nodes.zipIdx start).map fun (node, index) => (⟨way, index, node⟩ : Site)).filter
        Site.isCaption).map (Site.paragraphBlock place) := by
  induction nodes generalizing start with
  | nil => rfl
  | cons node nodes ih =>
    have hcons : captionBlocks (.along place way) (node :: nodes) =
        captionBlocks (.along place way) [node] ++ captionBlocks (.along place way) nodes := by
      rw [captionBlocks, captionBlocks, captionBlocks, ← List.filterMap_append]
      rfl
    rw [hcons, captionBlocks_singleton place way start node, ih (start + 1), List.zipIdx_cons,
      List.map_cons, ← List.map_append, ← List.filter_append]
    rfl

/-- The caption blocks of a table are the paragraphs of its captions. -/
theorem captionBlocks_eq (place : TextKind) (table : Site) :
    captionBlocks (.along place table.way) table.node.children =
      table.captions.map (Site.paragraphBlock place) :=
  captionBlocks_zipIdx place table.way table.node.children 0

theorem forall₂_zipIdx {α β γ : Type} {R : β → γ → Prop} {f : α → β} {g : α × Nat → γ}
    (h : ∀ a i, R (f a) (g (a, i))) (as : List α) :
    List.Forall₂ R (as.map f) (as.zipIdx.map g) := by
  have hmap : as.map f = as.zipIdx.map (f ∘ Prod.fst) := by
    rw [← List.map_map, List.zipIdx_map_fst]
  rw [hmap, List.forall₂_map_left_iff, List.forall₂_map_right_iff, List.forall₂_same]
  exact fun (a, i) _ => h a i

/-- The cell blocks of a table come from its cells, row by row. -/
theorem gives_cellBlocks (place : TextKind) (table : Site) (n : Nat) (nodes : List Node) :
    List.Forall₂ (Origin.Gives place) ((filledRows nodes).flatten.map (.cell table))
      (cellBlocks n nodes) := by
  rw [List.map_flatten, cellBlocks]
  refine List.rel_flatten (forall₂_zipIdx (fun row rowIndex => ?_) (filledRows nodes))
  exact forall₂_zipIdx
    (fun cell columnIndex => (Origin.Makes.cell table cell n rowIndex columnIndex).gives) row

end Table

namespace Extraction

/-- The blocks come from the origins, the loose pieces wait, and the items are counted. -/
structure Reflects (place : TextKind) (e : Extraction) (past : List Event) (pieces : List Site)
    (origins : List Origin) : Prop where
  counters : ∀ ordered level, e.counters ordered level = Event.counted ordered level past
  loose : e.loose.Holds (pieces.map Site.collected)
  blocks : List.Forall₂ (Origin.Gives place) origins e.blocks

theorem reflects_empty (place : TextKind) : Reflects place {} [] [] [] :=
  ⟨fun _ _ => rfl, FragmentBuffer.holds_empty, .nil⟩

namespace Reflects

variable {place : TextKind} {e : Extraction} {past : List Event} {pieces : List Site}
  {origins : List Origin}

theorem counters_concat (h : e.Reflects place past pieces origins) (event : Event)
    (hevent : ∀ ordered level n, event.count ordered level n = n) (ordered : Bool) (level : Nat) :
    e.counters ordered level = Event.counted ordered level (past ++ [event]) := by
  rw [h.counters, Event.counted_append, List.foldl_cons, List.foldl_nil, hevent]

/-- A loose piece without text changes nothing but the gap around it. -/
theorem skip (h : e.Reflects place past pieces origins) (site : Site) (gap : Bool) :
    Reflects place { e with gap := gap } (past ++ [.loose site]) pieces origins :=
  ⟨h.counters_concat (.loose site) fun _ _ _ => rfl, h.loose, h.blocks⟩

theorem take (h : e.Reflects place past pieces origins) (site : Site)
    (hne : site.collected.text ≠ []) (isSeparate gap : Bool) :
    Reflects place
      { e with
        loose := (e.loose.append site.collected.text isSeparate).registerStyles
          e.loose.localLength site.collected.intervals
        gap := gap }
      (past ++ [.loose site]) (pieces ++ [site]) origins := by
  refine ⟨h.counters_concat (.loose site) fun _ _ _ => rfl, ?_, h.blocks⟩
  rw [List.map_append]
  exact h.loose.append site.sound_collected hne isSeparate

theorem loose_apply (h : e.Reflects place past pieces origins) (site : Site) :
    Reflects place (Event.apply place e (.loose site)) (past ++ [.loose site])
      ((Event.loose site).pending pieces) origins := by
  obtain ⟨around, index, node⟩ := site
  have hskip := h.skip ⟨around, index, node⟩
  cases node with
  | text content =>
    by_cases hempty : (Text.normalize content).isEmpty = true
    · simp only [Event.apply, addLooseText, Event.pending, Site.collected, hempty, if_true]
      split
      · exact hskip e.gap
      · exact hskip true
    · have htake := h.take ⟨around, index, .text content⟩ (by simpa [Site.collected] using hempty)
      simp only [Event.apply, addLooseText, Event.pending, Site.collected, hempty]
      exact htake _ _
  | special kind content => exact hskip e.gap
  | element tag attributes children =>
    by_cases hempty :
        (CollectedText.ofElement false false tag attributes children).text.isEmpty = true
    · simp only [Event.apply, addLooseElement, Event.pending, Site.collected, hempty, if_true]
      split
      · exact hskip true
      · exact hskip e.gap
    · have htake := h.take ⟨around, index, .element tag attributes children⟩
        (by simpa [Site.collected] using hempty)
      simp only [Event.apply, addLooseElement, Event.pending, Site.collected, hempty]
      exact htake _ _

theorem flush_apply (h : e.Reflects place past pieces origins) (around : Way) :
    Reflects place (Event.apply place e (.flush around)) (past ++ [.flush around])
      ((Event.flush around).pending pieces)
      (origins ++ (Event.flush around).origins past pieces) := by
  have hcounters := h.counters_concat (.flush around) fun _ _ _ => rfl
  have htext := h.loose.text_eq_nil_iff
  obtain ⟨is, hjoined, hperm⟩ := h.loose.joined
  rw [List.map_eq_nil_iff] at htext
  simp only [Event.apply, flushLoose, Event.pending, Event.origins, List.isEmpty_iff, htext]
  by_cases hnone : pieces = []
  · rw [if_pos hnone, if_pos hnone, List.append_nil]
    exact ⟨hcounters, FragmentBuffer.holds_empty, h.blocks⟩
  · rw [if_neg hnone, if_neg hnone]
    have hmakes : Origin.Makes place (.loose around pieces) _ :=
      .loose around hjoined hperm h.loose.sorted
    exact ⟨hcounters, FragmentBuffer.holds_empty,
      List.rel_append h.blocks (.cons hmakes.gives .nil)⟩

theorem lineBreak_apply (h : e.Reflects place past pieces origins) :
    Reflects place (Event.apply place e .lineBreak) (past ++ [.lineBreak]) pieces origins := by
  have hcounters := h.counters_concat .lineBreak fun _ _ _ => rfl
  rw [Event.apply, addLineBreak]
  cases hlast : e.blocks.getLast? with
  | none => exact ⟨hcounters, h.loose, h.blocks⟩
  | some block =>
    obtain ⟨init, hinit⟩ := List.getLast?_eq_some_iff.mp hlast
    have hblocks := h.blocks
    rw [hinit] at hblocks
    refine ⟨hcounters, h.loose, ?_⟩
    change List.Forall₂ _ _ (e.blocks.dropLast ++ [block.appendText ['\n']])
    rw [hinit, List.dropLast_concat]
    exact Block.forall₂_appendBreak (fun _ _ hgives => hgives.appendBreak) hblocks

/-- An event makes the blocks of its origins. -/
theorem apply (h : e.Reflects place past pieces origins) (event : Event) :
    Reflects place (event.apply place e) (past ++ [event]) (event.pending pieces)
      (origins ++ event.origins past pieces) := by
  cases event with
  | loose site =>
    rw [Event.origins, List.append_nil]
    exact h.loose_apply site
  | flush around => exact h.flush_apply around
  | lineBreak =>
    rw [Event.origins, List.append_nil]
    exact h.lineBreak_apply
  | paragraph site =>
    have hcounters := h.counters_concat (.paragraph site) fun _ _ _ => rfl
    simp only [Event.apply, Event.origins, Event.pending]
    split
    · have hmakes : Origin.Makes place (.paragraph site) _ := .paragraph site
      exact ⟨hcounters, h.loose, List.rel_append h.blocks (.cons hmakes.gives .nil)⟩
    · rw [List.append_nil]
      exact ⟨hcounters, h.loose, h.blocks⟩
  | list way ordered level =>
    rw [Event.origins, List.append_nil]
    refine ⟨fun o l => ?_, h.loose, h.blocks⟩
    rw [Event.counted_append, ← h.counters]
    rfl
  | item site ordered level =>
    have hmakes : Origin.Makes place (.item site ordered level past) _ := .item site ordered level past
    rw [← h.counters] at hmakes
    refine ⟨fun o l => ?_, h.loose, List.rel_append h.blocks (.cons hmakes.gives .nil)⟩
    rw [Event.counted_append, ← h.counters]
    simp only [Event.apply, addListItem, addBlock, ListCounters.set, List.foldl_cons, List.foldl_nil,
      Event.count]
    by_cases hscope : (o == ordered && l == level) = true
    · rw [if_pos hscope, if_pos hscope]
      obtain ⟨ho, hl⟩ := Bool.and_eq_true_iff.mp hscope
      rw [eq_of_beq ho, eq_of_beq hl]
    · rw [if_neg hscope, if_neg hscope]
  | table site =>
    have hcounters := h.counters_concat (.table site) fun _ _ _ => rfl
    refine ⟨hcounters, h.loose, ?_⟩
    simp only [Event.apply, addTable, Event.origins, Table.captionBlocks_eq, ← List.append_assoc]
    refine List.rel_append (List.rel_append h.blocks ?_) (Table.gives_cellBlocks place site _ _)
    rw [List.forall₂_map_left_iff, List.forall₂_map_right_iff, List.forall₂_same]
    exact fun caption _ => (Origin.Makes.paragraph caption).gives

theorem run (h : e.Reflects place past pieces origins) (events : List Event) :
    Reflects place (Event.run place events e) (past ++ events) (Event.pendingOf pieces events)
      (origins ++ Event.originsOf past pieces events) := by
  induction events generalizing e past pieces origins with
  | nil => simpa [Event.originsOf, Event.pendingOf] using h
  | cons event events ih =>
    have hrun := ih (h.apply event)
    rw [List.append_assoc, List.append_assoc] at hrun
    exact hrun

end Reflects

end Extraction

/-- The blocks of a root are made from its origins, one by one and in the same order. -/
theorem Block.gives_ofRoot (root : Root) :
    List.Forall₂ (Origin.Gives root.place) root.origins (ofRoot root) := by
  have hrun := (Extraction.reflects_empty root.place).run root.events
  rw [ofRoot_eq_run]
  exact hrun.blocks

end MarkupCompiler
