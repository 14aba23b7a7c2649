import MarkupCompiler.Proofs.Request.BlockRequests
import MarkupCompiler.Proofs.Style.ParagraphSlot

/-!
# What overrides come to

Paragraph styles come from two places: with a block, where the overrides of the configuration are
laid over the markup, and at the end of a list, where nested items are indented. Each request
covers the paragraph of one block. So a paragraph ends with its own style and, if it is a nested
item, with the indents of its level over it: there the overrides of the indents are lost.
-/

namespace MarkupCompiler

namespace Request

def paragraphStyleAt? (a : Int) : Request → Option ParagraphStyle
  | .setParagraphStyle start stop style => if start ≤ a ∧ a < stop then some style else none
  | _ => none

/-- The style that requests leave the paragraph at a position, later ones over earlier ones. -/
def paragraphAt (requests : List Request) (a : Int) : ParagraphStyle :=
  (requests.filterMap (paragraphStyleAt? a)).foldl ParagraphStyle.merged {}

end Request

namespace Block

/-- The indents that a list gives its nested item. -/
def nestedIndent? (config : Config) (b : Block) : Option ParagraphStyle :=
  (b.list?.filter fun list => list.nestingLevel != 0).map fun list =>
    config.levelIndent list.nestingLevel

end Block

open PlacedBlock (place listRuns listRequests arrange)

namespace PlacedBlock

variable {config : Config} {regions : List TableRegion} {own : PlacedBlock → List Request}

section Only

variable {β : Type} {f : Request → Option β}

/-- None of a block's requests has what is looked for, neither its own nor its indent. -/
structure Silent (config : Config) (own : PlacedBlock → List Request) (f : Request → Option β)
    (p : PlacedBlock) : Prop where
  own : (own p).filterMap f = []
  indent : (p.indent? config).bind f = none

theorem flatMap_own_of_silent {ps : List PlacedBlock} (h : ∀ p ∈ ps, Silent config own f p) :
    (ps.flatMap fun p => (own p).filterMap f) = [] :=
  List.flatMap_eq_nil_iff.mpr fun p hp => (h p hp).own

theorem filterMap_indents_of_silent {ps : List PlacedBlock}
    (h : ∀ p ∈ ps, Silent config own f p) :
    (ps.filterMap fun p => (p.indent? config).bind f) = [] :=
  List.filterMap_eq_nil_iff.mpr fun p hp => (h p hp).indent

variable (hbullet : ∀ a z isOrdered, f (.setListBullet a z isOrdered) = none)
include hbullet

theorem filterMap_listRequests_indents (run : List PlacedBlock) :
    (listRequests config run).filterMap f = run.filterMap fun p => (p.indent? config).bind f := by
  have hbullets : (bullets run).filterMap f = [] := by
    refine List.filterMap_eq_nil_iff.mpr fun r hr => ?_
    obtain ⟨-, -, -, -, -, -, -, rfl⟩ := mem_bullets hr
    exact hbullet _ _ _
  rw [listRequests, List.filterMap_append, hbullets, List.nil_append, List.filterMap_filterMap]

/-- Silent blocks contribute nothing, and what waits for their requests stays. -/
theorem filterMap_arrange_silent {runs : List (List PlacedBlock)}
    (h : ∀ p ∈ runs.flatten, Silent config own f p) (pending : List Request) :
    (arrange config own pending runs).filterMap f = pending.filterMap f := by
  have hlists : (runs.flatMap fun run => (listRequests config run).filterMap f) = [] := by
    refine List.flatMap_eq_nil_iff.mpr fun run hrun => ?_
    rw [filterMap_listRequests_indents hbullet]
    exact filterMap_indents_of_silent fun p hp => h p (List.mem_flatten.mpr ⟨run, hrun, hp⟩)
  rw [filterMap_arrange_lists fun p hp => (h p hp).own, hlists, List.append_nil]

/-- Among silent blocks a block's own requests come first, and then its indent. -/
theorem filterMap_arrange_only {runs : List (List PlacedBlock)} {before after : List PlacedBlock}
    {q : PlacedBlock} (h : runs.flatten = before ++ q :: after)
    (hbefore : ∀ p ∈ before, Silent config own f p)
    (hafter : ∀ p ∈ after, Silent config own f p) {pending : List Request}
    (hpending : pending.filterMap f = []) :
    (arrange config own pending runs).filterMap f =
      (own q).filterMap f ++ ((q.indent? config).bind f).toList := by
  induction runs generalizing before pending with
  | nil => exact absurd h (by simp)
  | cons run runs ih =>
    cases run with
    | nil => exact ih h hbefore hpending
    | cons first rest =>
      -- What waits in front of a run has nothing that is looked for, so its place does not matter.
      have hrun : ∀ more, ((if first.block.isListItem then own first ++ pending
          else pending ++ own first) ++ rest.flatMap own ++ more).filterMap f =
            ((first :: rest).flatMap fun p => (own p).filterMap f) ++ more.filterMap f := by
        intro more
        rw [List.filterMap_append, List.filterMap_append, filterMap_first own hpending,
          List.filterMap_flatMap, List.flatMap_cons]
      rw [List.flatten_cons] at h
      rw [arrange, hrun]
      rcases split_of_append_eq h with ⟨more, rfl, hmore⟩ | ⟨more, hsplit⟩
      · -- The block stands in a later run.
        have hsilent := fun p hp => hbefore p (List.mem_append_left more hp)
        have hclosing : (listRequests config (first :: rest)).filterMap f = [] := by
          rw [filterMap_listRequests_indents hbullet]
          exact filterMap_indents_of_silent hsilent
        rw [flatMap_own_of_silent hsilent, List.nil_append]
        exact ih hmore (fun p hp => hbefore p (List.mem_append_right _ hp)) hclosing
      · rw [hsplit, List.append_assoc, List.cons_append, List.append_cancel_left_eq] at h
        obtain ⟨-, rfl⟩ := List.cons.inj h
        have hmore := fun p hp => hafter p (List.mem_append_left _ hp)
        have hlater := fun p hp => hafter p (List.mem_append_right _ hp)
        rw [filterMap_arrange_silent hbullet hlater, filterMap_listRequests_indents hbullet, hsplit,
          List.flatMap_append, List.flatMap_cons, flatMap_own_of_silent hbefore,
          flatMap_own_of_silent hmore, List.filterMap_append, List.filterMap_cons,
          filterMap_indents_of_silent hbefore, filterMap_indents_of_silent hmore]
        cases (q.indent? config).bind f <;> simp

end Only

/-- A block that does not cover a position styles no paragraph there. -/
theorem silent_of_outside {p : PlacedBlock} (hown : p.requests config regions = .ok (own p))
    {a : Int} (h : ¬(p.start ≤ a ∧ a < p.stop)) :
    Silent config own (Request.paragraphStyleAt? a) p := by
  have hstyle : ∀ style, Request.paragraphStyleAt? a (.setParagraphStyle p.start p.stop style) =
      none := fun style => if_neg h
  constructor
  · refine List.filterMap_eq_nil_iff.mpr fun r hr => ?_
    cases makes_of_mem_own hown hr with
    | paragraph => exact hstyle _
    | table => rfl
    | insertion => rfl
    | text => rfl
  · refine Option.bind_eq_none_iff.mpr fun r hr => ?_
    obtain ⟨list, -, -, rfl⟩ := indent?_eq_some hr
    exact hstyle _

theorem paragraphStyleAt?_own {p : PlacedBlock} {requests : List Request}
    (hown : p.requests config regions = .ok requests) {a : Int} (h : p.start ≤ a ∧ a < p.stop) :
    ∃ style, config.paragraphStyleFor p.block.paragraphStyle = .ok style ∧
      requests.filterMap (Request.paragraphStyleAt? a) = if style.isEmpty then [] else [style] := by
  obtain ⟨paragraph, text, hparts⟩ := Block.exists_parts hown
  have hparagraph := hparts.paragraph_eq
  rw [Block.paragraphRequests] at hparagraph
  cases hstyle : config.paragraphStyleFor p.block.paragraphStyle with
  | error fault => rw [hstyle] at hparagraph; exact absurd hparagraph (by simp [Except.map])
  | ok style =>
    rw [hstyle] at hparagraph
    refine ⟨style, rfl, ?_⟩
    rw [hparts.own_eq, List.filterMap_append, Block.filterMap_tableRequests _ fun _ _ _ => rfl,
      List.nil_append, List.filterMap_cons_none rfl, List.filterMap_append,
      Block.filterMap_textRequests hparts.text_eq fun _ _ _ => rfl, List.append_nil,
      ← Except.ok.inj hparagraph]
    change (if style.isEmpty then [] else [Request.setParagraphStyle p.start p.stop style]).filterMap
      (Request.paragraphStyleAt? a) = _
    have hcovers : Request.paragraphStyleAt? a (.setParagraphStyle p.start p.stop style) =
        some style := if_pos h
    cases style.isEmpty with
    | true => rfl
    | false => exact List.filterMap_cons_some hcovers

theorem paragraphStyleAt?_indent {p : PlacedBlock} {a : Int} (h : p.start ≤ a ∧ a < p.stop) :
    (p.indent? config).bind (Request.paragraphStyleAt? a) = p.block.nestedIndent? config := by
  rw [indent?, Block.nestedIndent?]
  cases p.block.list? with
  | none => rfl
  | some list =>
    by_cases hlevel : list.nestingLevel = 0
    · simp [hlevel, Option.filter_some]
    · simp [hlevel, Option.filter_some, Request.paragraphStyleAt?, h]

/-- A paragraph ends with the style of its block, and with the indents of a nested item over it. -/
theorem paragraphAt_arrange {index : Nat} {position : Int} {blocks : List Block}
    (hown : ∀ p ∈ place index position blocks, p.requests config regions = .ok (own p))
    {q : PlacedBlock} (hq : q ∈ place index position blocks) {a : Int}
    (ha : q.start ≤ a ∧ a < q.stop) :
    ∃ style, config.paragraphStyleFor q.block.paragraphStyle = .ok style ∧
      Request.paragraphAt (arrange config own [] (listRuns (place index position blocks))) a =
        style.mergedWith (q.block.nestedIndent? config) := by
  obtain ⟨before, after, hsplit⟩ := List.append_of_mem hq
  have hsorted := pairwise_place index position blocks
  rw [hsplit] at hsorted hown
  obtain ⟨-, hafter, hbefore⟩ := List.pairwise_append.mp hsorted
  have hbeforeSilent : ∀ p ∈ before, Silent config own (Request.paragraphStyleAt? a) p := by
    intro p hp
    have hstop := (hbefore p hp q List.mem_cons_self).2
    exact silent_of_outside (hown p (by simp [hp])) (by omega)
  have hafterSilent : ∀ p ∈ after, Silent config own (Request.paragraphStyleAt? a) p := by
    intro p hp
    have hstart := ((List.pairwise_cons.mp hafter).1 p hp).2
    exact silent_of_outside (hown p (by simp [hp])) (by omega)
  obtain ⟨style, hstyle, hown⟩ := paragraphStyleAt?_own (hown q (by simp)) ha
  refine ⟨style, hstyle, ?_⟩
  rw [Request.paragraphAt, filterMap_arrange_only (fun _ _ _ => rfl)
    ((flatten_listRuns _).trans hsplit) hbeforeSilent hafterSilent rfl, hown,
    paragraphStyleAt?_indent ha]
  have hfirst : (if style.isEmpty then [] else [style]).foldl ParagraphStyle.merged {} = style := by
    cases hempty : style.isEmpty with
    | true => exact (ParagraphStyle.eq_empty_of_isEmpty hempty).symm
    | false => exact ParagraphStyle.empty_merged style
  rw [List.foldl_append, hfirst]
  cases q.block.nestedIndent? config <;> rfl

end PlacedBlock

namespace Block

/-- Whether the block is a list item below the outermost level. -/
def isNested (b : Block) : Bool := b.list?.any fun list => list.nestingLevel != 0

theorem nestedIndent?_of_nested {config : Config} {b : Block} {list : ListMembership}
    (hlist : b.list? = some list) (hne : list.nestingLevel ≠ 0) :
    b.nestedIndent? config = some (config.levelIndent list.nestingLevel) := by
  simp [nestedIndent?, hlist, Option.filter_some, hne]

theorem slot_nestedIndent?_of_free {config : Config} {b : Block} {k : ParagraphSlot}
    (h : (b.isNested && k.isIndent) = false) :
    ((b.nestedIndent? config).bind fun indent => indent.slot k) = none := by
  rw [isNested] at h
  cases hlist : b.list? with
  | none => simp [nestedIndent?, hlist]
  | some list =>
    by_cases hlevel : list.nestingLevel = 0
    · simp [nestedIndent?, hlist, Option.filter_some, hlevel]
    · have hk : k.isIndent = false := by simpa [hlist, hlevel] using h
      rw [nestedIndent?_of_nested hlist hlevel]
      cases k with
      | namedStyle => rfl
      | alignment => rfl
      | indentStart => exact absurd hk (by decide)
      | indentFirstLine => exact absurd hk (by decide)

end Block

namespace Generator

structure Prevails (config : Config) (b : Block) (k : ParagraphSlot) (final : ParagraphStyle) :
    Prop where
  general : ∀ value, config.paragraphDefault.paragraphSlot k = some value →
    (b.paragraphStyle.isHeading = true → config.headingDefault.paragraphSlot k = none) →
      final.slot k = some value
  heading : ∀ value, b.paragraphStyle.isHeading = true →
    config.headingDefault.paragraphSlot k = some value → final.slot k = some value

/-- What a slot of a paragraph ends with, when the style requests have been made in order. -/
structure Settles (config : Config) (b : Block) (k : ParagraphSlot) (final : ParagraphStyle) :
    Prop where
  /-- The indents of a nested item come first, then the overrides, then the markup. -/
  slot_eq : final.slot k =
    ((b.nestedIndent? config).bind fun indent => indent.slot k).or
      ((config.overrideSlot b.paragraphStyle.isHeading k).or (b.paragraphStyle.slot k))
  /-- Overrides prevail but for the indents of nested items. -/
  prevails : (b.isNested && k.isIndent) = false → Prevails config b k final
  /-- The indents of a nested item are those of its level, whatever the overrides. -/
  indented : ∀ list, b.list? = some list → list.nestingLevel ≠ 0 → k.isIndent = true →
    final.slot k = (config.levelIndent list.nestingLevel).slot k

theorem settles_of_merged {config : Config} {b : Block} {style : ParagraphStyle}
    (h : config.paragraphStyleFor b.paragraphStyle = .ok style) (k : ParagraphSlot) :
    Settles config b k (style.mergedWith (b.nestedIndent? config)) := by
  have hslot : (style.mergedWith (b.nestedIndent? config)).slot k =
      ((b.nestedIndent? config).bind fun indent => indent.slot k).or
        ((config.overrideSlot b.paragraphStyle.isHeading k).or (b.paragraphStyle.slot k)) := by
    rw [← Config.slot_paragraphStyleFor h k]
    cases b.nestedIndent? config with
    | none => rfl
    | some indent => exact ParagraphStyle.slot_merged style indent k
  constructor
  case slot_eq => exact hslot
  case prevails =>
    intro hfree
    rw [Block.slot_nestedIndent?_of_free hfree, Option.none_or] at hslot
    constructor
    · intro value hvalue hheading
      rw [hslot, Config.overrideSlot, hvalue]
      cases hrank : b.paragraphStyle.isHeading with
      | false => rfl
      | true =>
        rw [hheading hrank]
        rfl
    · intro value hheading hvalue
      rw [hslot, Config.overrideSlot, if_pos hheading, hvalue]
      rfl
  case indented =>
    intro list hlist hne hk
    rw [hslot, Block.nestedIndent?_of_nested hlist hne]
    cases k with
    | indentStart => rfl
    | indentFirstLine => rfl
    | namedStyle => exact absurd hk (by decide)
    | alignment => exact absurd hk (by decide)

/--
A call that succeeds settles every paragraph: the overrides of the configuration prevail, but for
the indents of nested list items.
-/
theorem generate_overrides {blocks : List Block} {start : Int} {g g' : Generator}
    {requests : List Request} (h : generate blocks (.int start) g = (.ok requests, g')) {n : Nat}
    {b : Block} (hb : blocks[n]? = some b) {a : Int}
    (hlow : start + (Block.stream (blocks.take n)).length ≤ a)
    (hhigh : a < start + (Block.stream (blocks.take n)).length + (b.text.length + 1))
    (k : ParagraphSlot) : Settles g.config b k (Request.paragraphAt requests a) := by
  obtain ⟨own, harranged⟩ := exists_arranged h
  have hplaced := PlacedBlock.getElem?_place 0 start blocks n
  rw [hb] at hplaced
  obtain ⟨style, hstyle, hfinal⟩ := PlacedBlock.paragraphAt_arrange harranged.own_eq
    (List.mem_of_getElem? hplaced) ⟨hlow, hhigh⟩
  rw [harranged.requests_eq, hfinal]
  exact settles_of_merged hstyle k

/-- A nested heading: the overrides prevail in its name and alignment, and its level indents it. -/
theorem generate_overrides_nested :
    let config : Config :=
      { paragraphDefault := .paragraphStyle { alignment := some "CENTER", indentStart := some 10.0 },
        headingDefault := .paragraphStyle { alignment := some "END" } }
    let heading : ParagraphStyle := { namedStyle := some "HEADING_2" }
    let first : Block := { text := ['a'] }
    let nested : Block :=
      { text := ['b'], paragraphStyle := heading,
        list? := some { ordered := true, nestingLevel := 1 } }
    let requests : List Request :=
      [.insertText 1 ['a', '\n'],
        .setParagraphStyle 1 3 { ParagraphStyle.normal with
          alignment := some "CENTER", indentStart := some 10.0 },
        .insertText 3 ['b', '\n'],
        .setParagraphStyle 3 5 { heading with alignment := some "END", indentStart := some 10.0 },
        .setListBullet 3 4 true, .setParagraphStyle 3 5 (config.levelIndent 1)]
    generate [first, nested] (.int 1) { config := config } =
        (.ok requests, { config := config, cursor := 5 }) ∧
      Settles config nested .alignment (Request.paragraphAt requests 4) ∧
      Settles config nested .indentStart (Request.paragraphAt requests 4) := by
  intro config heading first nested requests
  have hgenerate : generate [first, nested] (.int 1) { config := config } =
      (.ok requests, { config := config, cursor := 5 }) :=
    generate_of_run (by decide) (by decide +kernel)
  have hnested : [first, nested][1]? = some nested := rfl
  exact ⟨hgenerate, generate_overrides hgenerate hnested (by decide) (by decide) .alignment,
    generate_overrides hgenerate hnested (by decide) (by decide) .indentStart⟩

/-- The indent of a nested item is not the one that the configuration asks for. -/
theorem nested_indent_prevails :
    ¬∀ {blocks : List Block} {start : Int} {g g' : Generator} {requests : List Request},
      generate blocks (.int start) g = (.ok requests, g') → ∀ {n : Nat} {b : Block},
        blocks[n]? = some b → ∀ {a : Int}, start + (Block.stream (blocks.take n)).length ≤ a →
          a < start + (Block.stream (blocks.take n)).length + (b.text.length + 1) →
            ∀ k, Prevails g.config b k (Request.paragraphAt requests a) := by
  intro hall
  let config : Config := { paragraphDefault := .paragraphStyle { indentStart := some 10.0 } }
  let nested : Block :=
    { text := ['a'], list? := some { ordered := false, nestingLevel := 1 } }
  let requests : List Request :=
    [.insertText 1 ['a', '\n'],
      .setParagraphStyle 1 3 { ParagraphStyle.normal with indentStart := some 10.0 },
      .setListBullet 1 2 false, .setParagraphStyle 1 3 (config.levelIndent 1)]
  have hgenerate : generate [nested] (.int 1) { config := config } =
      (.ok requests, { config := config, cursor := 3 }) :=
    generate_of_run (by decide) (by decide +kernel)
  have hprevails := hall hgenerate (n := 0) (b := nested) rfl (a := 1) (by decide) (by decide)
    .indentStart
  have hoverride : (config.levelIndent 1).slot .indentStart = some (.points 10.0) :=
    hprevails.general (.points 10.0) rfl (by decide)
  have hindent : (config.levelIndent 1).slot .indentStart ≠ some (.points 10.0) := by
    decide +kernel
  exact hindent hoverride

end Generator

end MarkupCompiler
