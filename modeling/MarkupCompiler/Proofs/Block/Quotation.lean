import MarkupCompiler.Proofs.Block.Segment

/-!
# Depth of quotation

A paragraph is indented once for each quotation on the way to the node that makes it. Loose content is
flushed later than it is taken, but always at the depth where it stands: what opens or closes a
quotation flushes first. Quotations inside a loose piece do not count. In lower case there are none,
but the search that finds block-level content in an element does not see names in upper case.
-/

namespace MarkupCompiler

def AtDepth (depth : Nat) (pieces : List Site) : Prop :=
  ∀ piece ∈ pieces, Way.quotes piece.around = depth

/-- Loose pieces are flushed at the depth where they stand. -/
def Origin.IsLevel : Origin → Prop
  | .loose around pieces => AtDepth (Way.quotes around) pieces
  | _ => True

/-- Events at a depth of quotation flush all pieces at their depth, and leave pieces of this depth. -/
def Event.StaysAt (depth : Nat) (events : List Event) : Prop :=
  ∀ (past : List Event) (pieces : List Site), AtDepth depth pieces →
    (∀ origin ∈ originsOf past pieces events, origin.IsLevel) ∧
      AtDepth depth (pendingOf pieces events)

namespace Event.StaysAt

variable {depth inner : Nat} {events more : List Event}

theorem nil (depth : Nat) : StaysAt depth [] :=
  fun _ _ hpieces => ⟨by simp [originsOf], hpieces⟩

theorem append (h : StaysAt depth events) (hmore : StaysAt depth more) :
    StaysAt depth (events ++ more) := by
  intro past pieces hpieces
  obtain ⟨hfirst, hpending⟩ := h past pieces hpieces
  obtain ⟨hrest, hlast⟩ := hmore (past ++ events) _ hpending
  rw [originsOf_append, pendingOf_append]
  exact ⟨List.forall_mem_append.mpr ⟨hfirst, hrest⟩, hlast⟩

theorem flush {way : Way} (hway : Way.quotes way = depth) : StaysAt depth [.flush way] := by
  intro past pieces hpieces
  subst hway
  refine ⟨fun origin horigin => ?_, by simp [pendingOf, pending, AtDepth]⟩
  rw [originsOf, originsOf, List.append_nil] at horigin
  cases yields_of_mem_origins horigin with
  | loose around hne => exact hpieces

theorem loose {site : Site} (hsite : Way.quotes site.around = depth) :
    StaysAt depth [.loose site] := by
  intro past pieces hpieces
  refine ⟨by simp [originsOf, Event.origins], ?_⟩
  simp only [pendingOf, List.foldl_cons, List.foldl_nil, pending]
  split
  · exact hpieces
  · exact List.forall_mem_append.mpr ⟨hpieces, List.forall_mem_singleton.mpr hsite⟩

/-- Other events neither take nor flush loose pieces. -/
theorem other (depth : Nat) {event : Event} (hpending : ∀ pieces, event.pending pieces = pieces)
    (hflush : ∀ around, event ≠ .flush around) : StaysAt depth [event] := by
  intro past pieces hpieces
  rw [originsOf, originsOf, List.append_nil, pendingOf, List.foldl_cons, List.foldl_nil, hpending]
  refine ⟨fun origin horigin => ?_, hpieces⟩
  cases yields_of_mem_origins horigin with
  | loose around hne => exact absurd rfl (hflush around)
  | _ => trivial

/-- Between two flushes the depth may be another. -/
theorem enclosed {way close : Way} (hway : Way.quotes way = depth) (h : StaysAt inner events)
    (hclose : Way.quotes close = inner) : StaysAt depth ([.flush way] ++ events ++ [.flush close]) := by
  intro past pieces hpieces
  obtain ⟨hopen, -⟩ := flush hway past pieces hpieces
  obtain ⟨hinner, hpending⟩ := h (past ++ [.flush way]) [] (by simp [AtDepth])
  obtain ⟨hlast, -⟩ := flush hclose (past ++ ([.flush way] ++ events)) _ hpending
  rw [originsOf_append, originsOf_append, pendingOf_append, pendingOf_append]
  refine ⟨List.forall_mem_append.mpr ⟨List.forall_mem_append.mpr ⟨hopen, hinner⟩, hlast⟩, ?_⟩
  simp [pendingOf, pending, AtDepth]

end Event.StaysAt

theorem Tags.ne_blockquote_of_lists {name : String} (h : Tags.lists.contains name = true) :
    name ≠ "blockquote" := by
  rintro rfl
  exact absurd h (by decide)

/-- A segment stays at the depth of its way. -/
theorem Segment.staysAt {nodes : List Node} {way : Way} {zone : Zone} {events : List Event}
    (h : Segment nodes way zone events) : Event.StaysAt (Way.quotes way) events := by
  induction h with
  | nil way => exact .nil _
  | append _ _ ih ihmore => exact ih.append ihmore
  | flush way => exact .flush rfl
  | lineBreak way => exact .other _ (fun _ => rfl) (by simp)
  | loose hin hloose => exact .loose rfl
  | paragraph hin => exact .other _ (fun _ => rfl) (by simp)
  | table hin hname => exact .other _ (fun _ => rfl) (by simp)
  | @within way index tag events hname _ ih =>
    rwa [Way.quotes_concat_of_ne way index hname] at ih
  | enclosed _ ih => exact .enclosed rfl ih rfl
  | @list way index level tag children events hname hfollow hlevel _ ih =>
    rw [Way.quotes_concat_of_ne way index (Tags.ne_blockquote_of_lists hname)] at ih
    have hstart : Event.StaysAt (Way.quotes way)
        [.list (way ++ [(index, tag)]) (Text.lowerName tag == "ol") level] :=
      .other _ (fun _ => rfl) (by simp)
    exact (hstart.append ih).append (.flush rfl)
  | close way ordered level => exact .nil _
  | @item site ordered level events rest hin hname hlist hordered hlevel _ _ ih ihrest =>
    -- The lists inside an item are visited further down, but as deep in quotations as the item.
    have hquote : Text.lowerName site.node.tag ≠ "blockquote" := by rw [hname]; decide
    rw [Site.way, Way.quotes_concat_of_ne _ _ hquote] at ih
    have hitem : Event.StaysAt (Way.quotes site.around) [.item site ordered level] :=
      .other _ (fun _ => rfl) (by simp)
    exact (((Event.StaysAt.flush rfl).append hitem).append ih).append ihrest
  | other _ _ ih ihrest => exact ih.append ihrest

/-- All loose runs of a root end as deep in quotations as each of their pieces stands. -/
theorem Root.isLevel_origins (root : Root) : ∀ origin ∈ root.origins, origin.IsLevel :=
  (root.segment_events.staysAt [] [] (by simp [AtDepth])).1

/-- The other node is the node itself or stands below it. -/
def Site.Holds (site inner : Site) : Prop := inner = site ∨ site.way <+: inner.around

theorem Node.anyNamedIn_eq_any (names : List String) (nodes : List Node) :
    anyNamedIn names nodes = nodes.any (anyNamed names) := by
  induction nodes with
  | nil => rfl
  | cons node nodes ih => rw [anyNamedIn, ih, List.any_cons]

/-- Below nodes without block-level names, a way of names in lower case has no quotation on it. -/
theorem Node.quotes_eq_zero {nodes siblings : List Node} {way : Way}
    (hnone : anyNamedIn Tags.blockLevel nodes = false) (h : follow nodes way = some siblings)
    (hlower : ∀ step ∈ way, Text.lowerName step.2 = step.2) : Way.quotes way = 0 := by
  induction way generalizing nodes with
  | nil => rfl
  | cons step way ih =>
    obtain ⟨index, name⟩ := step
    obtain ⟨hname, hway⟩ := List.forall_mem_cons.mp hlower
    rw [follow] at h
    split at h
    · next tag attributes children hnode =>
      split at h
      · next htag =>
        rw [anyNamedIn_eq_any, List.any_eq_false] at hnone
        have helement := hnone _ (List.mem_of_getElem? hnode)
        rw [Bool.not_eq_true, anyNamed, Bool.or_eq_false_iff] at helement
        have hquote : Text.lowerName name ≠ "blockquote" := by
          rw [hname]
          rintro rfl
          rw [eq_of_beq htag] at helement
          exact absurd helement.1 (by decide)
        have hrest := ih helement.2 h hway
        rw [Way.quotes, List.countP_cons_of_neg (by simpa using hquote)]
        exact hrest
      · exact absurd h (by simp)
    · exact absurd h (by simp)

/-- What stands below an element is found from its children on. -/
theorem Site.follow_below {nodes siblings : List Node} {site : Site} {inner : Way}
    (h : site.IsIn nodes) (hinner : Node.follow nodes (site.way ++ inner) = some siblings) :
    Node.follow site.node.children inner = some siblings ∧
      ∃ attributes, site.node = .element site.node.tag attributes site.node.children := by
  obtain ⟨around, index, node⟩ := site
  obtain ⟨before, hfollow, hindex⟩ := h
  cases node with
  | element tag attributes children =>
    rw [way, Node.follow_append, Node.tag, Node.follow_concat hfollow hindex] at hinner
    exact ⟨hinner, attributes, rfl⟩
  | text content =>
    rw [way, Node.follow_append, Node.follow_append, hfollow, Option.bind_some, Node.follow,
      hindex] at hinner
    exact absurd hinner (by simp)
  | special kind content =>
    rw [way, Node.follow_append, Node.follow_append, hfollow, Option.bind_some, Node.follow,
      hindex] at hinner
    exact absurd hinner (by simp)

/-- A loose piece is no quotation; only those inside it are deeper than the piece. -/
theorem Site.quotes_inside {nodes : List Node} {piece inner : Site} (hpiece : piece.IsIn nodes)
    (hloose : piece.node.isLoose = true) (hinner : inner.IsIn nodes) (h : piece.Holds inner) :
    Way.quotes inner.around =
        Way.quotes piece.around + Way.quotes (inner.around.drop piece.way.length) ∧
      ((∀ step ∈ inner.around.drop piece.way.length, Text.lowerName step.2 = step.2) →
        Way.quotes (inner.around.drop piece.way.length) = 0) := by
  rcases h with rfl | ⟨rest, hrest⟩
  · have hnone : inner.around.drop inner.way.length = [] := by
      rw [List.drop_eq_nil_iff, way, List.length_append]
      exact Nat.le_add_right _ _
    rw [hnone]
    exact ⟨rfl, fun _ => rfl⟩
  · obtain ⟨siblings, hfollow, -⟩ := hinner
    rw [← hrest] at hfollow
    obtain ⟨hbelow, attributes, hnode⟩ := piece.follow_below hpiece hfollow
    rw [hnode, Node.isLoose, Bool.and_eq_true, Bool.not_eq_true', Bool.not_eq_true'] at hloose
    have hquote : Text.lowerName piece.node.tag ≠ "blockquote" := by
      intro hname
      rw [hname] at hloose
      exact absurd hloose.1 (by decide)
    rw [← hrest, List.drop_left, Way.quotes_append, way,
      Way.quotes_concat_of_ne piece.around piece.index hquote]
    exact ⟨rfl, Node.quotes_eq_zero hloose.2 hbelow⟩

def quotationIndent (depth : Nat) : Option Float :=
  if depth = 0 then none else some (Float.ofNat (36 * depth))

def Block.IndentedAt (depth : Nat) (block : Block) : Prop :=
  block.paragraphStyle.indentStart = quotationIndent depth ∧
    block.paragraphStyle.indentFirstLine = quotationIndent depth

theorem Surroundings.indents_indented (s : Surroundings) (style : ParagraphStyle)
    (hstart : style.indentStart = none) (hfirst : style.indentFirstLine = none) :
    (s.indented style).indentStart = quotationIndent s.quoteDepth ∧
      (s.indented style).indentFirstLine = quotationIndent s.quoteDepth := by
  rw [indented, quotationIndent]
  by_cases hdepth : s.quoteDepth = 0
  · rw [if_pos (beq_iff_eq.mpr hdepth), if_pos hdepth]
    exact ⟨hstart, hfirst⟩
  · rw [if_neg (mt beq_iff_eq.mp hdepth), if_neg hdepth]
    simp [ParagraphStyle.merged, hstart, hfirst, quoteIndent]

/--
How far a block of an origin is indented. Where a loose run has no quotation inside its pieces, its
depth is also that of every node in them.
-/
def Origin.Indents (nodes : List Node) (block : Block) : Origin → Prop
  | .paragraph site =>
    block.list? = none ∧ block.cell? = none ∧ block.IndentedAt (Way.quotes site.way)
  | .loose around pieces =>
    block.list? = none ∧ block.cell? = none ∧ block.IndentedAt (Way.quotes around) ∧
      ∀ piece ∈ pieces, Way.quotes piece.around = Way.quotes around ∧
        ∀ inner : Site, inner.IsIn nodes → piece.Holds inner →
          (Way.quotes inner.around = Way.quotes around ↔
            Way.quotes (inner.around.drop piece.way.length) = 0) ∧
          ((∀ step ∈ inner.around, Text.lowerName step.2 = step.2) →
            Way.quotes inner.around = Way.quotes around)
  | .item _ _ _ _ => block.list? ≠ none ∧ block.IndentedAt 0
  | .cell _ _ => block.cell? ≠ none ∧ block.IndentedAt 0

/-- Line breaks behind a block change none of this. -/
theorem Origin.Indents.lengthens {nodes : List Node} {origin : Origin} {made block : Block}
    (h : origin.Indents nodes made) (hlengthens : made.Lengthens block) :
    origin.Indents nodes block := by
  obtain ⟨k, rfl⟩ := hlengthens
  cases origin with
  | paragraph site => exact h
  | loose around pieces => exact h
  | item site ordered level past => exact h
  | cell table own => exact h

theorem Origin.Makes.indents {place : TextKind} {nodes : List Node} {origin : Origin} {block : Block}
    (h : origin.Makes place block) (hin : origin.IsIn nodes) (hlevel : origin.IsLevel) :
    origin.Indents nodes block := by
  cases h with
  | paragraph site =>
    refine ⟨rfl, rfl, ?_⟩
    have hindents :=
      (Surroundings.along place site.way).indents_indented site.paragraphStyle rfl rfl
    rwa [Surroundings.quoteDepth_along] at hindents
  | @loose around pieces t is ranges hjoined hperm hsorted =>
    have hindents :=
      (Surroundings.along place around).indents_indented ParagraphStyle.normal rfl rfl
    rw [Surroundings.quoteDepth_along] at hindents
    refine ⟨rfl, rfl, hindents, fun piece hpiece => ⟨hlevel piece hpiece, ?_⟩⟩
    intro inner hinner hholds
    obtain ⟨hpiecein, hloose⟩ := hin.2 piece hpiece
    obtain ⟨hsum, hlower⟩ := Site.quotes_inside hpiecein hloose hinner hholds
    rw [hlevel piece hpiece] at hsum
    refine ⟨by omega, fun hnames => ?_⟩
    have hzero := hlower fun step hstep => hnames step (List.mem_of_mem_drop hstep)
    omega
  | item site ordered level past => exact ⟨by simp [Site.itemBlock], rfl, rfl⟩
  | cell table own n row column => exact ⟨by simp [Table.cellBlock], rfl, rfl⟩

/--
A block that is no list item and no table cell is indented once for each quotation on the way to the
node that makes it, this node included; list items and cells are not indented. A loose run is
indented once for each quotation around its pieces. That is the depth of a node in a piece exactly if
no quotation stands between the piece and the node, and always if the names on the way to the node are
in lower case.
-/
theorem Block.indents_ofRoot (root : Root) :
    List.Forall₂
      (fun origin block =>
        origin.IsIn root.nodes ∧ origin.Gives root.place block ∧ origin.Indents root.nodes block)
      root.origins (ofRoot root) := by
  have hgives := (List.forall₂_and_left _ _).mpr ⟨root.isLevel_origins, gives_ofRoot root⟩
  have hall := (List.forall₂_and_left _ _).mpr ⟨root.isIn_origins, hgives⟩
  refine hall.imp ?_
  rintro origin block ⟨hin, hlevel, made, hmakes, hlengthens⟩
  exact ⟨hin, ⟨made, hmakes, hlengthens⟩, (hmakes.indents hin hlevel).lengthens hlengthens⟩

/-- A quotation in upper case inside an inline element gives its text no indent. -/
theorem Block.upper_case_quotation_not_indented :
    let quotation : Node := .element "BLOCKQUOTE" [] [.text ['x']]
    let root : Root := .document [.element "span" [] [quotation]]
    let text : Site := ⟨[(0, "span"), (0, "BLOCKQUOTE")], 0, .text ['x']⟩
    text.IsIn root.nodes ∧ Way.quotes text.around = 1 ∧ ofRoot root = [{ text := ['x'] }] ∧
      ¬ IndentedAt (Way.quotes text.around) { text := ['x'] } := by
  intro quotation root text
  have hdepth : Way.quotes text.around = 1 := by decide +kernel
  refine ⟨⟨[.text ['x']], rfl, rfl⟩, hdepth, by decide +kernel, ?_⟩
  rw [hdepth]
  rintro ⟨hstart, -⟩
  exact absurd hstart (by simp [quotationIndent, ParagraphStyle.normal])

end MarkupCompiler
