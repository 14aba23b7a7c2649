import MarkupCompiler.Proofs.Block.Origin

/-!
# Segments of a walk

The events of a walk are nested as the elements are that they belong to. A segment is what happens
among the siblings at the end of one way, and it is made of shorter segments: those of the elements
that are entered there, each closed when it is left. A property of a walk is proved by induction on
its segments, with one case for each thing that can happen, whatever route leads to it.
-/

namespace MarkupCompiler

/-- Whether a visit takes the node as loose content. -/
def Node.isLoose : Node → Bool
  | .text _ => true
  | .special _ _ => false
  | .element tag _ children =>
    !Tags.blockLevel.contains (Text.lowerName tag) && !anyNamedIn Tags.blockLevel children

/-- How many items stand at the end of a way. -/
def Way.items (nodes : List Node) (way : Way) : Nat :=
  ((Node.follow nodes way).getD []).countP fun node => node.isNamed ["li"]

/-- How many items stand before the node among its siblings. -/
def Site.itemsBefore (nodes : List Node) (site : Site) : Nat :=
  (((Node.follow nodes site.around).getD []).take site.index).countP fun node =>
    node.isNamed ["li"]

/-- What the siblings of a segment are: visited one by one, or the children of a list. -/
inductive Zone where
  | flow
  /-- A list of a kind and level, before a child that so many items stand before. -/
  | list (ordered : Bool) (level earlier : Nat)

/-- The events among the siblings at the end of a way. -/
inductive Segment (nodes : List Node) : Way → Zone → List Event → Prop
  | nil (way : Way) : Segment nodes way .flow []
  | append {way : Way} {events more : List Event} (h : Segment nodes way .flow events)
    (hmore : Segment nodes way .flow more) : Segment nodes way .flow (events ++ more)
  | flush (way : Way) : Segment nodes way .flow [.flush way]
  | lineBreak (way : Way) : Segment nodes way .flow [.lineBreak]
  | loose {site : Site} (hin : site.IsIn nodes) (hloose : site.node.isLoose = true) :
    Segment nodes site.around .flow [.loose site]
  | paragraph {site : Site} (hin : site.IsIn nodes) :
    Segment nodes site.around .flow [.paragraph site]
  | table {site : Site} (hin : site.IsIn nodes) (hname : Text.lowerName site.node.tag = "table") :
    Segment nodes site.around .flow [.table site]
  /-- An element that is no quotation is entered. -/
  | within {way : Way} {index : Nat} {tag : String} {events : List Event}
    (hname : Text.lowerName tag ≠ "blockquote")
    (h : Segment nodes (way ++ [(index, tag)]) .flow events) : Segment nodes way .flow events
  /-- Loose content ends where a block-level element starts, and again where it ends. -/
  | enclosed {way : Way} {index : Nat} {tag : String} {events : List Event}
    (h : Segment nodes (way ++ [(index, tag)]) .flow events) :
    Segment nodes way .flow ([.flush way] ++ events ++ [.flush (way ++ [(index, tag)])])
  | list {way : Way} {index level : Nat} {tag : String} {children : List Node}
    {events : List Event}
    (hname : Tags.lists.contains (Text.lowerName tag) = true)
    (hfollow : Node.follow nodes (way ++ [(index, tag)]) = some children)
    (hlevel : Way.level way = level)
    (h : Segment nodes (way ++ [(index, tag)]) (.list (Text.lowerName tag == "ol") level 0) events) :
    Segment nodes way .flow
      ([.list (way ++ [(index, tag)]) (Text.lowerName tag == "ol") level] ++ events ++ [.flush way])
  /-- The end of a list, behind all its items. -/
  | close (way : Way) (ordered : Bool) (level : Nat) :
    Segment nodes way (.list ordered level (Way.items nodes way)) []
  /-- An item, with the lists inside it, and the rest of the list behind it. -/
  | item {site : Site} {ordered : Bool} {level : Nat} {events rest : List Event}
    (hin : site.IsIn nodes) (hname : Text.lowerName site.node.tag = "li")
    (hlist : Tags.lists.contains (Way.name site.around) = true)
    (hordered : (Way.name site.around == "ol") = ordered)
    (hlevel : Way.level site.around = level + 1)
    (h : Segment nodes site.way .flow events)
    (hrest : Segment nodes site.around (.list ordered level (site.itemsBefore nodes + 1)) rest) :
    Segment nodes site.around (.list ordered level (site.itemsBefore nodes))
      ([.flush site.around, .item site ordered level] ++ events ++ rest)
  /-- Another child of a list, and the rest of the list behind it. -/
  | other {way : Way} {ordered : Bool} {level earlier : Nat} {events rest : List Event}
    (h : Segment nodes way .flow events)
    (hrest : Segment nodes way (.list ordered level earlier) rest) :
    Segment nodes way (.list ordered level earlier) (events ++ rest)

theorem Node.anyNamedIn_of_whole {tag : String} {children : List Node}
    (hroute : Route.of tag children = .whole)
    (hblock : Tags.blockLevel.contains (Text.lowerName tag) = false) :
    anyNamedIn Tags.blockLevel children = false := by
  have hparagraph : Tags.paragraphs.contains (Text.lowerName tag) = false :=
    Extraction.not_contains_of_not_blockLevel (by decide) hblock
  by_contra hinner
  rw [Bool.not_eq_false] at hinner
  simp only [Route.of, hparagraph, hinner, Bool.not_true, Bool.and_false, Bool.false_eq_true,
    if_false] at hroute
  split_ifs at hroute

/-- A list is taken as a list, and nothing else is. -/
theorem Route.eq_list_iff {tag : String} {children : List Node} :
    Route.of tag children = .list ↔ Tags.lists.contains (Text.lowerName tag) = true := by
  constructor
  · intro hroute
    by_contra hlist
    rw [Bool.not_eq_true] at hlist
    simp only [Route.of, hlist, Bool.false_eq_true, if_false] at hroute
    split_ifs at hroute
  · intro hlist
    have hnames : ∀ name ∈ Tags.lists, Tags.skipped.contains name = false ∧
        (name == "br") = false ∧ Tags.paragraphs.contains name = false := by decide
    obtain ⟨hskipped, hbreak, hparagraph⟩ := hnames _ (List.contains_iff_mem.mp hlist)
    simp only [Route.of, hskipped, hbreak, hparagraph, hlist, Bool.false_eq_true, if_false, if_true]

/-- Whether a node is a list or an item. -/
def Node.isListPart (node : Node) : Bool := node.isNamed ("li" :: Tags.lists)

/-- Among siblings where lists start from level zero, an element that is entered starts there too. -/
theorem Way.level_of_entered {way : Way} {index : Nat} {tag : String} {attributes : Attributes}
    {children : List Node} (hlist : Tags.lists.contains (Text.lowerName tag) = false)
    (h : Way.level way = 0 ∨ (Node.element tag attributes children).isListPart = false) :
    Way.level (way ++ [(index, tag)]) = 0 := by
  rw [level_concat, hlist, if_neg Bool.false_ne_true]
  split
  · next hitem =>
    refine h.resolve_right fun hpart => ?_
    rw [Node.isListPart, Node.isNamed, List.contains_cons, (Bool.and_eq_true_iff.mp hitem).1] at hpart
    exact absurd hpart (by simp)
  · rfl

/-- The siblings from one on: that one, those behind it and those before the next one. -/
theorem Node.drop_eq_cons {siblings rest : List Node} {node : Node} {index : Nat}
    (h : siblings.drop index = node :: rest) :
    siblings[index]? = some node ∧ siblings.drop (index + 1) = rest ∧
      siblings.take (index + 1) = siblings.take index ++ [node] := by
  have hnode : siblings[index]? = some node := by
    rw [← List.head?_drop, h, List.head?_cons]
  refine ⟨hnode, ?_, ?_⟩
  · rw [← List.tail_drop, h, List.tail_cons]
  · rw [List.take_add_one, hnode, Option.toList_some]

namespace Segment

variable {nodes : List Node}

-- A visit starts lists from level zero. So among siblings of another level, which are the children of
-- a list or an item, only what is no list and no item is visited.
mutual

theorem of_events {siblings : List Node} {around : Way} {index : Nat} {node : Node}
    (hfollow : Node.follow nodes around = some siblings) (hnode : siblings[index]? = some node)
    (hlevel : Way.level around = 0 ∨ node.isListPart = false) :
    Segment nodes around .flow (node.events around index) := by
  match node with
  | .text content =>
    have hin : Site.IsIn nodes ⟨around, index, .text content⟩ := ⟨siblings, hfollow, hnode⟩
    exact loose hin rfl
  | .special _ _ => exact nil around
  | .element tag attributes children =>
    let site : Site := ⟨around, index, .element tag attributes children⟩
    have hin : site.IsIn nodes := ⟨siblings, hfollow, hnode⟩
    have hinner := Node.follow_concat hfollow hnode
    have hfirst : children.drop 0 = children := rfl
    have hflush : Segment nodes around .flow [.flush around] := flush around
    rw [Node.events]
    cases hroute : Route.of tag children with
    | hidden => exact nil around
    | lineBreak => exact hflush.append (lineBreak around)
    | whole =>
      cases hblock : Tags.blockLevel.contains (Text.lowerName tag) with
      | true => exact hflush.append (paragraph hin)
      | false =>
        refine loose hin ?_
        rw [Node.isLoose, hblock, Node.anyNamedIn_of_whole hroute hblock]
        rfl
    | list =>
      have hname := Route.eq_list_iff.mp hroute
      have hpart : ¬(Node.element tag attributes children).isListPart = false := by
        rw [Node.isListPart, Node.isNamed, List.contains_cons, hname, Bool.or_true]
        exact Bool.noConfusion
      have hzero := hlevel.resolve_right hpart
      have hlist := of_eventsList (Text.lowerName tag == "ol") 0 hinner hfirst
        (by rw [Way.name_concat, hname]) (by rw [Way.name_concat])
        (by rw [Way.level_concat, if_pos hname, hzero])
      exact hflush.append (list hname hinner hzero hlist)
    | table => exact hflush.append (table hin ((Node.name_of_route tag children).2.2 hroute))
    | rule => exact hflush
    | entered =>
      have hlist : Tags.lists.contains (Text.lowerName tag) = false := by
        rw [Bool.eq_false_iff, Ne, ← Route.eq_list_iff, hroute]
        decide
      have hall := of_eventsAll hinner hfirst (Way.level_of_entered hlist hlevel)
      cases hblock : Tags.blockLevel.contains (Text.lowerName tag) with
      | true => exact enclosed hall
      | false =>
        have hname : Text.lowerName tag ≠ "blockquote" := by
          intro hquote
          rw [hquote] at hblock
          exact absurd hblock (by decide)
        have hentered := hflush.append (within hname hall)
        simpa using hentered
termination_by structural node

theorem of_eventsAll {siblings rest : List Node} {around : Way} {index : Nat}
    (hfollow : Node.follow nodes around = some siblings) (hrest : siblings.drop index = rest)
    (hlevel : Way.level around = 0) :
    Segment nodes around .flow (Node.eventsAll around index rest) := by
  match rest with
  | [] => exact nil around
  | node :: rest =>
    obtain ⟨hnode, hnext, -⟩ := Node.drop_eq_cons hrest
    exact (of_events hfollow hnode (Or.inl hlevel)).append (of_eventsAll hfollow hnext hlevel)
termination_by structural rest

theorem of_eventsList {siblings rest : List Node} {around : Way} {index : Nat} (ordered : Bool)
    (level : Nat) (hfollow : Node.follow nodes around = some siblings)
    (hrest : siblings.drop index = rest)
    (hname : Tags.lists.contains (Way.name around) = true)
    (hordered : (Way.name around == "ol") = ordered) (hlevel : Way.level around = level + 1) :
    Segment nodes around
      (.list ordered level ((siblings.take index).countP fun node => node.isNamed ["li"]))
      (Node.eventsList around ordered level index rest) := by
  match rest with
  | [] =>
    have hitems : Way.items nodes around =
        (siblings.take index).countP fun node => node.isNamed ["li"] := by
      rw [Way.items, hfollow, List.take_of_length_le (List.drop_eq_nil_iff.mp hrest)]
      rfl
    exact hitems ▸ close around ordered level
  | node :: rest =>
    obtain ⟨hnode, hnext, htake⟩ := Node.drop_eq_cons hrest
    have htail := of_eventsList ordered level hfollow hnext hname hordered hlevel
    rw [htake, List.countP_append, List.countP_singleton] at htail
    match node with
    | .text content => exact other (of_events hfollow hnode (Or.inr rfl)) htail
    | .special kind content => exact other (of_events hfollow hnode (Or.inr rfl)) htail
    | .element tag attributes children =>
      let site : Site := ⟨around, index, .element tag attributes children⟩
      have hinner := Node.follow_concat hfollow hnode
      have hfirst : children.drop 0 = children := rfl
      rw [Node.eventsList]
      by_cases hitem : (Text.lowerName tag == "li") = true
      · have hin : site.IsIn nodes := ⟨siblings, hfollow, hnode⟩
        have hbefore : site.itemsBefore nodes =
            (siblings.take index).countP fun node => node.isNamed ["li"] := by
          rw [Site.itemsBefore, hfollow]
          rfl
        have hnotlist : Tags.lists.contains (Text.lowerName tag) = false := by
          rw [eq_of_beq hitem]
          decide
        have hsublists := of_eventsSublists level hinner hfirst
          (by rw [Way.level_concat, hnotlist, hitem, hname, hlevel]; rfl)
        have hnamed : (Node.element tag attributes children).isNamed ["li"] = true := by
          simpa [Node.isNamed] using hitem
        rw [if_pos hnamed, ← hbefore] at htail
        rw [if_pos hitem, ← hbefore]
        exact item hin (eq_of_beq hitem) hname hordered hlevel hsublists htail
      · have hnamed : ¬(Node.element tag attributes children).isNamed ["li"] = true := by
          simpa [Node.isNamed] using hitem
        rw [if_neg hnamed] at htail
        rw [if_neg hitem]
        by_cases hlist : Tags.lists.contains (Text.lowerName tag) = true
        · have hnested := of_eventsList (Text.lowerName tag == "ol") (level + 1) hinner hfirst
            (by rw [Way.name_concat, hlist]) (by rw [Way.name_concat])
            (by rw [Way.level_concat, if_pos hlist, hlevel])
          rw [if_pos hlist]
          exact other ((flush around).append (list hlist hinner hlevel hnested)) htail
        · have hpart : (Node.element tag attributes children).isListPart = false := by
            rw [Node.isListPart, Node.isNamed, List.contains_cons, Bool.or_eq_false_iff]
            exact ⟨Bool.not_eq_true _ ▸ hitem, Bool.not_eq_true _ ▸ hlist⟩
          rw [if_neg hlist]
          exact other (of_events hfollow hnode (Or.inr hpart)) htail
termination_by structural rest

theorem of_eventsSublists {siblings rest : List Node} {around : Way} {index : Nat} (level : Nat)
    (hfollow : Node.follow nodes around = some siblings) (hrest : siblings.drop index = rest)
    (hlevel : Way.level around = level + 1) :
    Segment nodes around .flow (Node.eventsSublists around level index rest) := by
  match rest with
  | [] => exact nil around
  | node :: rest =>
    obtain ⟨hnode, hnext, -⟩ := Node.drop_eq_cons hrest
    have htail := of_eventsSublists level hfollow hnext hlevel
    match node with
    | .text _ => exact htail
    | .special _ _ => exact htail
    | .element tag attributes children =>
      have hinner := Node.follow_concat hfollow hnode
      have hfirst : children.drop 0 = children := rfl
      rw [Node.eventsSublists]
      refine append ?_ htail
      by_cases hlist : Tags.lists.contains (Text.lowerName tag) = true
      · have hnested := of_eventsList (Text.lowerName tag == "ol") (level + 1) hinner hfirst
          (by rw [Way.name_concat, hlist]) (by rw [Way.name_concat])
          (by rw [Way.level_concat, if_pos hlist, hlevel])
        rw [if_pos hlist]
        exact list hlist hinner hlevel hnested
      · rw [if_neg hlist]
        exact nil around
termination_by structural rest

end

end Segment

/-- The events of a walk are a segment at its root. -/
theorem Root.segment_events (root : Root) : Segment root.nodes [] .flow root.events := by
  cases root with
  | document children =>
    have hfollow : Node.follow children [] = some children := rfl
    have hfirst : children.drop 0 = children := rfl
    exact (Segment.of_eventsAll hfollow hfirst rfl).append (.flush [])
  | element place tag attributes children =>
    let node : Node := .element tag attributes children
    have hfollow : Node.follow [node] [] = some [node] := rfl
    have hnode : [node][0]? = some node := rfl
    exact (Segment.of_events hfollow hnode (Or.inl rfl)).append (.flush [])

/-- The way leads into a list of the tree, of a kind and level. -/
def Way.IsList (nodes : List Node) (ordered : Bool) (level : Nat) (way : Way) : Prop :=
  (∃ children, Node.follow nodes way = some children) ∧
    Tags.lists.contains (Way.name way) = true ∧ (Way.name way == "ol") = ordered ∧
      Way.level way = level + 1

/-- What an event is about stands in the tree where the event says. -/
def Event.IsIn (nodes : List Node) : Event → Prop
  | .loose site => site.IsIn nodes ∧ site.node.isLoose = true
  | .paragraph site => site.IsIn nodes
  | .table site => site.IsIn nodes
  | .list way ordered level => Way.IsList nodes ordered level way
  | .item site ordered level =>
    site.IsIn nodes ∧ Text.lowerName site.node.tag = "li" ∧
      Way.IsList nodes ordered level site.around
  | _ => True

/-- What a block comes from stands in the tree. A loose run has pieces. -/
def Origin.IsIn (nodes : List Node) : Origin → Prop
  | .paragraph site => site.IsIn nodes
  | .loose _ pieces => pieces ≠ [] ∧ ∀ piece ∈ pieces, piece.IsIn nodes ∧ piece.node.isLoose = true
  | .item site ordered level _ =>
    site.IsIn nodes ∧ Text.lowerName site.node.tag = "li" ∧
      Way.IsList nodes ordered level site.around
  | .cell table own =>
    table.IsIn nodes ∧ ∃ row ∈ Table.filledRows table.node.children, own ∈ row

theorem Segment.isIn {nodes : List Node} {way : Way} {zone : Zone} {events : List Event}
    (h : Segment nodes way zone events) : ∀ event ∈ events, event.IsIn nodes := by
  induction h with
  | nil way => simp
  | append _ _ ih ihmore => exact List.forall_mem_append.mpr ⟨ih, ihmore⟩
  | flush way => simp [Event.IsIn]
  | lineBreak way => simp [Event.IsIn]
  | loose hin hloose => simpa [Event.IsIn] using ⟨hin, hloose⟩
  | paragraph hin => simpa [Event.IsIn] using hin
  | table hin hname => simpa [Event.IsIn] using hin
  | within hname _ ih => exact ih
  | enclosed _ ih => simpa [Event.IsIn, or_imp, forall_and] using ih
  | @list way index level tag children events hname hfollow hlevel _ ih =>
    have hlist : Way.IsList nodes (Text.lowerName tag == "ol") level (way ++ [(index, tag)]) :=
      ⟨⟨children, hfollow⟩, by rw [Way.name_concat, hname], by rw [Way.name_concat],
        by rw [Way.level_concat, if_pos hname, hlevel]⟩
    refine List.forall_mem_append.mpr ⟨List.forall_mem_append.mpr ⟨?_, ih⟩, ?_⟩
    · exact List.forall_mem_singleton.mpr hlist
    · exact List.forall_mem_singleton.mpr trivial
  | close way ordered level => simp
  | @item site ordered level events rest hin hname hlist hordered hlevel _ _ ih ihrest =>
    obtain ⟨siblings, hfollow, hnode⟩ := hin
    refine List.forall_mem_append.mpr ⟨List.forall_mem_append.mpr ⟨?_, ih⟩, ihrest⟩
    refine List.forall_mem_cons.mpr ⟨trivial, List.forall_mem_singleton.mpr ?_⟩
    exact ⟨⟨siblings, hfollow, hnode⟩, hname, ⟨siblings, hfollow⟩, hlist, hordered, hlevel⟩
  | other _ _ ih ihrest => exact List.forall_mem_append.mpr ⟨ih, ihrest⟩

theorem Site.isIn_of_mem_captions {nodes : List Node} {table caption : Site}
    (h : table.IsIn nodes) (hcaption : caption ∈ table.captions) : caption.IsIn nodes := by
  obtain ⟨siblings, hfollow, hindex⟩ := h
  obtain ⟨⟨node, index⟩, hmem, rfl⟩ := List.mem_map.mp (List.mem_filter.mp hcaption).1
  have hnode := List.mem_zipIdx_iff_getElem?.mp hmem
  obtain ⟨around, i, element⟩ := table
  cases element with
  | text content => exact absurd hnode (by simp [Node.children])
  | special kind content => exact absurd hnode (by simp [Node.children])
  | element tag attributes children =>
    exact ⟨children, Node.follow_concat hfollow hindex, hnode⟩

/-- An event that is in the tree makes blocks of what is in the tree. -/
theorem Event.IsIn.origins {nodes : List Node} {event : Event} (h : event.IsIn nodes)
    (past : List Event) {pieces : List Site}
    (hpieces : ∀ piece ∈ pieces, piece.IsIn nodes ∧ piece.node.isLoose = true) :
    ∀ origin ∈ event.origins past pieces, origin.IsIn nodes := by
  intro origin horigin
  cases yields_of_mem_origins horigin with
  | paragraph site => exact h
  | caption hcaption => exact Site.isIn_of_mem_captions h hcaption
  | loose around hne => exact ⟨hne, hpieces⟩
  | item site ordered level => exact h
  | cell hrow hcell => exact ⟨h, _, hrow, hcell⟩

theorem Event.IsIn.pending {nodes : List Node} {event : Event} (h : event.IsIn nodes)
    {pieces : List Site}
    (hpieces : ∀ piece ∈ pieces, piece.IsIn nodes ∧ piece.node.isLoose = true) :
    ∀ piece ∈ event.pending pieces, piece.IsIn nodes ∧ piece.node.isLoose = true := by
  cases event with
  | loose site =>
    rw [Event.pending]
    split
    · exact hpieces
    · exact List.forall_mem_append.mpr ⟨hpieces, List.forall_mem_singleton.mpr h⟩
  | flush around => exact List.forall_mem_nil _
  | _ => exact hpieces

theorem Event.isIn_originsOf {nodes : List Node} {events : List Event}
    (h : ∀ event ∈ events, event.IsIn nodes) (past : List Event) {pieces : List Site}
    (hpieces : ∀ piece ∈ pieces, piece.IsIn nodes ∧ piece.node.isLoose = true) :
    ∀ origin ∈ originsOf past pieces events, origin.IsIn nodes := by
  induction events generalizing past pieces with
  | nil => simp [originsOf]
  | cons event events ih =>
    obtain ⟨hevent, hevents⟩ := List.forall_mem_cons.mp h
    have hrest := ih hevents (past ++ [event]) (hevent.pending hpieces)
    exact List.forall_mem_append.mpr ⟨hevent.origins past hpieces, hrest⟩

/-- The blocks of a root come from its tree. -/
theorem Root.isIn_origins (root : Root) : ∀ origin ∈ root.origins, origin.IsIn root.nodes :=
  Event.isIn_originsOf root.segment_events.isIn [] (by simp)

end MarkupCompiler
