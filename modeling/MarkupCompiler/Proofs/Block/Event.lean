import MarkupCompiler.Proofs.Block.ReadingOrder
import MarkupCompiler.Proofs.Tree.Way

/-!
# The walk as a run of events

A walk over a tree is a run of events, one after another: a piece of loose content is taken, loose
content is flushed, a paragraph, an item or a table is added, the count of a list starts. Each event
knows the place in the tree that it is about, and what an event does depends on nothing else. So what
is true of an extraction can be proved event by event, without the recursion of the walk.
-/

namespace MarkupCompiler

namespace Surroundings

def along (place : TextKind) (way : Way) : Surroundings :=
  way.foldl (fun s step => s.inside step.2) { textKind := place }

theorem along_concat (place : TextKind) (way : Way) (step : Nat × String) :
    along place (way ++ [step]) = (along place way).inside step.2 :=
  List.foldl_concat ..

theorem quoteDepth_along (place : TextKind) (way : Way) :
    (along place way).quoteDepth = Way.quotes way := by
  induction way using List.reverseRecOn with
  | nil => rfl
  | append_singleton way step ih =>
    rw [along_concat, inside, ih, Way.quotes_concat]
    cases Text.lowerName step.2 == "blockquote" <;> rfl

/-- The indent of a paragraph depends on the depth of quotation only. -/
theorem indented_eq {s s' : Surroundings} (h : s.quoteDepth = s'.quoteDepth)
    (style : ParagraphStyle) : s.indented style = s'.indented style := by
  rw [indented, indented, h]

end Surroundings

namespace Site

def collected (site : Site) : CollectedText :=
  match site.node with
  | .text content => ⟨Text.normalize content, []⟩
  | .special _ _ => ⟨[], []⟩
  | .element tag attributes children =>
    CollectedText.ofElement false false tag attributes children

/-- Whether the node makes a paragraph. Only paragraph elements make one without text. -/
def isParagraph (site : Site) : Bool :=
  Tags.paragraphs.contains (Text.lowerName site.node.tag) || !site.collected.text.isEmpty

def paragraphStyle (site : Site) : ParagraphStyle :=
  ParagraphStyle.ofElement (Text.lowerName site.node.tag) site.node.attributes

end Site

/-- What can happen in a walk. -/
inductive Event where
  /-- A piece of loose content is taken. -/
  | loose (site : Site)
  /-- The loose content is turned into a paragraph at the end of a way. -/
  | flush (around : Way)
  | lineBreak
  | paragraph (site : Site)
  /-- The list at the end of a way starts its count. -/
  | list (way : Way) (ordered : Bool) (level : Nat)
  | item (site : Site) (ordered : Bool) (level : Nat)
  | table (site : Site)

namespace Event

def apply (place : TextKind) (e : Extraction) : Event → Extraction
  | .loose site =>
    match site.node with
    | .text content => e.addLooseText content
    | .special _ _ => e
    | .element tag attributes children =>
      e.addLooseElement (.along place site.around) tag attributes children
  | .flush around => e.flushLoose (.along place around)
  | .lineBreak => e.addLineBreak
  | .paragraph site =>
    if site.isParagraph then
      e.addParagraph (.along place site.way) site.collected site.paragraphStyle
    else e
  | .list _ ordered level => e.startList ordered level
  | .item site ordered level =>
    e.addListItem ordered level site.node.tag site.node.attributes site.node.children
  | .table site => e.addTable (.along place site.way) site.node.children

/-- What some events do, one after another. -/
def run (place : TextKind) (events : List Event) (e : Extraction) : Extraction :=
  events.foldl (apply place) e

@[simp] theorem run_nil (place : TextKind) (e : Extraction) : run place [] e = e := rfl

@[simp] theorem run_cons (place : TextKind) (event : Event) (events : List Event)
    (e : Extraction) : run place (event :: events) e = run place events (apply place e event) :=
  rfl

@[simp] theorem run_append (place : TextKind) (events more : List Event) (e : Extraction) :
    run place (events ++ more) e = run place more (run place events e) :=
  List.foldl_append ..

end Event

namespace Node

mutual

/-- The events of a visit to a node at some place. -/
def events (around : Way) (index : Nat) : Node → List Event
  | .text content => [.loose ⟨around, index, .text content⟩]
  | .special _ _ => []
  | .element tag attributes children =>
    let site : Site := ⟨around, index, .element tag attributes children⟩
    let way := around ++ [(index, tag)]
    let isBlock := Tags.blockLevel.contains (Text.lowerName tag)
    match Route.of tag children with
    | .hidden => []
    | .lineBreak => [.flush around, .lineBreak]
    | .whole => if isBlock then [.flush around, .paragraph site] else [.loose site]
    | .list =>
      let ordered := Text.lowerName tag == "ol"
      [.flush around, .list way ordered 0] ++ eventsList way ordered 0 0 children ++
        [.flush around]
    | .table => [.flush around, .table site]
    | .rule => [.flush around]
    | .entered =>
      [.flush around] ++ eventsAll way 0 children ++ if isBlock then [.flush way] else []

/-- The events of visits to siblings, from one of them on. -/
def eventsAll (around : Way) (index : Nat) : List Node → List Event
  | [] => []
  | node :: nodes => events around index node ++ eventsAll around (index + 1) nodes

def eventsList (around : Way) (ordered : Bool) (level index : Nat) : List Node → List Event
  | [] => []
  | .element tag attributes children :: nodes =>
    let name := Text.lowerName tag
    let way := around ++ [(index, tag)]
    if name == "li" then
      [.flush around, .item ⟨around, index, .element tag attributes children⟩ ordered level] ++
        eventsSublists way level 0 children ++
        eventsList around ordered level (index + 1) nodes
    else if Tags.lists.contains name then
      [.flush around, .list way (name == "ol") (level + 1)] ++
        eventsList way (name == "ol") (level + 1) 0 children ++ [.flush around] ++
        eventsList around ordered level (index + 1) nodes
    else
      events around index (.element tag attributes children) ++
        eventsList around ordered level (index + 1) nodes
  | .text content :: nodes =>
    events around index (.text content) ++
      eventsList around ordered level (index + 1) nodes
  | .special kind content :: nodes =>
    events around index (.special kind content) ++
      eventsList around ordered level (index + 1) nodes

/-- The events of the lists among the children of an item, from one of the children on. -/
def eventsSublists (around : Way) (level index : Nat) : List Node → List Event
  | [] => []
  | .element tag _ children :: nodes =>
    let name := Text.lowerName tag
    let way := around ++ [(index, tag)]
    (if Tags.lists.contains name then
      [.list way (name == "ol") (level + 1)] ++
        eventsList way (name == "ol") (level + 1) 0 children ++ [.flush around]
    else []) ++ eventsSublists around level (index + 1) nodes
  | .text _ :: nodes => eventsSublists around level (index + 1) nodes
  | .special _ _ :: nodes => eventsSublists around level (index + 1) nodes

end

end Node

def Root.events : Root → List Event
  | .document children => Node.eventsAll [] 0 children ++ [.flush []]
  | .element _ tag attributes children =>
    Node.events [] 0 (.element tag attributes children) ++ [.flush []]

def Root.place : Root → TextKind
  | .document _ => .plain
  | .element place _ _ _ => place

namespace Extraction

/-- A paragraph element is no quotation, and a container counts itself if it is one. -/
theorem addWhole_eq_run (place : TextKind) (around : Way) (index : Nat) (tag : String)
    (attributes : Attributes) (children : List Node) (e : Extraction) :
    e.addWhole (.along place around) tag attributes children =
      Event.run place
        (if Tags.blockLevel.contains (Text.lowerName tag) then
          [.flush around, .paragraph ⟨around, index, .element tag attributes children⟩]
        else [.loose ⟨around, index, .element tag attributes children⟩]) e := by
  rw [addWhole]
  by_cases hparagraph : Tags.paragraphs.contains (Text.lowerName tag) = true
  · have hnames : ∀ name ∈ Tags.paragraphs, Tags.blockLevel.contains name = true ∧
        name ≠ "blockquote" := by decide
    obtain ⟨hblock, hquote⟩ := hnames _ (List.contains_iff_mem.mp hparagraph)
    have hdepth : (Surroundings.along place around).quoteDepth =
        (Surroundings.along place (around ++ [(index, tag)])).quoteDepth := by
      rw [Surroundings.quoteDepth_along, Surroundings.quoteDepth_along,
        Way.quotes_concat_of_ne around index hquote]
    rw [if_pos hparagraph, if_pos hblock]
    simp only [Event.run_cons, Event.run_nil, Event.apply, Site.isParagraph, Node.tag, hparagraph,
      Bool.true_or, if_true, addParagraph, Surroundings.indented_eq hdepth]
    rfl
  · rw [if_neg hparagraph]
    by_cases hblock : Tags.blockLevel.contains (Text.lowerName tag) = true
    · rw [Bool.not_eq_true] at hparagraph
      rw [if_pos hblock, if_pos hblock]
      simp only [Event.run_cons, Event.run_nil, Event.apply, Site.isParagraph, Node.tag, hparagraph,
        Bool.false_or, Site.collected, Site.way, Surroundings.along_concat]
      cases (CollectedText.ofElement false false tag attributes children).text.isEmpty <;> rfl
    · rw [if_neg hblock, if_neg hblock]
      rfl

/-- A table is no quotation, so its captions are as deep as the table itself. -/
theorem addTable_along (place : TextKind) (around : Way) (index : Nat) {tag : String}
    (h : Text.lowerName tag = "table") (children : List Node) (e : Extraction) :
    e.addTable (.along place around) children =
      e.addTable (.along place (around ++ [(index, tag)])) children := by
  have hdepth : (Surroundings.along place around).quoteDepth =
      (Surroundings.along place (around ++ [(index, tag)])).quoteDepth := by
    rw [Surroundings.quoteDepth_along, Surroundings.quoteDepth_along,
      Way.quotes_concat_of_ne around index (by rw [h]; decide)]
  simp only [addTable, Table.captionBlocks, Surroundings.indented_eq hdepth]

mutual

theorem visit_eq_run (place : TextKind) (around : Way) (index : Nat) (node : Node)
    (e : Extraction) :
    visit (.along place around) node e = Event.run place (node.events around index) e := by
  match node with
  | .text content => rfl
  | .special _ _ => rfl
  | .element tag attributes children =>
    have htable := (Node.name_of_route tag children).2.2
    rw [visit_element, Node.events]
    cases hroute : Route.of tag children with
    | hidden => rfl
    | lineBreak => rfl
    | whole => exact addWhole_eq_run place around index tag attributes children e
    | list =>
      simp only [Event.run_append, ← Surroundings.along_concat place around (index, tag)]
      rw [visitList_eq_run place _ _ 0 0]
      rfl
    | table => exact addTable_along place around index (htable hroute) children _
    | rule => rfl
    | entered =>
      simp only [enter, Event.run_append, ← Surroundings.along_concat place around (index, tag)]
      rw [visitAll_eq_run place _ 0]
      cases Tags.blockLevel.contains (Text.lowerName tag) <;> rfl

theorem visitAll_eq_run (place : TextKind) (around : Way) (index : Nat) (nodes : List Node)
    (e : Extraction) :
    visitAll (.along place around) nodes e =
      Event.run place (Node.eventsAll around index nodes) e := by
  match nodes with
  | [] => rfl
  | node :: nodes =>
    rw [visitAll, Node.eventsAll, Event.run_append, visit_eq_run place around index node,
      visitAll_eq_run place around (index + 1) nodes]

theorem visitList_eq_run (place : TextKind) (around : Way) (ordered : Bool)
    (level index : Nat) (nodes : List Node) (e : Extraction) :
    visitList (.along place around) ordered level nodes e =
      Event.run place (Node.eventsList around ordered level index nodes) e := by
  match nodes with
  | [] => rfl
  | .text content :: nodes =>
    rw [visitList, Node.eventsList, Event.run_append, visit_eq_run place around index,
      visitList_eq_run place around ordered level (index + 1) nodes]
  | .special kind content :: nodes =>
    rw [visitList, Node.eventsList, Event.run_append, visit_eq_run place around index,
      visitList_eq_run place around ordered level (index + 1) nodes]
  | .element tag attributes children :: nodes =>
    rw [visitList, Node.eventsList]
    simp only [← Surroundings.along_concat place around (index, tag)]
    by_cases hitem : (Text.lowerName tag == "li") = true
    · rw [if_pos hitem, if_pos hitem, Event.run_append, Event.run_append,
        visitSublists_eq_run place _ level 0,
        visitList_eq_run place around ordered level (index + 1) nodes]
      rfl
    · rw [if_neg hitem, if_neg hitem]
      by_cases hlist : Tags.lists.contains (Text.lowerName tag) = true
      · rw [if_pos hlist, if_pos hlist, Event.run_append, Event.run_append, Event.run_append,
          visitList_eq_run place _ _ (level + 1) 0 children,
          visitList_eq_run place around ordered level (index + 1) nodes]
        rfl
      · rw [if_neg hlist, if_neg hlist, Event.run_append, visit_eq_run place around index,
          visitList_eq_run place around ordered level (index + 1) nodes]

theorem visitSublists_eq_run (place : TextKind) (around : Way) (level index : Nat)
    (nodes : List Node) (e : Extraction) :
    visitSublists (.along place around) level nodes e =
      Event.run place (Node.eventsSublists around level index nodes) e := by
  match nodes with
  | [] => rfl
  | .text _ :: nodes =>
    rw [visitSublists, Node.eventsSublists]
    exact visitSublists_eq_run place around level (index + 1) nodes e
  | .special _ _ :: nodes =>
    rw [visitSublists, Node.eventsSublists]
    exact visitSublists_eq_run place around level (index + 1) nodes e
  | .element tag _ children :: nodes =>
    rw [visitSublists, Node.eventsSublists, Event.run_append,
      visitSublists_eq_run place around level (index + 1) nodes]
    simp only [← Surroundings.along_concat place around (index, tag)]
    by_cases hlist : Tags.lists.contains (Text.lowerName tag) = true
    · rw [if_pos hlist, if_pos hlist, Event.run_append, Event.run_append,
        visitList_eq_run place _ _ (level + 1) 0 children]
      rfl
    · rw [if_neg hlist, if_neg hlist]
      rfl

end

end Extraction

/-- The blocks of a root are those that its events make. -/
theorem Block.ofRoot_eq_run (root : Root) :
    ofRoot root = (Event.run root.place root.events {}).blocks := by
  cases root with
  | document children =>
    rw [ofRoot, Root.events, Event.run_append]
    exact congrArg (fun e : Extraction => (e.flushLoose {}).blocks)
      (Extraction.visitAll_eq_run .plain [] 0 children {})
  | element place tag attributes children =>
    rw [ofRoot, Root.events, Event.run_append]
    exact congrArg (fun e : Extraction => (e.flushLoose (.along place [])).blocks)
      (Extraction.visit_eq_run place [] 0 (.element tag attributes children) {})

end MarkupCompiler
