import MarkupCompiler.Proofs.Block.Segment

/-!
# Positions in lists

Items are counted for each kind of list and level, and the count starts anew with each list of that
kind and level. So an item has its position among the items of its own list as long as no list inside
started the same count again. Lists directly inside a list or its items have a higher level and do not
meet the count; a list inside another child of the list starts from level zero and may.
-/

namespace MarkupCompiler

namespace Event

/-- The list whose items are counted after an event, of those of a kind and level. -/
def start (ordered : Bool) (level : Nat) (counting : Option Way) : Event → Option Way
  | .list way o l => if ordered == o && level == l then some way else counting
  | _ => counting

/-- The list of a kind and level that started last. -/
def counting? (ordered : Bool) (level : Nat) (past : List Event) : Option Way :=
  past.foldl (start ordered level) none

theorem counting?_append (ordered : Bool) (level : Nat) (past events : List Event) :
    counting? ordered level (past ++ events) =
      events.foldl (start ordered level) (counting? ordered level past) :=
  List.foldl_append ..

/-- The list that counts is a list of the tree, if all lists that started are. -/
theorem isList_of_counting? {nodes : List Node} {past : List Event} {ordered : Bool} {level : Nat}
    (h : ∀ event ∈ past, event.IsIn nodes) {way : Way}
    (hway : counting? ordered level past = some way) : Way.IsList nodes ordered level way := by
  induction past using List.reverseRecOn with
  | nil => exact absurd hway (by simp [counting?])
  | append_singleton past event ih =>
    obtain ⟨hpast, hevent⟩ := List.forall_mem_append.mp h
    rw [counting?_append, List.foldl_cons, List.foldl_nil] at hway
    cases event with
    | list w o l =>
      rw [start] at hway
      split at hway
      · next hscope =>
        obtain ⟨ho, hl⟩ := Bool.and_eq_true_iff.mp hscope
        have hlist : IsIn nodes (.list w o l) := List.forall_mem_singleton.mp hevent
        rw [eq_of_beq ho, eq_of_beq hl, ← Option.some.inj hway]
        exact hlist
      · exact ih hpast hway
    | _ => exact ih hpast hway

end Event

/-! ## Lists inside -/

/-- The other way leads further down. -/
def Way.Below (way inner : Way) : Prop := way <+: inner ∧ way.length < inner.length

theorem Way.below_concat (way : Way) (step : Nat × String) : Below way (way ++ [step]) :=
  ⟨List.prefix_append _ _, by simp⟩

theorem Way.Below.trans {way inner innermost : Way} (h : Below way inner)
    (hinner : Below inner innermost) : Below way innermost :=
  ⟨h.1.trans hinner.1, h.2.trans hinner.2⟩

/--
The events leave the counts as they are, but for those of lists that start further down. The items
of one kind and level may also be counted.
-/
def Event.Leaves (way : Way) (exempt : Bool → Nat → Prop) (events : List Event) : Prop :=
  ∀ (past : List Event) (ordered : Bool) (level : Nat),
    (counting? ordered level (past ++ events) = counting? ordered level past ∧
      (¬ exempt ordered level →
        counted ordered level (past ++ events) = counted ordered level past)) ∨
    ∃ inner, counting? ordered level (past ++ events) = some inner ∧ Way.Below way inner

namespace Event.Leaves

variable {way : Way} {exempt : Bool → Nat → Prop} {events more : List Event}

theorem nil (way : Way) (exempt : Bool → Nat → Prop) : Leaves way exempt [] := by
  intro past ordered level
  rw [List.append_nil]
  exact Or.inl ⟨rfl, fun _ => rfl⟩

theorem append (h : Leaves way exempt events) (hmore : Leaves way exempt more) :
    Leaves way exempt (events ++ more) := by
  intro past ordered level
  rw [← List.append_assoc]
  rcases hmore (past ++ events) ordered level with ⟨hlast, hcount⟩ | hinner
  · rw [hlast]
    rcases h past ordered level with ⟨hfirst, hbefore⟩ | hinner
    · exact Or.inl ⟨hfirst, fun hexempt => (hcount hexempt).trans (hbefore hexempt)⟩
    · exact Or.inr hinner
  · exact Or.inr hinner

/-- Events that neither start nor count a list leave all counts. -/
theorem other (way : Way) (exempt : Bool → Nat → Prop) {event : Event}
    (hstart : ∀ ordered level counting, event.start ordered level counting = counting)
    (hcount : ∀ ordered level n, event.count ordered level n = n) : Leaves way exempt [event] := by
  intro past ordered level
  rw [counting?_append, counted_append]
  exact Or.inl ⟨hstart _ _ _, fun _ => hcount _ _ _⟩

theorem item (way : Way) (site : Site) (ordered : Bool) (level : Nat) :
    Leaves way (fun o l => o = ordered ∧ l = level) [.item site ordered level] := by
  intro past o l
  rw [counting?_append, counted_append]
  refine Or.inl ⟨rfl, fun hexempt => ?_⟩
  rw [List.foldl_cons, List.foldl_nil, count, if_neg]
  simpa using hexempt

theorem mono (h : Leaves way (fun _ _ => False) events) (exempt : Bool → Nat → Prop) :
    Leaves way exempt events := by
  intro past ordered level
  rcases h past ordered level with ⟨hsame, hcount⟩ | hinner
  · exact Or.inl ⟨hsame, fun _ => hcount id⟩
  · exact Or.inr hinner

/-- What is left from further up is left from there. -/
theorem within {step : Nat × String} (h : Leaves (way ++ [step]) (fun _ _ => False) events)
    (exempt : Bool → Nat → Prop) : Leaves way exempt events := by
  refine mono (fun past ordered level => ?_) exempt
  rcases h past ordered level with hsame | ⟨inner, hinner, hbelow⟩
  · exact Or.inl hsame
  · exact Or.inr ⟨inner, hinner, (Way.below_concat way step).trans hbelow⟩

/-- A list that starts further down counts its own items only. -/
theorem list {step : Nat × String} {ordered : Bool} {level : Nat}
    (h : Leaves (way ++ [step]) (fun o l => o = ordered ∧ l = level) events) :
    Leaves way (fun _ _ => False) ([.list (way ++ [step]) ordered level] ++ events) := by
  intro past o l
  have hbelow := Way.below_concat way step
  rw [← List.append_assoc]
  rcases h (past ++ [.list (way ++ [step]) ordered level]) o l with ⟨hsame, hcount⟩ |
    ⟨inner, hinner, hbelow'⟩
  · rw [hsame, counting?_append, List.foldl_cons, List.foldl_nil, start]
    by_cases hscope : (o == ordered && l == level) = true
    · rw [if_pos hscope]
      exact Or.inr ⟨_, rfl, hbelow⟩
    · have hexempt : ¬(o = ordered ∧ l = level) := by simpa using hscope
      rw [if_neg hscope, hcount hexempt, counted_append, List.foldl_cons, List.foldl_nil, count,
        if_neg hscope]
      exact Or.inl ⟨rfl, fun _ => rfl⟩
  · exact Or.inr ⟨inner, hinner, hbelow.trans hbelow'⟩

end Event.Leaves

/-- The kind and level that the items of a zone are counted for. -/
def Zone.Counts : Zone → Bool → Nat → Prop
  | .flow, _, _ => False
  | .list ordered level _, o, l => o = ordered ∧ l = level

/-- A segment leaves the counts of all lists but its own and those that start further down. -/
theorem Segment.leaves {nodes : List Node} {way : Way} {zone : Zone} {events : List Event}
    (h : Segment nodes way zone events) : Event.Leaves way zone.Counts events := by
  have hflush : ∀ (way around : Way) (exempt : Bool → Nat → Prop),
      Event.Leaves way exempt [.flush around] :=
    fun way _ exempt => .other way exempt (fun _ _ _ => rfl) (fun _ _ _ => rfl)
  induction h with
  | nil way => exact .nil way _
  | append _ _ ih ihmore => exact ih.append ihmore
  | flush way => exact hflush way way _
  | lineBreak way => exact .other way _ (fun _ _ _ => rfl) (fun _ _ _ => rfl)
  | loose hin hloose => exact .other _ _ (fun _ _ _ => rfl) (fun _ _ _ => rfl)
  | paragraph hin => exact .other _ _ (fun _ _ _ => rfl) (fun _ _ _ => rfl)
  | table hin hname => exact .other _ _ (fun _ _ _ => rfl) (fun _ _ _ => rfl)
  | within hname _ ih => exact ih.within _
  | @enclosed way index tag events _ ih =>
    exact ((hflush way way _).append (ih.within _)).append (hflush way _ _)
  | @list way index level tag children events hname hfollow hlevel _ ih =>
    exact (Event.Leaves.list ih).append (hflush way way _)
  | close way ordered level => exact .nil way _
  | @item site ordered level events rest hin hname hlist hordered hlevel _ _ ih ihrest =>
    -- The item counts for its own list, which its zone exempts.
    have hitem := Event.Leaves.item site.around site ordered level
    exact (((hflush site.around _ _).append hitem).append (ih.within _)).append ihrest
  | other _ _ ih ihrest => exact (ih.mono _).append ihrest

/-! ## Positions -/

/--
A list at some way counts its items, or a list below it does; so many items of the list at the way
were counted.
-/
def Event.Counts (past : List Event) (ordered : Bool) (level : Nat) (way : Way) (items : Nat) : Prop :=
  ∃ counting, counting? ordered level past = some counting ∧ way <+: counting ∧
    (counting = way → counted ordered level past = items)

/-- When an item is added, its own list counts it behind those before it, or a list below counts. -/
def Origin.IsCounted (nodes : List Node) : Origin → Prop
  | .item site ordered level past =>
    (∀ event ∈ past, event.IsIn nodes) ∧
      Event.Counts past ordered level site.around (site.itemsBefore nodes)
  | _ => True

theorem Event.Counts.leaves {past events : List Event} {ordered : Bool} {level items : Nat}
    {way : Way} (h : Counts past ordered level way items)
    (hevents : Leaves way (fun _ _ => False) events) :
    Counts (past ++ events) ordered level way items := by
  obtain ⟨counting, hcounting, hway, hitems⟩ := h
  rcases hevents past ordered level with ⟨hsame, hcount⟩ | ⟨inner, hinner, hbelow⟩
  · exact ⟨counting, hsame.trans hcounting, hway, fun heq => (hcount id).trans (hitems heq)⟩
  · refine ⟨inner, hinner, hbelow.1, ?_⟩
    rintro rfl
    exact absurd hbelow.2 (Nat.lt_irrefl _)

/-- An item is counted if its list still counts. -/
theorem Event.Counts.item {past : List Event} {ordered : Bool} {level items : Nat} {way : Way}
    (h : Counts past ordered level way items) (site : Site) :
    Counts (past ++ [.item site ordered level]) ordered level way (items + 1) := by
  obtain ⟨counting, hcounting, hway, hitems⟩ := h
  refine ⟨counting, ?_, hway, fun heq => ?_⟩
  · rw [counting?_append]
    exact hcounting
  · simp [counted_append, count, hitems heq]

/-- What the zone of a segment asks of the events before it. -/
def Zone.IsReady (way : Way) (past : List Event) : Zone → Prop
  | .flow => True
  | .list ordered level earlier => Event.Counts past ordered level way earlier

theorem Event.isCounted_of_not_item {nodes : List Node} {event : Event}
    (h : ∀ site ordered level, event ≠ .item site ordered level) (past : List Event)
    (pieces : List Site) : ∀ origin ∈ event.origins past pieces, origin.IsCounted nodes := by
  intro origin horigin
  cases yields_of_mem_origins horigin with
  | item site ordered level => exact absurd rfl (h site ordered level)
  | _ => trivial

theorem Segment.isCounted {nodes : List Node} {way : Way} {zone : Zone} {events : List Event}
    (h : Segment nodes way zone events) {past : List Event} (hready : zone.IsReady way past)
    (hpast : ∀ event ∈ past, event.IsIn nodes) (pieces : List Site) :
    ∀ origin ∈ Event.originsOf past pieces events, origin.IsCounted nodes := by
  have hone : ∀ {event : Event}, (∀ site ordered level, event ≠ .item site ordered level) →
      ∀ (past : List Event) (pieces : List Site),
        ∀ origin ∈ Event.originsOf past pieces [event], origin.IsCounted nodes := by
    intro event hevent past pieces
    rw [Event.originsOf, Event.originsOf, List.append_nil]
    exact Event.isCounted_of_not_item hevent past pieces
  induction h generalizing past pieces with
  | nil way => simp [Event.originsOf]
  | append h hmore ih ihmore =>
    have hboth := List.forall_mem_append.mpr ⟨hpast, h.isIn⟩
    rw [Event.originsOf_append]
    exact List.forall_mem_append.mpr ⟨ih trivial hpast _, ihmore trivial hboth _⟩
  | flush way => exact hone (by simp) past pieces
  | lineBreak way => exact hone (by simp) past pieces
  | loose hin hloose => exact hone (by simp) past pieces
  | paragraph hin => exact hone (by simp) past pieces
  | table hin hname => exact hone (by simp) past pieces
  | within hname _ ih => exact ih trivial hpast pieces
  | @enclosed way index tag events h ih =>
    have hflush : ∀ event ∈ past ++ [.flush way], event.IsIn nodes :=
      List.forall_mem_append.mpr ⟨hpast, List.forall_mem_singleton.mpr trivial⟩
    rw [Event.originsOf_append, Event.originsOf_append]
    refine List.forall_mem_append.mpr ⟨List.forall_mem_append.mpr ⟨?_, ?_⟩, ?_⟩
    · exact hone (by simp) past pieces
    · exact ih trivial hflush _
    · exact hone (by simp) _ _
  | @list way index level tag children events hname hfollow hlevel h ih =>
    have hall := List.forall_mem_append.mp (Segment.list hname hfollow hlevel h).isIn
    have hstart := List.forall_mem_append.mpr ⟨hpast, (List.forall_mem_append.mp hall.1).1⟩
    -- The list that starts has counted nothing.
    have hzero : Event.Counts
        (past ++ [.list (way ++ [(index, tag)]) (Text.lowerName tag == "ol") level])
        (Text.lowerName tag == "ol") level (way ++ [(index, tag)]) 0 := by
      refine ⟨way ++ [(index, tag)], ?_, List.prefix_refl _, fun _ => ?_⟩
      · simp [Event.counting?_append, Event.start]
      · simp [Event.counted_append, Event.count]
    rw [Event.originsOf_append, Event.originsOf_append]
    refine List.forall_mem_append.mpr ⟨List.forall_mem_append.mpr ⟨?_, ?_⟩, ?_⟩
    · exact hone (by simp) past pieces
    · exact ih hzero hstart _
    · exact hone (by simp) _ _
  | close way ordered level => simp [Event.originsOf]
  | @item site ordered level events rest hin hname hlist hordered hlevel h hrest ih ihrest =>
    have hflush : Event.Leaves site.around (fun _ _ => False) [.flush site.around] :=
      .other _ _ (fun _ _ _ => rfl) (fun _ _ _ => rfl)
    have hown := hready.leaves hflush
    have hfirst := List.forall_mem_append.mpr
      ⟨hpast, List.forall_mem_singleton.mpr (show Event.IsIn nodes (.flush site.around) from trivial)⟩
    have hall := List.forall_mem_append.mp
      (Segment.item hin hname hlist hordered hlevel h hrest).isIn
    obtain ⟨hitem, hevents⟩ := List.forall_mem_append.mp hall.1
    have hbefore := List.forall_mem_append.mpr ⟨hpast, hitem⟩
    have hboth := List.forall_mem_append.mpr ⟨hpast, hall.1⟩
    -- What happens inside the item leaves the count, or a list further down has taken it over.
    have hnext := (hown.item site).leaves (h.leaves.within _)
    rw [List.append_assoc, List.append_assoc] at hnext
    rw [Event.originsOf_append, Event.originsOf_append]
    refine List.forall_mem_append.mpr ⟨List.forall_mem_append.mpr ⟨?_, ?_⟩, ?_⟩
    · refine List.forall_mem_append.mpr ⟨?_, List.forall_mem_singleton.mpr ⟨hfirst, hown⟩⟩
      exact Event.isCounted_of_not_item (by simp) past pieces
    · exact ih trivial hbefore _
    · exact ihrest hnext hboth _
  | @other way ordered level earlier events rest h hrest ih ihrest =>
    have hboth := List.forall_mem_append.mpr ⟨hpast, h.isIn⟩
    have hnext := Event.Counts.leaves hready h.leaves
    rw [Event.originsOf_append]
    exact List.forall_mem_append.mpr ⟨ih trivial hpast _, ihrest hnext hboth _⟩

/-! ## All items -/

theorem Node.isNamed_of_tag {node : Node} (h : Text.lowerName node.tag = "li") :
    node.isNamed ["li"] = true := by
  have hnone : Text.lowerName "" ≠ "li" := by decide +kernel
  cases node with
  | text content => exact absurd h hnone
  | special kind content => exact absurd h hnone
  | element tag attributes children =>
    rw [isNamed, List.contains_iff_mem, List.mem_singleton]
    exact h

/-- Two items with as many items before them in one list are the same. -/
theorem Site.eq_of_itemsBefore_eq {nodes : List Node} {site other : Site} (hsite : site.IsIn nodes)
    (hother : other.IsIn nodes) (haround : site.around = other.around)
    (hitem : site.node.isNamed ["li"] = true) (hitem' : other.node.isNamed ["li"] = true)
    (h : site.itemsBefore nodes = other.itemsBefore nodes) : site = other := by
  obtain ⟨around, index, node⟩ := site
  obtain ⟨_, index', node'⟩ := other
  obtain rfl : around = _ := haround
  obtain ⟨siblings, hfollow, hnode⟩ := hsite
  obtain ⟨siblings', hfollow', hnode'⟩ := hother
  obtain rfl : siblings = siblings' := Option.some.inj (hfollow.symm.trans hfollow')
  dsimp only at hnode hnode' hitem hitem'
  obtain ⟨hlt, rfl⟩ := List.getElem?_eq_some_iff.mp hnode
  obtain ⟨hlt', rfl⟩ := List.getElem?_eq_some_iff.mp hnode'
  simp only [itemsBefore, hfollow, Option.getD_some, ← List.countPBefore_eq_countP_take] at h
  have hindex : index = index' := by
    rw [← List.findIdxNth_countPBefore_of_lt_length_of_pos hitem, h,
      List.findIdxNth_countPBefore_of_lt_length_of_pos hitem']
  subst hindex
  rfl

theorem Site.itemsBefore_lt {nodes : List Node} {site : Site} (hsite : site.IsIn nodes)
    (hitem : site.node.isNamed ["li"] = true) :
    site.itemsBefore nodes < Way.items nodes site.around := by
  obtain ⟨siblings, hfollow, hnode⟩ := hsite
  obtain ⟨hlt, hget⟩ := List.getElem?_eq_some_iff.mp hnode
  rw [itemsBefore, Way.items, hfollow, Option.getD_some, ← List.countPBefore_eq_countP_take]
  exact List.countPBefore_lt_countP_of_lt_length_of_pos (hget.symm ▸ hitem)

/-- In a list, each item is added that is not before the segment. -/
theorem Segment.mem_item {nodes : List Node} {way : Way} {zone : Zone} {events : List Event}
    (h : Segment nodes way zone events) {ordered : Bool} {level earlier : Nat}
    (hzone : zone = .list ordered level earlier) {site : Site} (hsite : site.IsIn nodes)
    (haround : site.around = way) (hitem : site.node.isNamed ["li"] = true)
    (hearlier : earlier ≤ site.itemsBefore nodes) : .item site ordered level ∈ events := by
  induction h generalizing earlier with
  | close way o l =>
    obtain ⟨-, -, rfl⟩ := Zone.list.inj hzone
    have hlt := site.itemsBefore_lt hsite hitem
    rw [haround] at hlt
    omega
  | @item next o l events rest hin hname hlist hordered hlevel h hrest ih ihrest =>
    obtain ⟨rfl, rfl, rfl⟩ := Zone.list.inj hzone
    have hnext := Node.isNamed_of_tag hname
    by_cases heq : site.itemsBefore nodes = next.itemsBefore nodes
    · obtain rfl := Site.eq_of_itemsBefore_eq hsite hin haround hitem hnext heq
      simp
    · have hmem := ihrest rfl haround (by omega)
      exact List.mem_append_right _ hmem
  | other h hrest ih ihrest => exact List.mem_append_right _ (ihrest hzone haround hearlier)
  | _ => exact absurd hzone (by simp)

/-- Every list that starts adds all its items. -/
theorem Segment.mem_item_of_list {nodes : List Node} {way : Way} {zone : Zone}
    {events : List Event} (h : Segment nodes way zone events) {ordered : Bool} {level : Nat}
    {site : Site} (hlist : .list site.around ordered level ∈ events) (hsite : site.IsIn nodes)
    (hitem : site.node.isNamed ["li"] = true) : .item site ordered level ∈ events := by
  induction h with
  | append _ _ ih ihmore =>
    rcases List.mem_append.mp hlist with hlist | hlist
    · exact List.mem_append_left _ (ih hlist)
    · exact List.mem_append_right _ (ihmore hlist)
  | within hname _ ih => exact ih hlist
  | enclosed _ ih =>
    have hmem := ih (by simpa using hlist)
    simp [hmem]
  | @list way index l tag children events hname hfollow hlevel h ih =>
    have hmem : .item site ordered level ∈ events := by
      rcases List.mem_append.mp hlist with hfirst | hlast
      · rcases List.mem_cons.mp hfirst with hstart | hinner
        · obtain ⟨haround, rfl, rfl⟩ := Event.list.inj hstart
          exact h.mem_item rfl hsite haround hitem (Nat.zero_le _)
        · exact ih hinner
      · exact absurd hlast (by simp)
    simp [hmem]
  | item hin hname hlist' hordered hlevel _ _ ih ihrest =>
    rcases List.mem_append.mp hlist with hlist | hlist
    · have hmem := ih (by simpa using hlist)
      simp [hmem]
    · exact List.mem_append_right _ (ihrest hlist)
  | other _ _ ih ihrest =>
    rcases List.mem_append.mp hlist with hlist | hlist
    · exact List.mem_append_left _ (ih hlist)
    · exact List.mem_append_right _ (ihrest hlist)
  | _ => exact absurd hlist (by simp)

theorem Event.mem_originsOf_item {events : List Event} {site : Site} {ordered : Bool} {level : Nat}
    (h : .item site ordered level ∈ events) (past : List Event) (pieces : List Site) :
    ∃ before, .item site ordered level before ∈ originsOf past pieces events := by
  induction events generalizing past pieces with
  | nil => exact absurd h List.not_mem_nil
  | cons event events ih =>
    rcases List.mem_cons.mp h with rfl | h
    · exact ⟨past, List.mem_append_left _ (List.mem_singleton.mpr rfl)⟩
    · obtain ⟨before, hbefore⟩ := ih h (past ++ [event]) (event.pending pieces)
      exact ⟨before, List.mem_append_right _ hbefore⟩

/-! ## The blocks of items -/

/--
What the block of an item says about its place in its list. Other blocks are no list items. The
position is that behind the items that were counted since a list of the kind and level started last;
this list is the item's own or one inside it, and if it is the own one, the position is that behind
the items before this one.
-/
def Origin.Numbers (nodes : List Node) (block : Block) : Origin → Prop
  | .item site ordered level past =>
    site.IsIn nodes ∧ Text.lowerName site.node.tag = "li" ∧
      Way.IsList nodes ordered level site.around ∧
      ∃ position : Nat,
        block.list? = some { ordered := ordered, nestingLevel := level, position := position } ∧
        position = Event.counted ordered level past + 1 ∧
        (∃ counting, Event.counting? ordered level past = some counting ∧
          site.around <+: counting ∧ Way.IsList nodes ordered level counting ∧
          (counting = site.around → position = site.itemsBefore nodes + 1)) ∧
        ((∀ inner, site.around <+: inner → Way.IsList nodes ordered level inner →
          inner = site.around) → position = site.itemsBefore nodes + 1)
  | _ => block.list? = none

theorem Origin.Makes.numbers {place : TextKind} {nodes : List Node} {origin : Origin}
    {block : Block} (h : origin.Makes place block) (hin : origin.IsIn nodes)
    (hcounted : origin.IsCounted nodes) : origin.Numbers nodes block := by
  cases h with
  | paragraph site => rfl
  | loose around hjoined hperm hsorted => rfl
  | cell table own n row column => rfl
  | item site ordered level past =>
    obtain ⟨hsite, hname, hlist⟩ := hin
    obtain ⟨hpast, counting, hcounting, hway, hitems⟩ := hcounted
    have hinner := Event.isList_of_counting? hpast hcounting
    have hown : counting = site.around →
        Event.counted ordered level past + 1 = site.itemsBefore nodes + 1 :=
      fun heq => congrArg (· + 1) (hitems heq)
    exact ⟨hsite, hname, hlist, _, rfl, rfl, ⟨counting, hcounting, hway, hinner, hown⟩,
      fun hnone => hown (hnone counting hway hinner)⟩

theorem Origin.Numbers.lengthens {nodes : List Node} {origin : Origin} {made block : Block}
    (h : origin.Numbers nodes made) (hlengthens : made.Lengthens block) :
    origin.Numbers nodes block := by
  obtain ⟨k, rfl⟩ := hlengthens
  cases origin with
  | paragraph site => exact h
  | loose around pieces => exact h
  | item site ordered level past => exact h
  | cell table own => exact h

/--
List items are numbered by the list of their kind and level that started last, and each list adds all
its items. The position of an item is right where this list is its own, so wherever its list has no
list of the same kind and level inside.
-/
theorem Block.numbers_ofRoot (root : Root) :
    List.Forall₂
        (fun origin block => origin.Gives root.place block ∧ origin.Numbers root.nodes block)
        root.origins (ofRoot root) ∧
      ∀ (site : Site) (ordered : Bool) (level : Nat),
        .list site.around ordered level ∈ root.events → site.IsIn root.nodes →
          site.node.isNamed ["li"] = true → ∃ past, .item site ordered level past ∈ root.origins := by
  constructor
  · have hcounted := root.segment_events.isCounted trivial (List.forall_mem_nil _) []
    have hgives := (List.forall₂_and_left _ _).mpr ⟨hcounted, gives_ofRoot root⟩
    have hall := (List.forall₂_and_left _ _).mpr ⟨root.isIn_origins, hgives⟩
    refine hall.imp ?_
    rintro origin block ⟨hin, hcounted, made, hmakes, hlengthens⟩
    exact ⟨⟨made, hmakes, hlengthens⟩, (hmakes.numbers hin hcounted).lengthens hlengthens⟩
  · intro site ordered level hlist hsite hitem
    exact Event.mem_originsOf_item (root.segment_events.mem_item_of_list hlist hsite hitem) [] []

/-- A list inside another child of a list takes over the count, and keeps it when it is left. -/
theorem Block.inner_list_takes_over_count :
    let item : Char → Node := fun c => .element "li" [] [.text [c]]
    let inner : Node := .element "div" [] [.element "ul" [] [item 'b', item 'c']]
    let root : Root := .document [.element "ul" [] [item 'a', inner, item 'd']]
    let last : Site := ⟨[(0, "ul")], 2, item 'd'⟩
    last.IsIn root.nodes ∧ last.itemsBefore root.nodes = 1 ∧
      ofRoot root =
        [{ text := ['a'], list? := some { ordered := false, position := 1 } },
          { text := ['b'], list? := some { ordered := false, position := 1 } },
          { text := ['c'], list? := some { ordered := false, position := 2 } },
          { text := ['d'], list? := some { ordered := false, position := 3 } }] := by
  intro item inner root last
  refine ⟨⟨[item 'a', inner, item 'd'], rfl, rfl⟩, ?_, ?_⟩
  · decide +kernel
  · decide +kernel

end MarkupCompiler
