import MarkupCompiler.Proofs.Request.AppendOnly

/-!
# Bullets of list runs

Every longest run of list items of one kind gets bullets over its texts, from the first item to the
last, and indents for its nested items. These requests stand directly behind the run, or behind the
requests of the next block if that is an item of the other kind. Bullets are asked for in no other
place, so that their ranges follow one another, hold every list item that has text, and hold
nothing of other blocks.
-/

namespace MarkupCompiler

/-- A range of bullets, and their kind. -/
structure BulletRange where
  start : Int
  stop : Int
  isOrdered : Bool
  deriving DecidableEq, Repr

/-- Of two ranges that follow one another, either may be the first. -/
theorem BulletRange.apart_of_pairwise {ranges : List BulletRange}
    (h : ranges.Pairwise fun b c => b.stop ≤ c.start) {b c : BulletRange} (hb : b ∈ ranges)
    (hc : c ∈ ranges) (hne : b ≠ c) : b.stop ≤ c.start ∨ c.stop ≤ b.start := by
  have : Std.Symm fun b c : BulletRange => b.stop ≤ c.start ∨ c.stop ≤ b.start :=
    ⟨fun _ _ hbc => hbc.symm⟩
  exact (h.imp fun {b c} hbc => Or.inl hbc : ranges.Pairwise fun b c =>
    b.stop ≤ c.start ∨ c.stop ≤ b.start).forall hb hc hne

def Request.bulletRange? : Request → Option BulletRange
  | .setListBullet start stop isOrdered => some ⟨start, stop, isOrdered⟩
  | _ => none

namespace PlacedBlock

variable {config : Config} {regions : List TableRegion} {own : PlacedBlock → List Request}
  {index : Nat} {position : Int} {blocks : List Block}

/-- What is arranged up to a run does not depend on the runs behind it. -/
theorem exists_arrange_append (config : Config) (own : PlacedBlock → List Request)
    (pending : List Request) (before : List (List PlacedBlock)) {run : List PlacedBlock}
    (hrun : run ≠ []) :
    ∃ earlier, ∀ runs, arrange config own pending (before ++ run :: runs) =
      earlier ++ arrange config own (listRequests config run) runs := by
  induction before generalizing pending with
  | nil =>
    obtain ⟨first, rest, rfl⟩ := List.exists_cons_of_ne_nil hrun
    exact ⟨_, fun runs => rfl⟩
  | cons next before ih =>
    cases next with
    | nil =>
      obtain ⟨earlier, hearlier⟩ := ih pending
      exact ⟨earlier, hearlier⟩
    | cons first rest =>
      obtain ⟨earlier, hearlier⟩ := ih (listRequests config (first :: rest))
      refine ⟨(if first.block.isListItem then own first ++ pending else pending ++ own first) ++
        rest.flatMap own ++ earlier, fun runs => ?_⟩
      rw [List.cons_append, arrange, hearlier, List.append_assoc _ earlier]

theorem plain_of_mem_own {p : PlacedBlock} {requests : List Request}
    (hown : p.requests config regions = .ok requests) {r : Request} (h : r ∈ requests) :
    r.bulletRange? = none ∧ ∀ a z style, r = .setParagraphStyle a z style →
      config.paragraphStyleFor p.block.paragraphStyle = .ok style := by
  obtain ⟨paragraph, text, hparts⟩ := Block.exists_parts hown
  rw [hparts.own_eq] at h
  rcases List.mem_append.mp h with h | h
  · obtain ⟨rows, columns, rfl⟩ := Block.mem_tableRequests h
    exact ⟨rfl, fun a z style hr => absurd hr (by simp)⟩
  rcases List.mem_cons.mp h with rfl | h
  · exact ⟨rfl, fun a z style hr => absurd hr (by simp)⟩
  rcases List.mem_append.mp h with h | h
  · obtain ⟨style, hstyle, -, rfl⟩ := Block.mem_paragraphRequests hparts.paragraph_eq h
    refine ⟨rfl, fun a z style' hr => ?_⟩
    injection hr with _ _ hsame
    rw [← hsame, hstyle]
  · obtain ⟨a, z, style, rfl, -⟩ := Block.mem_textRequests hparts.text_eq h
    exact ⟨rfl, fun a z style hr => absurd hr (by simp)⟩

def bulletRanges (run : List PlacedBlock) : List BulletRange :=
  (bullets run).filterMap Request.bulletRange?

theorem mem_bulletRanges {run : List PlacedBlock} {b : BulletRange} (h : b ∈ bulletRanges run) :
    ∃ first ∈ run, ∃ last ∈ run, first.listKind? = some b.isOrdered ∧
      first.start < last.textStop ∧ b.start = first.start ∧ b.stop = last.textStop := by
  obtain ⟨r, hr, hrange⟩ := List.mem_filterMap.mp h
  obtain ⟨first, hfirst, last, hlast, isOrdered, hkind, hne, rfl⟩ := mem_bullets hr
  obtain rfl := Option.some.inj hrange
  exact ⟨first, hfirst, last, hlast, hkind, hne, rfl, rfl⟩

theorem pairwise_bulletRanges (run : List PlacedBlock) :
    (bulletRanges run).Pairwise fun b c => b.stop ≤ c.start := by
  cases run with
  | nil => exact List.Pairwise.nil
  | cons first rest =>
    rw [bulletRanges, bullets]
    cases first.listKind? with
    | none => exact List.Pairwise.nil
    | some isOrdered =>
      by_cases hne : first.start < (rest.getLastD first).textStop
      · simp only [if_pos hne]
        exact List.pairwise_singleton ..
      · simp only [if_neg hne]
        exact List.Pairwise.nil

/-- The bullets that an arrangement asks for are those of its runs, in order. -/
theorem bulletRanges_arrange
    (hown : ∀ p ∈ place index position blocks, p.requests config regions = .ok (own p)) :
    (arrange config own [] (listRuns (place index position blocks))).filterMap
        Request.bulletRange? =
      (listRuns (place index position blocks)).flatMap bulletRanges := by
  have hnone : ∀ p ∈ (listRuns (place index position blocks)).flatten,
      (own p).filterMap Request.bulletRange? = [] := by
    intro p hp
    rw [flatten_listRuns] at hp
    refine List.filterMap_eq_nil_iff.mpr fun r hr => ?_
    cases makes_of_mem_own (hown p hp) hr <;> rfl
  have hindents : ∀ run : List PlacedBlock,
      (run.filterMap (indent? config)).filterMap Request.bulletRange? = [] := by
    intro run
    refine List.filterMap_eq_nil_iff.mpr fun r hr => ?_
    obtain ⟨p, -, hindent⟩ := List.mem_filterMap.mp hr
    obtain ⟨list, -, -, rfl⟩ := indent?_eq_some hindent
    rfl
  rw [filterMap_arrange_lists hnone, List.filterMap_nil, List.nil_append]
  refine List.flatMap_congr fun run _ => ?_
  rw [listRequests, List.filterMap_append, hindents, List.append_nil]
  rfl

/-- In a run of placed blocks the first one starts first, and the last text ends last. -/
theorem bounds_of_mem_run {first : PlacedBlock} {rest : List PlacedBlock}
    (hsorted : (first :: rest).Pairwise fun p q => p.stop ≤ q.start) :
    ∀ p ∈ first :: rest, first.start ≤ p.start ∧ p.textStop ≤ (rest.getLastD first).textStop := by
  induction rest generalizing first with
  | nil =>
    intro p hp
    rw [List.mem_singleton.mp hp]
    exact ⟨Int.le_refl _, Int.le_refl _⟩
  | cons next rest ih =>
    obtain ⟨hfirst, hrest⟩ := List.pairwise_cons.mp hsorted
    have hnext := ih hrest
    have hbefore := hfirst next List.mem_cons_self
    have hstop := first.stop_eq
    have hstart := first.start_le_textStop
    have hlast := (hnext next List.mem_cons_self).2
    have hnextStart := next.start_le_textStop
    intro p hp
    rw [List.getLastD_cons]
    rcases List.mem_cons.mp hp with rfl | hp
    · constructor
      · omega
      · omega
    · obtain ⟨hlow, hhigh⟩ := hnext p hp
      constructor
      · omega
      · omega

theorem exists_bulletRange {run : List PlacedBlock} {isOrdered : Bool}
    (hsorted : run.Pairwise fun p q => p.stop ≤ q.start)
    (hkind : ∀ p ∈ run, p.listKind? = some isOrdered) {p : PlacedBlock} (hp : p ∈ run)
    (htext : p.block.text ≠ []) :
    ∃ b ∈ bulletRanges run, b.start ≤ p.start ∧ p.textStop ≤ b.stop ∧ b.isOrdered = isOrdered := by
  cases run with
  | nil => exact absurd hp List.not_mem_nil
  | cons first rest =>
    obtain ⟨hlow, hhigh⟩ := bounds_of_mem_run hsorted p hp
    have hlength := List.length_pos_iff.mpr htext
    have hne : first.start < (rest.getLastD first).textStop := by
      have hstop : p.textStop = p.start + p.block.text.length := rfl
      omega
    have hbullets : bullets (first :: rest) =
        [.setListBullet first.start (rest.getLastD first).textStop isOrdered] := by
      rw [bullets, hkind first List.mem_cons_self]
      exact if_pos hne
    refine ⟨⟨first.start, (rest.getLastD first).textStop, isOrdered⟩, ?_, hlow, hhigh, rfl⟩
    rw [bulletRanges, hbullets]
    exact List.mem_singleton_self _

theorem pairwise_listRuns (index : Nat) (position : Int) (blocks : List Block) :
    (∀ run ∈ listRuns (place index position blocks), run.Pairwise fun p q => p.stop ≤ q.start) ∧
      (listRuns (place index position blocks)).Pairwise fun run next =>
        ∀ p ∈ run, ∀ q ∈ next, p.stop ≤ q.start := by
  have hplace := (pairwise_place index position blocks).imp fun {p q} h => h.2
  rw [← flatten_listRuns (place index position blocks)] at hplace
  exact List.pairwise_flatten.mp hplace

theorem pairwise_bulletRanges_listRuns (index : Nat) (position : Int) (blocks : List Block) :
    ((listRuns (place index position blocks)).flatMap bulletRanges).Pairwise fun b c =>
      b.stop ≤ c.start := by
  obtain ⟨-, hruns⟩ := pairwise_listRuns index position blocks
  refine List.pairwise_flatMap.mpr ⟨fun run _ => pairwise_bulletRanges run, ?_⟩
  refine hruns.imp fun {run next} hbefore b hb c hc => ?_
  obtain ⟨-, -, last, hlast, -, -, -, hstop⟩ := mem_bulletRanges hb
  obtain ⟨first, hfirst, -, -, -, -, hstart, -⟩ := mem_bulletRanges hc
  have hgap := hbefore last hlast first hfirst
  have hseparator := last.stop_eq
  omega

/-- An item with text lies in one range of bullets, and no other range meets its text. -/
theorem exists_bulletRange_listRuns {p : PlacedBlock} (hp : p ∈ place index position blocks)
    {list : ListMembership} (hlist : p.block.list? = some list) (htext : p.block.text ≠ []) :
    ∃ b ∈ (listRuns (place index position blocks)).flatMap bulletRanges, b.start ≤ p.start ∧
      p.textStop ≤ b.stop ∧ b.isOrdered = list.ordered ∧
      ∀ c ∈ (listRuns (place index position blocks)).flatMap bulletRanges,
        c.start < p.textStop → p.start < c.stop → c = b := by
  rw [← flatten_listRuns (place index position blocks)] at hp
  obtain ⟨run, hrun, hprun⟩ := List.mem_flatten.mp hp
  have hkind : ∀ q ∈ run, q.listKind? = some list.ordered := by
    intro q hq
    rw [Runs.same_of_mem_split hrun q hq p hprun, listKind?, hlist]
    rfl
  have hsorted := (pairwise_listRuns index position blocks).1 run hrun
  obtain ⟨b, hb, hlow, hhigh, hordered⟩ := exists_bulletRange hsorted hkind hprun htext
  have hmem := List.mem_flatMap_of_mem hrun hb
  refine ⟨b, hmem, hlow, hhigh, hordered, fun c hc hcstart hcstop => ?_⟩
  -- Two ranges that meet the same text cannot follow one another.
  by_contra hne
  have hranges := pairwise_bulletRanges_listRuns index position blocks
  rcases BulletRange.apart_of_pairwise hranges hc hmem hne with hbefore | hbefore
  · omega
  · omega

/-- A block that is no list item stands before or behind every range of bullets. -/
theorem apart_of_plain {p : PlacedBlock} (hp : p ∈ place index position blocks)
    (hlist : p.block.list? = none) {b : BulletRange}
    (hb : b ∈ (listRuns (place index position blocks)).flatMap bulletRanges) :
    p.stop ≤ b.start ∨ b.stop ≤ p.start := by
  obtain ⟨run, hrun, hb⟩ := List.mem_flatMap.mp hb
  obtain ⟨first, hfirst, last, hlast, hkind, -, hstart, hstop⟩ := mem_bulletRanges hb
  have hplain := listKind?_eq_none_iff.mpr hlist
  have hnext := last.stop_eq
  rw [← flatten_listRuns (place index position blocks)] at hp
  obtain ⟨own, hown, hpown⟩ := List.mem_flatten.mp hp
  obtain ⟨-, hruns⟩ := pairwise_listRuns index position blocks
  obtain ⟨i, hi, rfl⟩ := List.getElem_of_mem hown
  obtain ⟨j, hj, rfl⟩ := List.getElem_of_mem hrun
  have horder := List.pairwise_iff_getElem.mp hruns
  rcases Nat.lt_trichotomy i j with hlt | rfl | hgt
  · have hgap := horder i j hi hj hlt p hpown first hfirst
    omega
  · have hsame := Runs.same_of_mem_split hown p hpown first hfirst
    rw [hplain, hkind] at hsame
    exact absurd hsame (by simp)
  · have hgap := horder j i hj hi hgt last hlast p hpown
    omega

end PlacedBlock

open PlacedBlock (place listKind? listRuns listRequests arrange bulletRanges)

namespace Generator

/--
The requests for a run as a list stand behind the insertions of all blocks up to it. They come
before those of the next block, or right after them if that is a list item, or at the end.
-/
def Closes (config : Config) (own : PlacedBlock → List Request) (requests : List Request)
    (upTo run : List PlacedBlock) (next? : Option PlacedBlock) : Prop :=
  ∃ earlier later, earlier.filterMap Request.insertion? =
      upTo.map (fun p => (p.start, p.block.text ++ ['\n'])) ∧
    match next? with
    | none => requests = earlier ++ listRequests config run
    | some next =>
      if next.block.isListItem then
        requests = earlier ++ own next ++ listRequests config run ++ later
      else requests = earlier ++ listRequests config run ++ own next ++ later

/--
How the requests of a call treat the lists among the blocks, when `own` gives the requests of each
block but for those of its list.
-/
structure ListsMarked (config : Config) (start : Int) (blocks : List Block)
    (own : PlacedBlock → List Request) (requests : List Request) : Prop where
  /-- The blocks are inserted in their places. -/
  insertions : requests.filterMap Request.insertion? =
    (place 0 start blocks).map fun p => (p.start, p.block.text ++ ['\n'])
  /-- The runs cut the blocks into stretches of one kind, and none can be made longer. -/
  runs_flatten : (listRuns (place 0 start blocks)).flatten = place 0 start blocks
  runs_same : ∀ run ∈ listRuns (place 0 start blocks), run ≠ [] ∧
    ∀ p ∈ run, ∀ q ∈ run, p.listKind? = q.listKind?
  runs_differ : (listRuns (place 0 start blocks)).IsChain fun run next =>
    ∀ p ∈ run.getLast?, ∀ q ∈ next.head?, p.listKind? ≠ q.listKind?
  own_eq : ∀ p ∈ place 0 start blocks, p.requests config (TableRegion.measure blocks) = .ok (own p)
  /-- A block's own requests are no bullets, and no paragraph styles but its own. -/
  own_plain : ∀ p ∈ place 0 start blocks, ∀ r ∈ own p, r.bulletRange? = none ∧
    ∀ a z style, r = .setParagraphStyle a z style →
      config.paragraphStyleFor p.block.paragraphStyle = .ok style
  /-- There are no requests but the blocks' own and those for the runs as lists. -/
  requests_eq : requests = arrange config own [] (listRuns (place 0 start blocks))
  closes : ∀ before run after, listRuns (place 0 start blocks) = before ++ run :: after →
    Closes config own requests (before ++ [run]).flatten run after.flatten.head?
  /-- Bullets are those of the runs: one range for each list that holds a position. -/
  bullets : requests.filterMap Request.bulletRange? =
    (listRuns (place 0 start blocks)).flatMap bulletRanges
  /-- Ranges of bullets follow one another. -/
  disjoint : (requests.filterMap Request.bulletRange?).Pairwise fun b c => b.stop ≤ c.start
  /-- A list item with text lies in one range of bullets, which is of its kind. -/
  item : ∀ p ∈ place 0 start blocks, ∀ list, p.block.list? = some list → p.block.text ≠ [] →
    ∃ b ∈ requests.filterMap Request.bulletRange?, b.start ≤ p.start ∧
      p.start + p.block.text.length ≤ b.stop ∧ b.isOrdered = list.ordered ∧
      ∀ c ∈ requests.filterMap Request.bulletRange?,
        c.start < p.start + p.block.text.length → p.start < c.stop → c = b
  /-- Other blocks lie outside all ranges of bullets. -/
  other : ∀ p ∈ place 0 start blocks, p.block.list? = none →
    ∀ b ∈ requests.filterMap Request.bulletRange?,
      p.start + p.block.text.length + 1 ≤ b.start ∨ b.stop ≤ p.start

/-- In an arrangement every run is closed at its end. -/
theorem closes_arrange {config : Config} {regions : List TableRegion}
    {own : PlacedBlock → List Request} {before after : List (List PlacedBlock)}
    {run : List PlacedBlock} (hrun : run ≠ []) (hafter : ∀ next ∈ after, next ≠ [])
    (hown : ∀ p ∈ (before ++ [run]).flatten, p.requests config regions = .ok (own p)) :
    Closes config own (arrange config own [] (before ++ run :: after)) (before ++ [run]).flatten run
      after.flatten.head? := by
  obtain ⟨earlier, hearlier⟩ :=
    PlacedBlock.exists_arrange_append config own [] before hrun
  have hinsertions : earlier.filterMap Request.insertion? =
      (before ++ [run]).flatten.map fun p => (p.start, p.block.text ++ ['\n']) := by
    have hall := PlacedBlock.insertions_arrange_runs hown
    rw [hearlier [], arrange, List.filterMap_append,
      PlacedBlock.filterMap_listRequests config (fun _ _ _ => rfl) fun _ _ _ => rfl,
      List.append_nil] at hall
    exact hall
  cases after with
  | nil => exact ⟨earlier, [], hinsertions, hearlier []⟩
  | cons next after =>
    cases next with
    | nil => exact absurd rfl (hafter [] List.mem_cons_self)
    | cons first rest =>
      refine ⟨earlier, rest.flatMap own ++
        arrange config own (listRequests config (first :: rest)) after, hinsertions, ?_⟩
      rw [hearlier, arrange]
      show if first.block.isListItem then _ else _
      split
      · simp only [List.append_assoc]
      · simp only [List.append_assoc]

/-- A call that succeeds gives bullets and indents to the lists among the blocks only. -/
theorem generate_lists_marked {blocks : List Block} {start : Int} {g g' : Generator}
    {requests : List Request} (h : generate blocks (.int start) g = (.ok requests, g')) :
    ∃ own, ListsMarked g.config start blocks own requests := by
  obtain ⟨own, hown, hrequests, -⟩ := exists_arranged h
  have hflatten := PlacedBlock.flatten_listRuns (place 0 start blocks)
  have hbullets : requests.filterMap Request.bulletRange? =
      (listRuns (place 0 start blocks)).flatMap bulletRanges := by
    rw [hrequests]
    exact PlacedBlock.bulletRanges_arrange hown
  have hdisjoint : (requests.filterMap Request.bulletRange?).Pairwise
      fun b c => b.stop ≤ c.start := by
    rw [hbullets]
    exact PlacedBlock.pairwise_bulletRanges_listRuns 0 start blocks
  refine ⟨own, ?_⟩
  constructor
  case insertions =>
    rw [hrequests]
    exact PlacedBlock.insertions_arrange hown
  case runs_flatten => exact hflatten
  case runs_same =>
    exact fun run hrun => ⟨Runs.ne_nil_of_mem_split hrun, Runs.same_of_mem_split hrun⟩
  case runs_differ => exact Runs.isChain_split ..
  case own_eq => exact hown
  case own_plain => exact fun p hp r hr => PlacedBlock.plain_of_mem_own (hown p hp) hr
  case requests_eq => exact hrequests
  case closes =>
    intro before run after hruns
    have hne : ∀ next ∈ before ++ run :: after, next ≠ [] := by
      rw [← hruns]
      exact fun next hnext => Runs.ne_nil_of_mem_split hnext
    rw [hrequests, hruns]
    refine closes_arrange (hne run (by simp)) (fun next hnext => hne next (by simp [hnext]))
      fun p hp => hown p ?_
    rw [← hflatten, hruns, List.append_cons, List.flatten_append]
    exact List.mem_append_left _ hp
  case bullets => exact hbullets
  case disjoint => exact hdisjoint
  case item =>
    intro p hp list hlist htext
    rw [hbullets]
    exact PlacedBlock.exists_bulletRange_listRuns hp hlist htext
  case other =>
    intro p hp hlist b hb
    rw [hbullets] at hb
    have hstop := p.stop_eq
    unfold PlacedBlock.textStop at hstop
    rw [← hstop]
    exact PlacedBlock.apart_of_plain hp hlist hb

/-- A list that ends in an empty nested item, a list of the other kind, and a list without text. -/
theorem generate_lists_marked_kinds :
    let item : Block := { text := ['a'], list? := some { ordered := false } }
    let nested : Block := { text := [], list? := some { ordered := false, nestingLevel := 1 } }
    let other : Block := { text := ['b'], list? := some { ordered := true } }
    let plain : Block := { text := ['c'] }
    let empty : Block := { text := [], list? := some { ordered := true } }
    let requests : List Request :=
      [.insertText 1 ['a', '\n'], .setParagraphStyle 1 3 .normal,
        .insertText 3 ['\n'], .setParagraphStyle 3 4 .normal,
        .insertText 4 ['b', '\n'], .setParagraphStyle 4 6 .normal,
        .setListBullet 1 3 false, .setParagraphStyle 3 4 (Config.levelIndent {} 1),
        .setListBullet 4 5 true, .insertText 6 ['c', '\n'], .setParagraphStyle 6 8 .normal,
        .insertText 8 ['\n'], .setParagraphStyle 8 9 .normal]
    generate [item, nested, other, plain, empty] (.int 1) {} = (.ok requests, { cursor := 9 }) ∧
      ∃ own, ListsMarked {} 1 [item, nested, other, plain, empty] own requests := by
  intro item nested other plain empty requests
  have hgenerate : generate [item, nested, other, plain, empty] (.int 1) {} =
      (.ok requests, { cursor := 9 }) := generate_of_run (by decide) (by decide +kernel)
  exact ⟨hgenerate, generate_lists_marked hgenerate⟩

end Generator

end MarkupCompiler
