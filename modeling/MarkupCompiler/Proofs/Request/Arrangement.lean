import MarkupCompiler.Proofs.Request.Emission
import MarkupCompiler.Proofs.Request.Placement
import MarkupCompiler.Proofs.Sequence.Runs

/-!
# How requests are arranged

The blocks of a document fall into runs of list items of one kind and of blocks that are no list
items. Each block emits requests of its own. The requests for a list wait until the first block
behind it: they come before that block's own requests if it is no list item, and after them if it
is an item of the other kind. What a generator emits is this arrangement, so that its properties
can be read off the runs.
-/

namespace MarkupCompiler

namespace PlacedBlock

def listKind? (p : PlacedBlock) : Option Bool := p.block.list?.map ListMembership.ordered

def listRuns (ps : List PlacedBlock) : List (List PlacedBlock) := Runs.split listKind? ps

/-- The bullets of a run: none if it is no list, or if its range is empty. -/
def bullets : List PlacedBlock → List Request
  | [] => []
  | first :: rest =>
    let stop := (rest.getLastD first).textStop
    match first.listKind? with
    | none => []
    | some isOrdered =>
      if first.start < stop then [.setListBullet first.start stop isOrdered] else []

/-- The indent of a list item, unless it stands on the outermost level. -/
def indent? (config : Config) (p : PlacedBlock) : Option Request :=
  match p.block.list? with
  | none => none
  | some list =>
    if list.nestingLevel = 0 then none
    else some (.setParagraphStyle p.start p.stop (config.levelIndent list.nestingLevel))

/-- The requests for a run as a list: its bullets, then its indents in the order of the items. -/
def listRequests (config : Config) (run : List PlacedBlock) : List Request :=
  bullets run ++ run.filterMap (indent? config)

def requests (config : Config) (regions : List TableRegion) (p : PlacedBlock) :
    Except GenerateFault (List Request) :=
  p.block.requestsAt config (TableRegion.startingAt? p.index regions) p.start

/-- The requests of runs of blocks, when those in `pending` wait for the first block. -/
def arrange (config : Config) (own : PlacedBlock → List Request) :
    List Request → List (List PlacedBlock) → List Request
  | pending, [] => pending
  | pending, [] :: runs => arrange config own pending runs
  | pending, (first :: rest) :: runs =>
    (if first.block.isListItem then own first ++ pending else pending ++ own first) ++
      rest.flatMap own ++ arrange config own (listRequests config (first :: rest)) runs

@[simp] theorem flatten_listRuns (ps : List PlacedBlock) : (listRuns ps).flatten = ps :=
  Runs.flatten_split ..

theorem listKind?_eq_none_iff {p : PlacedBlock} : p.listKind? = none ↔ p.block.list? = none :=
  Option.map_eq_none_iff

theorem listRequests_of_plain (config : Config) {run : List PlacedBlock}
    (h : ∀ p ∈ run, p.listKind? = none) : listRequests config run = [] := by
  have hindents : run.filterMap (indent? config) = [] := by
    refine List.filterMap_eq_nil_iff.mpr fun p hp => ?_
    rw [indent?, listKind?_eq_none_iff.mp (h p hp)]
  cases run with
  | nil => rfl
  | cons first rest =>
    have hfirst := h first List.mem_cons_self
    rw [listRequests, hindents, bullets, hfirst]
    rfl

theorem leads_place {k : Option Bool} {run rest : List Block} {index next : Nat} {start stop : Int}
    (h : Runs.Leads (fun b : Block => b.list?.map ListMembership.ordered) k run rest) :
    Runs.Leads listKind? k (place index start run) (place next stop rest) := by
  constructor
  · intro p hp
    have hblock := List.mem_map_of_mem (f := block) hp
    rw [map_block_place] at hblock
    exact h.same p.block hblock
  · intro p hp
    have hblock : p.block ∈ ((place next stop rest).map block).head? := by
      rw [List.head?_map, Option.mem_def.mp hp]
      rfl
    rw [map_block_place] at hblock
    exact h.differ p.block hblock

end PlacedBlock

open PlacedBlock (place listKind? listRuns listRequests arrange)

namespace ListGroup

structure Records (g : ListGroup) (run : List PlacedBlock) : Prop where
  start_eq : run.head?.map PlacedBlock.start = some g.start
  stop_eq : run.getLast?.map PlacedBlock.textStop = some g.stop
  kind_eq : ∀ p ∈ run, p.listKind? = some g.isOrdered
  items_eq : g.items = run.filterMap fun p => p.block.list?.map fun list =>
    ⟨p.start, p.block.text.length, list.nestingLevel⟩

theorem records_single {p : PlacedBlock} {list : ListMembership} (h : p.block.list? = some list) :
    (single list.ordered ⟨p.start, p.block.text.length, list.nestingLevel⟩).Records [p] := by
  constructor
  · rfl
  · rfl
  · intro q hq
    rw [List.mem_singleton.mp hq, listKind?, h]
    rfl
  · simp [single, h]

theorem Records.add {g : ListGroup} {run : List PlacedBlock} (hrun : g.Records run)
    {p : PlacedBlock} {list : ListMembership} (h : p.block.list? = some list)
    (hkind : g.isOrdered = list.ordered) :
    (g.add ⟨p.start, p.block.text.length, list.nestingLevel⟩).Records (run ++ [p]) := by
  have hne : run ≠ [] := by
    rintro rfl
    exact absurd hrun.start_eq (by simp)
  constructor
  · rw [List.head?_append_of_ne_nil _ hne]
    exact hrun.start_eq
  · rw [List.getLast?_concat]
    rfl
  · intro q hq
    rcases List.mem_append.mp hq with hq | hq
    · exact hrun.kind_eq q hq
    · rw [List.mem_singleton.mp hq, listKind?, h]
      exact congrArg some hkind.symm
  · simp [ListGroup.add, hrun.items_eq, h]

/-- The requests for a group are those for the run it holds. -/
theorem Records.outline_eq {g : ListGroup} {run : List PlacedBlock} (hrun : g.Records run)
    (config : Config) : g.outline config = listRequests config run := by
  have hbullets : g.bullets = PlacedBlock.bullets run := by
    have hstart := hrun.start_eq
    have hstop := hrun.stop_eq
    cases run with
    | nil => exact absurd hstart (by simp)
    | cons first rest =>
      have hkind := hrun.kind_eq first List.mem_cons_self
      rw [List.getLast?_cons] at hstop
      have hstart : first.start = g.start := by simpa using hstart
      have hstop : (rest.getLastD first).textStop = g.stop := by
        rw [List.getLastD_eq_getLast?]
        simpa using hstop
      rw [PlacedBlock.bullets, hkind, hstart, hstop]
      rfl
  have hindents : g.nested.map (indentOf config) = run.filterMap (PlacedBlock.indent? config) := by
    rw [nested, hrun.items_eq, List.filter_filterMap, List.map_filterMap]
    refine List.filterMap_congr fun p _ => ?_
    rw [PlacedBlock.indent?]
    cases p.block.list? with
    | none => rfl
    | some list =>
      by_cases hlevel : list.nestingLevel = 0
      · simp [hlevel]
      · simp [hlevel, indentOf, PlacedBlock.stop, Block.extent, Int.add_assoc]
  rw [outline, hbullets, hindents]
  rfl

end ListGroup

namespace Emission

section Run

variable {config : Config} {regions : List TableRegion} {own : PlacedBlock → List Request}

theorem addBlocks_of_plain {blocks : List Block} {index : Nat} {e e' : Emission}
    (hplain : ∀ b ∈ blocks, b.list? = none) (hgroup : e.group? = none)
    (hown : ∀ p ∈ place index e.cursor blocks, p.requests config regions = .ok (own p))
    (h : addBlocks config regions index blocks e = .ok e') :
    e' = ⟨e.cursor + (Block.stream blocks).length,
      e.requests ++ (place index e.cursor blocks).flatMap own, none⟩ := by
  induction blocks generalizing index e with
  | nil =>
    obtain ⟨cursor, requests, group?⟩ := e
    obtain rfl : group? = none := hgroup
    obtain rfl := Except.ok.inj h
    simp [place]
  | cons b blocks ih =>
    rw [place, List.forall_mem_cons] at hown
    rw [List.forall_mem_cons] at hplain
    have hnone : e.pending config = [] := by rw [pending, hgroup]
    obtain ⟨e₁, hadd, hrest⟩ := addBlocks_cons_eq_ok_iff.mp h
    have he₁ := addBlock_of_plain hplain.1 hown.1 hadd
    rw [hnone, List.append_nil] at he₁
    subst he₁
    rw [ih hplain.2 rfl hown.2 hrest, place, Block.stream_cons, Block.extent_eq]
    simp [Int.add_assoc]

theorem addBlocks_of_items {blocks : List Block} {index : Nat} {e e' : Emission} {g : ListGroup}
    {run : List PlacedBlock} (hgroup : e.group? = some g) (hrun : g.Records run)
    (hkind : ∀ b ∈ blocks, b.list?.map ListMembership.ordered = some g.isOrdered)
    (hown : ∀ p ∈ place index e.cursor blocks, p.requests config regions = .ok (own p))
    (h : addBlocks config regions index blocks e = .ok e') :
    ∃ g', e' = ⟨e.cursor + (Block.stream blocks).length,
        e.requests ++ (place index e.cursor blocks).flatMap own, some g'⟩ ∧
      g'.Records (run ++ place index e.cursor blocks) ∧ g'.isOrdered = g.isOrdered := by
  induction blocks generalizing index e g run with
  | nil =>
    obtain ⟨cursor, requests, group?⟩ := e
    obtain rfl : group? = some g := hgroup
    obtain rfl := Except.ok.inj h
    refine ⟨g, ?_, ?_, rfl⟩
    · simp [place]
    · simpa [place] using hrun
  | cons b blocks ih =>
    rw [place, List.forall_mem_cons] at hown
    rw [List.forall_mem_cons] at hkind
    obtain ⟨list, hlist, hordered⟩ := Option.map_eq_some_iff.mp hkind.1
    obtain ⟨e₁, hadd, hrest⟩ := addBlocks_cons_eq_ok_iff.mp h
    obtain rfl := addBlock_of_next hlist hgroup hordered.symm hown.1 hadd
    have hadded := hrun.add (p := ⟨index, e.cursor, b⟩) hlist hordered.symm
    obtain ⟨g', rfl, hrun', hkind'⟩ := ih rfl hadded hkind.2 hown.2 hrest
    refine ⟨g', ?_, ?_, hkind'⟩
    · rw [place, Block.stream_cons, Block.extent_eq]
      simp [Int.add_assoc]
    · rw [place]
      simpa using hrun'

/--
A run of blocks emits their own requests. What was pending comes before or after those of the first
block, and the requests for the run as a list are pending behind it.
-/
theorem addBlocks_of_run {first : Block} {rest : List Block} {index : Nat} {e e' : Emission}
    (hsame : ∀ b ∈ first :: rest, b.list?.map ListMembership.ordered =
      first.list?.map ListMembership.ordered)
    (hgroup : ∀ g, e.group? = some g →
      first.list?.map ListMembership.ordered ≠ some g.isOrdered)
    (hown : ∀ p ∈ place index e.cursor (first :: rest), p.requests config regions = .ok (own p))
    (h : addBlocks config regions index (first :: rest) e = .ok e') :
    e'.cursor = e.cursor + (Block.stream (first :: rest)).length ∧
      (∀ runs, e.requests ++ arrange config own (e.pending config)
        (place index e.cursor (first :: rest) :: runs) =
          e'.requests ++ arrange config own (e'.pending config) runs) ∧
      ∀ g, e'.group? = some g → first.list?.map ListMembership.ordered = some g.isOrdered := by
  rw [place, List.forall_mem_cons] at hown
  have hrest := (List.forall_mem_cons.mp hsame).2
  have hstop : e.cursor + first.extent + (Block.stream rest).length =
      e.cursor + (Block.stream (first :: rest)).length := by
    rw [Block.extent_eq, Block.stream_cons, List.length_append]
    omega
  obtain ⟨e₁, hadd, hmore⟩ := addBlocks_cons_eq_ok_iff.mp h
  cases hlist : first.list? with
  | none =>
    have hplain : ∀ b ∈ rest, b.list? = none := by
      intro b hb
      have hb := hrest b hb
      rw [hlist] at hb
      exact Option.map_eq_none_iff.mp hb
    have hitem : first.isListItem = false := by rw [Block.isListItem, hlist]; rfl
    have hclosing : listRequests config (place index e.cursor (first :: rest)) = [] := by
      refine PlacedBlock.listRequests_of_plain config fun p hp => ?_
      have hblock := List.mem_map_of_mem (f := PlacedBlock.block) hp
      rw [PlacedBlock.map_block_place] at hblock
      rw [listKind?, hsame _ hblock, hlist]
      rfl
    obtain rfl := addBlock_of_plain hlist hown.1 hadd
    obtain rfl := addBlocks_of_plain hplain rfl hown.2 hmore
    refine ⟨hstop, ?_, ?_⟩
    · intro runs
      rw [place] at hclosing ⊢
      rw [arrange, hclosing, hitem]
      simp
    · intro g hg
      exact absurd hg (by simp)
  | some list =>
    have hkind : ∀ b ∈ rest, b.list?.map ListMembership.ordered = some list.ordered := by
      intro b hb
      have hb := hrest b hb
      rwa [hlist] at hb
    have hother : ∀ g, e.group? = some g → g.isOrdered ≠ list.ordered := by
      intro g hg heq
      have hne := hgroup g hg
      rw [hlist, heq] at hne
      exact hne rfl
    have hitem : first.isListItem = true := by rw [Block.isListItem, hlist]; rfl
    obtain rfl := addBlock_of_first hlist hother hown.1 hadd
    have hsingle := ListGroup.records_single (p := ⟨index, e.cursor, first⟩) hlist
    obtain ⟨g, rfl, hrecords, hordered⟩ := addBlocks_of_items rfl hsingle hkind hown.2 hmore
    have hpending : g.outline config =
        listRequests config (place index e.cursor (first :: rest)) := hrecords.outline_eq config
    refine ⟨hstop, ?_, ?_⟩
    · intro runs
      rw [pending_some, hpending, place, arrange, hitem]
      simp
    · intro g' hg'
      obtain rfl : g = g' := by simpa using hg'
      exact congrArg some hordered.symm

/-- Adding blocks whose own requests are known emits their arrangement. -/
theorem addBlocks_arrange {blocks : List Block} {index : Nat} {e e' : Emission}
    (hgroup : ∀ g, e.group? = some g → ∀ b ∈ blocks.head?,
      b.list?.map ListMembership.ordered ≠ some g.isOrdered)
    (hown : ∀ p ∈ place index e.cursor blocks, p.requests config regions = .ok (own p))
    (h : addBlocks config regions index blocks e = .ok e') :
    e'.cursor = e.cursor + (Block.stream blocks).length ∧
      e'.requests ++ e'.pending config =
        e.requests ++ arrange config own (e.pending config)
          (listRuns (place index e.cursor blocks)) := by
  induction blocks using
    Runs.run_induction fun b : Block => b.list?.map ListMembership.ordered
    generalizing index e with
  | nil =>
    obtain rfl := Except.ok.inj h
    refine ⟨?_, rfl⟩
    simp
  | run first run rest hleads ih =>
    rw [PlacedBlock.place_append] at hown ⊢
    have hownRun := fun p hp => hown p (List.mem_append_left _ hp)
    have hownRest := fun p hp => hown p (List.mem_append_right _ hp)
    obtain ⟨e₁, hadd, hmore⟩ := addBlocks_append_eq_ok_iff.mp h
    obtain ⟨hcursor, harrange, hopen⟩ := addBlocks_of_run hleads.same
      (fun g hg => hgroup g hg first rfl) hownRun hadd
    have hsplit : listRuns (place index e.cursor (first :: run) ++
        place (index + (first :: run).length)
          (e.cursor + (Block.stream (first :: run)).length) rest) =
        place index e.cursor (first :: run) ::
          listRuns (place (index + (first :: run).length)
            (e.cursor + (Block.stream (first :: run)).length) rest) :=
      Runs.split_append (by simp [place]) (PlacedBlock.leads_place hleads)
    rw [hsplit, harrange, ← hcursor]
    rw [← hcursor] at hownRest
    obtain ⟨hcursor', hrequests⟩ := ih
      (by
        intro g hg b hb heq
        exact hleads.differ b hb (heq.trans (hopen g hg).symm))
      hownRest hmore
    refine ⟨?_, hrequests⟩
    rw [hcursor', hcursor, Block.stream_append, List.length_append]
    omega

theorem exists_own_of_addBlocks {blocks : List Block} {index : Nat} {e e' : Emission}
    (h : addBlocks config regions index blocks e = .ok e') :
    ∀ p ∈ place index e.cursor blocks, ∃ own, p.requests config regions = .ok own := by
  induction blocks generalizing index e with
  | nil => simp [place]
  | cons b blocks ih =>
    obtain ⟨e₁, hadd, hmore⟩ := addBlocks_cons_eq_ok_iff.mp h
    obtain ⟨hown, hcursor⟩ := exists_own_of_insertBlock (addBlock_eq_ok_iff.mp hadd).1
    rw [place, List.forall_mem_cons]
    refine ⟨hown, ?_⟩
    rw [← hcursor]
    exact ih hmore

end Run

end Emission

namespace Generator

/-- The requests that a generator gives are arranged, and its cursor ends behind the stream. -/
structure Arranged (config : Config) (blocks : List Block) (start : Int)
    (own : PlacedBlock → List Request) (requests : List Request) (cursor : Int) : Prop where
  own_eq : ∀ p ∈ place 0 start blocks, p.requests config (TableRegion.measure blocks) = .ok (own p)
  requests_eq : requests = arrange config own [] (listRuns (place 0 start blocks))
  cursor_eq : cursor = start + (Block.stream blocks).length

theorem exists_arranged_of_run {config : Config} {blocks : List Block} {start cursor : Int}
    {requests : List Request} (h : run config blocks start = (.ok requests, cursor)) :
    ∃ own, Arranged config blocks start own requests cursor := by
  obtain ⟨-, e, hadd, hfinish, rfl⟩ := run_eq_ok_iff.mp h
  obtain ⟨-, -, -, rfl⟩ := Emission.finish_eq_ok_iff.mp hfinish
  have hexists := Emission.exists_own_of_addBlocks hadd
  choose! own hown using hexists
  obtain ⟨hcursor, harranged⟩ :=
    Emission.addBlocks_arrange (fun g hg => absurd hg (by simp)) hown hadd
  exact ⟨own, hown, harranged, hcursor⟩

theorem generate_of_start {start : Int} (hstart : 1 ≤ start) (blocks : List Block) (g : Generator) :
    generate blocks (.int start) g =
      ((run g.config blocks start).1, { g with cursor := (run g.config blocks start).2 }) := by
  have hlow : ¬start < 1 := by omega
  rw [generate, Input.startIndex, if_neg hlow]

theorem generate_of_run {blocks : List Block} {start cursor : Int} {g : Generator}
    {requests : List Request} (hstart : 1 ≤ start)
    (h : run g.config blocks start = (.ok requests, cursor)) :
    generate blocks (.int start) g = (.ok requests, { g with cursor := cursor }) := by
  rw [generate_of_start hstart, h]

/-- A call that succeeds is a run from a start index of at least one. -/
theorem run_of_generate {blocks : List Block} {start : Int} {g g' : Generator}
    {requests : List Request} (h : generate blocks (.int start) g = (.ok requests, g')) :
    1 ≤ start ∧ run g.config blocks start = (.ok requests, g'.cursor) := by
  by_cases hstart : start < 1
  · rw [generate, Input.startIndex, if_pos hstart] at h
    exact absurd (congrArg Prod.fst h) (by simp)
  · have hgenerate := generate_of_start (by omega : 1 ≤ start) blocks g
    obtain ⟨hresult, hg⟩ := Prod.mk.inj (hgenerate.symm.trans h)
    refine ⟨by omega, ?_⟩
    rw [← hresult, ← hg]

theorem exists_arranged {blocks : List Block} {start : Int} {g g' : Generator}
    {requests : List Request} (h : generate blocks (.int start) g = (.ok requests, g')) :
    ∃ own, Arranged g.config blocks start own requests g'.cursor :=
  exists_arranged_of_run (run_of_generate h).2

end Generator

end MarkupCompiler
