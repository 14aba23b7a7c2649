import MarkupCompiler.Proofs.Request.BlockRequests

/-!
# Requests only append

Requests are made one after another, on a stream that begins at the start index and that insertions
change. An arrangement inserts only at the end of the stream, and all its other requests stay
inside what was inserted before them. So what a request addresses is the same when it is made and
in the end, and the insertions rebuild the text of all blocks.
-/

namespace MarkupCompiler

namespace Request

def insertion? : Request → Option (Int × Text)
  | .insertText position text => some (position, text)
  | _ => none

/-- The first position that a request addresses, and the one behind the last. -/
def span : Request → Int × Int
  | .insertText position _ => (position, position)
  | .createTable position _ _ => (position, position)
  | .setParagraphStyle start stop _ => (start, stop)
  | .setTextStyle start stop _ => (start, stop)
  | .setListBullet start stop _ => (start, stop)

/-- The stream after a request. Only an insertion changes it, and moves what is behind it. -/
def edit (start : Int) (stream : Text) : Request → Text
  | .insertText position text =>
    stream.take (position - start).toNat ++ text ++ stream.drop (position - start).toNat
  | _ => stream

/-- The stream after some requests, one after another. -/
def replay (start : Int) (stream : Text) (requests : List Request) : Text :=
  requests.foldl (edit start) stream

/-- The characters of a stream that a request addresses. -/
def selected (start : Int) (stream : Text) (r : Request) : Text :=
  (stream.take (r.span.2 - start).toNat).drop (r.span.1 - start).toNat

/-- An insertion goes to the end of the stream; all else addresses positions of the stream. -/
def Fits (start : Int) (stream : Text) (r : Request) : Prop :=
  match r.insertion? with
  | some (position, _) => position = start + stream.length
  | none => start ≤ r.span.1 ∧ r.span.1 ≤ r.span.2 ∧ r.span.2 ≤ start + stream.length

/-- Every request fits the stream that it is made on. -/
def Appends (start : Int) : Text → List Request → Prop
  | _, [] => True
  | stream, r :: requests => r.Fits start stream ∧ Appends start (r.edit start stream) requests

theorem replay_append (start : Int) (stream : Text) (before after : List Request) :
    replay start stream (before ++ after) = replay start (replay start stream before) after :=
  List.foldl_append

theorem appends_append {start : Int} {stream : Text} {before after : List Request} :
    Appends start stream (before ++ after) ↔
      Appends start stream before ∧ Appends start (replay start stream before) after := by
  induction before generalizing stream with
  | nil => simp [Appends, replay]
  | cons r before ih =>
    rw [List.cons_append, Appends, Appends, ih, and_assoc]
    rfl

/-- An insertion that fits adds its text, and nothing else changes the stream. -/
theorem edit_of_fits {start : Int} {stream : Text} {r : Request} (h : r.Fits start stream) :
    r.edit start stream = stream ++ (r.insertion?.toList.flatMap Prod.snd) := by
  cases r with
  | insertText position text =>
    have hposition : position = start + stream.length := h
    have hlength : (position - start).toNat = stream.length := by omega
    rw [edit, hlength, List.take_length, List.drop_length, List.append_nil]
    simp [insertion?]
  | setParagraphStyle a z style => simp [edit, insertion?]
  | setTextStyle a z style => simp [edit, insertion?]
  | setListBullet a z isOrdered => simp [edit, insertion?]
  | createTable position rows columns => simp [edit, insertion?]

/-- Requests that append add the texts of their insertions in order. -/
theorem replay_of_appends {start : Int} {stream : Text} {requests : List Request}
    (h : Appends start stream requests) :
    replay start stream requests =
      stream ++ (requests.filterMap insertion?).flatMap Prod.snd := by
  induction requests generalizing stream with
  | nil => simp [replay]
  | cons r requests ih =>
    obtain ⟨hfits, hrest⟩ := h
    have hstep : replay start stream (r :: requests) =
        replay start (r.edit start stream) requests := rfl
    rw [hstep, ih hrest, edit_of_fits hfits]
    cases hinsertion : r.insertion? <;> simp [hinsertion]

/-- What a request that fits a stream addresses does not change when the stream grows. -/
theorem selected_of_fits {start : Int} {stream : Text} {r : Request} (h : r.Fits start stream)
    (more : Text) : selected start (stream ++ more) r = selected start stream r := by
  have hstop : r.span.2 ≤ start + stream.length := by
    unfold Fits at h
    cases r with
    | insertText position text => exact Int.le_of_eq h
    | _ => exact h.2.2
  have hshort : (r.span.2 - start).toNat ≤ stream.length := by omega
  unfold selected
  rw [List.take_append_of_le_length hshort]

/-- The requests insert nothing, and address positions of a stream. -/
def Waits (start : Int) (stream : Text) (requests : List Request) : Prop :=
  ∀ r ∈ requests, r.insertion? = none ∧ r.Fits start stream

theorem Waits.appends {start : Int} {stream : Text} {requests : List Request}
    (h : Waits start stream requests) :
    Appends start stream requests ∧ replay start stream requests = stream := by
  induction requests with
  | nil => exact ⟨trivial, rfl⟩
  | cons r requests ih =>
    unfold Waits at h
    rw [List.forall_mem_cons] at h
    obtain ⟨⟨hnone, hfits⟩, hrest⟩ := h
    obtain ⟨happends, hreplay⟩ := ih hrest
    have hedit : r.edit start stream = stream := by
      rw [edit_of_fits hfits, hnone]
      exact List.append_nil _
    constructor
    · rw [Appends, hedit]
      exact ⟨hfits, happends⟩
    · have hstep : replay start stream (r :: requests) =
          replay start (r.edit start stream) requests := rfl
      rw [hstep, hedit, hreplay]

theorem Waits.mono {start : Int} {stream : Text} {requests : List Request}
    (h : Waits start stream requests) (more : Text) : Waits start (stream ++ more) requests := by
  intro r hr
  obtain ⟨hnone, hfits⟩ := h r hr
  refine ⟨hnone, ?_⟩
  unfold Fits at hfits ⊢
  rw [hnone] at hfits ⊢
  obtain ⟨hlow, hne, hhigh⟩ := hfits
  refine ⟨hlow, hne, ?_⟩
  rw [List.length_append]
  omega

end Request

open Request (Appends Waits Fits replay)

namespace PlacedBlock

variable {config : Config} {regions : List TableRegion} {start : Int} {stream : Text}
  {own : PlacedBlock → List Request}

theorem appends_own {p : PlacedBlock} (hown : p.requests config regions = .ok (own p))
    (hplace : p.start = start + stream.length) :
    Appends start stream (own p) ∧ replay start stream (own p) = stream ++ p.block.inserted := by
  obtain ⟨paragraph, text, hparts⟩ := Block.exists_parts hown
  have htable : Waits start stream
      (Block.tableRequests p.start (TableRegion.startingAt? p.index regions)) := by
    intro r hr
    obtain ⟨rows, columns, rfl⟩ := Block.mem_tableRequests hr
    refine ⟨rfl, ?_, Int.le_refl _, ?_⟩
    · simp only [Request.span]
      omega
    · simp only [Request.span]
      omega
  have hstyles : Waits start (stream ++ p.block.inserted) (paragraph ++ text) := by
    have hlength : ((stream ++ p.block.inserted).length : Int) =
        stream.length + p.block.extent := by
      rw [Block.extent_eq, List.length_append, Int.natCast_add]
    have hextent := p.block.extent_pos
    intro r hr
    rcases List.mem_append.mp hr with hr | hr
    · obtain ⟨style, -, -, rfl⟩ := Block.mem_paragraphRequests hparts.paragraph_eq hr
      refine ⟨rfl, ?_, ?_, ?_⟩ <;> simp only [Request.span] <;> omega
    · obtain ⟨a, z, style, rfl, -, hlow, hne, hhigh⟩ := Block.mem_textRequests hparts.text_eq hr
      have hshort : (p.block.text.length : Int) + 1 = p.block.extent := rfl
      refine ⟨rfl, ?_, ?_, ?_⟩ <;> simp only [Request.span] <;> omega
  have hinsert : Fits start stream (.insertText p.start p.block.inserted) := hplace
  have hedit : (Request.insertText p.start p.block.inserted).edit start stream =
      stream ++ p.block.inserted := by
    rw [Request.edit_of_fits hinsert]
    simp [Request.insertion?]
  obtain ⟨htableAppends, htableReplay⟩ := htable.appends
  obtain ⟨hstylesAppends, hstylesReplay⟩ := hstyles.appends
  rw [hparts.own_eq]
  constructor
  · rw [Request.appends_append, htableReplay]
    refine ⟨htableAppends, hinsert, ?_⟩
    rw [hedit]
    exact hstylesAppends
  · rw [Request.replay_append, htableReplay]
    have hstep : replay start stream (.insertText p.start p.block.inserted :: (paragraph ++ text)) =
        replay start ((Request.insertText p.start p.block.inserted).edit start stream)
          (paragraph ++ text) := rfl
    rw [hstep, hedit, hstylesReplay]

theorem appends_flatMap_own {blocks : List Block} {index : Nat} {position : Int}
    (hown : ∀ p ∈ place index position blocks, p.requests config regions = .ok (own p))
    (hplace : position = start + stream.length) :
    Appends start stream ((place index position blocks).flatMap own) ∧
      replay start stream ((place index position blocks).flatMap own) =
        stream ++ Block.stream blocks := by
  induction blocks generalizing index position stream with
  | nil => simp [place, Appends, replay]
  | cons b blocks ih =>
    rw [place, List.forall_mem_cons] at hown
    obtain ⟨hfirst, hreplay⟩ := appends_own (p := ⟨index, position, b⟩) hown.1 hplace
    have hnext : position + b.extent = start + (stream ++ b.inserted).length := by
      rw [Block.extent_eq, List.length_append]
      omega
    obtain ⟨hrest, hrestReplay⟩ := ih hown.2 hnext
    rw [place, List.flatMap_cons]
    constructor
    · rw [Request.appends_append, hreplay]
      exact ⟨hfirst, hrest⟩
    · rw [Request.replay_append, hreplay, hrestReplay, Block.stream_cons, List.append_assoc]

theorem waits_listRequests {run : List PlacedBlock}
    (h : ∀ p ∈ run, start ≤ p.start ∧ p.stop ≤ start + stream.length) :
    Waits start stream (listRequests config run) := by
  intro r hr
  rcases mem_listRequests hr with
    ⟨first, hfirst, last, hlast, isOrdered, hne, rfl⟩ | ⟨p, hp, level, rfl⟩
  · have hlow := (h first hfirst).1
    have hhigh := (h last hlast).2
    have hstop := last.stop_eq
    refine ⟨rfl, ?_, ?_, ?_⟩ <;> simp only [Request.span] <;> omega
  · obtain ⟨hlow, hhigh⟩ := h p hp
    have hstart := p.start_le_textStop
    have hstop := p.stop_eq
    refine ⟨rfl, ?_, ?_, ?_⟩ <;> simp only [Request.span] <;> omega

/-- What waits for a block is made before or after its own requests, and inserts nothing. -/
theorem appends_first {p : PlacedBlock} {pending : List Request}
    (hown : p.requests config regions = .ok (own p)) (hplace : p.start = start + stream.length)
    (hpending : Waits start stream pending) :
    Appends start stream
        (if p.block.isListItem then own p ++ pending else pending ++ own p) ∧
      replay start stream (if p.block.isListItem then own p ++ pending else pending ++ own p) =
        stream ++ p.block.inserted := by
  obtain ⟨hfirst, hfirstReplay⟩ := appends_own hown hplace
  obtain ⟨hnow, hnowReplay⟩ := hpending.appends
  obtain ⟨hlater, hlaterReplay⟩ := (hpending.mono p.block.inserted).appends
  split
  · constructor
    · rw [Request.appends_append, hfirstReplay]
      exact ⟨hfirst, hlater⟩
    · rw [Request.replay_append, hfirstReplay, hlaterReplay]
  · constructor
    · rw [Request.appends_append, hnowReplay]
      exact ⟨hnow, hfirst⟩
    · rw [Request.replay_append, hnowReplay, hfirstReplay]

/--
Runs of blocks that are placed from the end of a stream on are added to it, whatever waits for their
first block.
-/
theorem appends_arrange {runs : List (List PlacedBlock)} {blocks : List Block} {index : Nat}
    {position : Int} {pending : List Request} (hruns : runs.flatten = place index position blocks)
    (hown : ∀ p ∈ place index position blocks, p.requests config regions = .ok (own p))
    (hplace : position = start + stream.length) (hpending : Waits start stream pending) :
    Appends start stream (arrange config own pending runs) := by
  induction runs generalizing blocks index position stream pending with
  | nil => exact hpending.appends.1
  | cons run runs ih =>
    cases run with
    | nil =>
      rw [arrange]
      exact ih hruns hown hplace hpending
    | cons first rest =>
      rw [List.flatten_cons] at hruns
      obtain ⟨before, after, rfl, hrun, hmore⟩ := exists_of_append_eq_place hruns
      rw [place_append] at hown
      have hownRun := fun p hp => hown p (List.mem_append_left _ hp)
      have hownMore := fun p hp => hown p (List.mem_append_right _ hp)
      cases before with
      | nil => exact absurd hrun (by simp [place])
      | cons b before =>
        obtain ⟨rfl, rfl⟩ := List.cons.inj hrun
        have hnext : position + b.extent = start + (stream ++ b.inserted).length := by
          rw [Block.extent_eq, List.length_append]
          omega
        obtain ⟨hrest, hrestReplay⟩ := appends_flatMap_own
          (fun p hp => hownRun p (List.mem_cons_of_mem _ hp)) hnext
        have hend : position + (Block.stream (b :: before)).length =
            start + (stream ++ b.inserted ++ Block.stream before).length := by
          rw [Block.stream_cons, List.length_append, List.length_append, List.length_append]
          omega
        have hclosing : Waits start (stream ++ b.inserted ++ Block.stream before)
            (listRequests config (⟨index, position, b⟩ :: place (index + 1)
              (position + b.extent) before)) := by
          refine waits_listRequests fun p hp => ?_
          have hmem : p ∈ place index position (b :: before) := hp
          obtain ⟨-, hlow, hhigh⟩ := bounds_of_mem_place hmem
          constructor
          · omega
          · omega
        have hhead := appends_first (p := ⟨index, position, b⟩) (hownRun _ List.mem_cons_self)
          hplace hpending
        rw [arrange, List.append_assoc, Request.appends_append, hhead.2, Request.appends_append,
          hrestReplay]
        exact ⟨hhead.1, hrest, ih hmore hownMore hend hclosing⟩

theorem insertions_own {p : PlacedBlock} {requests : List Request}
    (hown : p.requests config regions = .ok requests) :
    requests.filterMap Request.insertion? = [(p.start, p.block.inserted)] := by
  obtain ⟨paragraph, text, hparts⟩ := Block.exists_parts hown
  rw [Block.filterMap_parts hparts (fun _ _ _ => rfl) fun _ _ _ => rfl,
    Block.filterMap_tableRequests _ fun _ _ _ => rfl]
  rfl

/-- Only the blocks' own requests insert, one text for each block. -/
theorem insertions_arrange_runs {runs : List (List PlacedBlock)}
    (hown : ∀ p ∈ runs.flatten, p.requests config regions = .ok (own p)) :
    (arrange config own [] runs).filterMap Request.insertion? =
      runs.flatten.map fun p => (p.start, p.block.inserted) := by
  have hlist := filterMap_listRequests (f := Request.insertion?) config (fun _ _ _ => rfl)
    fun _ _ _ => rfl
  rw [filterMap_arrange hlist rfl, List.flatMap_congr fun p hp => insertions_own (hown p hp)]
  exact List.map_eq_flatMap.symm

theorem insertions_arrange {blocks : List Block} {index : Nat} {position : Int}
    (hown : ∀ p ∈ place index position blocks, p.requests config regions = .ok (own p)) :
    (arrange config own [] (listRuns (place index position blocks))).filterMap
        Request.insertion? =
      (place index position blocks).map fun p => (p.start, p.block.inserted) := by
  rw [← flatten_listRuns (place index position blocks)] at hown
  rw [insertions_arrange_runs hown, flatten_listRuns]

end PlacedBlock

open PlacedBlock (place)

namespace Generator

/--
Requests that only append: one insertion for each block, at the end of the stream that the earlier
ones make, and all else inside that stream.
-/
structure AppendOnly (start : Int) (blocks : List Block) (requests : List Request) (cursor : Int) :
    Prop where
  /-- There is one insertion for each block. -/
  count : (requests.filterMap Request.insertion?).length = blocks.length
  /-- The insertion of a block has its text, and stands behind all texts inserted before. -/
  insertion : ∀ k b, blocks[k]? = some b → (requests.filterMap Request.insertion?)[k]? =
    some (start + (Block.stream (blocks.take k)).length, b.text ++ ['\n'])
  /-- No insertion moves what is there already. -/
  at_end : ∀ before position text after, requests = before ++ .insertText position text :: after →
    position = start + (replay start [] before).length
  /-- The insertions rebuild the texts of all blocks. -/
  rebuilt : replay start [] requests = Block.stream blocks
  cursor_eq : cursor = start + (Block.stream blocks).length
  /-- All else addresses what was inserted before it. -/
  bounded : ∀ before r after, requests = before ++ r :: after → r.insertion? = none →
    start ≤ r.span.1 ∧ r.span.1 ≤ r.span.2 ∧ r.span.2 ≤ start + (replay start [] before).length
  /-- What a request addresses stays the same to the end. -/
  settled : ∀ before r after, requests = before ++ r :: after →
    r.selected start (replay start [] before) = r.selected start (replay start [] requests)

/-- A call that succeeds only appends. -/
theorem generate_append_only {blocks : List Block} {start : Int} {g g' : Generator}
    {requests : List Request} (h : generate blocks (.int start) g = (.ok requests, g')) :
    AppendOnly start blocks requests g'.cursor := by
  obtain ⟨own, hown, hrequests, hcursor⟩ := exists_arranged h
  have hinsertions : requests.filterMap Request.insertion? =
      (place 0 start blocks).map fun p => (p.start, p.block.inserted) := by
    rw [hrequests]
    exact PlacedBlock.insertions_arrange hown
  have happends : Appends start [] requests := by
    rw [hrequests]
    exact PlacedBlock.appends_arrange (PlacedBlock.flatten_listRuns _) hown (by simp)
      (by simp [Waits])
  have hsplit : ∀ before r after, requests = before ++ r :: after →
      r.Fits start (replay start [] before) ∧
        ∃ more, replay start [] requests = replay start [] before ++ more := by
    rintro before r after rfl
    have hparts := Request.appends_append.mp happends
    refine ⟨hparts.2.1, ((r :: after).filterMap Request.insertion?).flatMap Prod.snd, ?_⟩
    rw [Request.replay_append]
    exact Request.replay_of_appends hparts.2
  constructor
  · rw [hinsertions, List.length_map, PlacedBlock.length_place]
  · intro k b hb
    rw [hinsertions, List.getElem?_map, PlacedBlock.getElem?_place, hb]
    rfl
  · intro before position text after heq
    exact (hsplit before _ after heq).1
  · rw [Request.replay_of_appends happends, hinsertions, List.flatMap_map, List.nil_append]
    conv_rhs => rw [← PlacedBlock.map_block_place 0 start blocks]
    rw [Block.stream, List.flatMap_map]
  · exact hcursor
  · intro before r after heq hnone
    have hfits := (hsplit before r after heq).1
    unfold Request.Fits at hfits
    rw [hnone] at hfits
    exact hfits
  · intro before r after heq
    obtain ⟨hfits, more, hmore⟩ := hsplit before r after heq
    rw [hmore, Request.selected_of_fits hfits]

/-- A cell, a nested item and an item of the other kind, whose text ends in a line feed. -/
theorem generate_append_only_lists :
    let cell : Block := { text := ['a'], cell? := some { rowIndex := 0, columnIndex := 0 } }
    let item : Block := { text := ['b'], list? := some { ordered := false, nestingLevel := 1 } }
    let other : Block := { text := ['c', '\n'], list? := some { ordered := true } }
    let requests : List Request :=
      [.createTable 1 1 1, .insertText 1 ['a', '\n'], .setParagraphStyle 1 3 .normal,
        .insertText 3 ['b', '\n'], .setParagraphStyle 3 5 .normal,
        .insertText 5 ['c', '\n', '\n'], .setParagraphStyle 5 8 .normal,
        .setListBullet 3 4 false, .setParagraphStyle 3 5 (Config.levelIndent {} 1),
        .setListBullet 5 7 true]
    generate [cell, item, other] (.int 1) {} = (.ok requests, { cursor := 8 }) ∧
      AppendOnly 1 [cell, item, other] requests 8 := by
  intro cell item other requests
  have hgenerate : generate [cell, item, other] (.int 1) {} = (.ok requests, { cursor := 8 }) :=
    generate_of_run (by decide) (by decide +kernel)
  exact ⟨hgenerate, generate_append_only hgenerate⟩

end Generator

end MarkupCompiler
