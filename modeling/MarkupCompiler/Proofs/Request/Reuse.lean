import MarkupCompiler.Proofs.Request.Emission
import MarkupCompiler.Request.GeneratorState

/-!
# A generator can be used again

A call reads no field that it has not set itself, but for the configuration, which no step changes.
So it does not matter what earlier calls have left behind, not even where a fault has broken one off
with a list group still open. Each step does to the fields what the run of a generator does to an
emission.
-/

namespace MarkupCompiler

namespace GeneratorState

/-- A generator before its first call. -/
def fresh (config : Config) : GeneratorState := { config := config }

/-- What the fields say of the emission. -/
def emission (s : GeneratorState) : Emission := ⟨s.cursor, s.requests, s.group?⟩

def withEmission (s : GeneratorState) (e : Emission) : GeneratorState :=
  { s with cursor := e.cursor, requests := e.requests, group? := e.group? }

/-- What is left of a state between calls, if nothing else is ever read. -/
def toGenerator (s : GeneratorState) : Generator := ⟨s.config, s.cursor⟩

/-- The state with what a step emits, or the fault of the step and the cursor where it arose. -/
def outcome (s : GeneratorState) :
    Except GenerateFault Emission → Except (GenerateFault × Int) GeneratorState
  | .error fault => .error (fault, s.cursor)
  | .ok e => .ok (s.withEmission e)

end GeneratorState

namespace GeneratorStep

variable {α β : Type}

theorem runFrom_bind (x : GeneratorStep α) (f : α → GeneratorStep β) (s : GeneratorState) :
    (x >>= f).runFrom s =
      match x.runFrom s with
      | (.ok a, s') => (f a).runFrom s'
      | (.error e, s') => (.error e, s') := by
  have hstep : (x >>= f).runFrom s =
      (ExceptT.bindCont f (x.runFrom s).1 : StateM _ _) (x.runFrom s).2 := rfl
  rw [hstep]
  rcases x.runFrom s with ⟨_ | a, s'⟩
  · rfl
  · rfl

theorem runFrom_bind_ok {x : GeneratorStep α} {s s' : GeneratorState} {a : α}
    (h : x.runFrom s = (.ok a, s')) (f : α → GeneratorStep β) :
    (x >>= f).runFrom s = (f a).runFrom s' := by
  rw [runFrom_bind, h]

theorem runFrom_bind_error {x : GeneratorStep α} {s s' : GeneratorState} {fault : GenerateFault}
    (h : x.runFrom s = (.error fault, s')) (f : α → GeneratorStep β) :
    (x >>= f).runFrom s = (.error fault, s') := by
  rw [runFrom_bind, h]

theorem runFrom_get (s : GeneratorState) :
    (get : GeneratorStep GeneratorState).runFrom s = (.ok s, s) := rfl

theorem runFrom_modify (f : GeneratorState → GeneratorState) (s : GeneratorState) :
    (modify f : GeneratorStep Unit).runFrom s = (.ok (), f s) := rfl

theorem runFrom_emit (requests : List Request) (s : GeneratorState) :
    (emit requests).runFrom s = (.ok (), { s with requests := s.requests ++ requests }) := rfl

theorem runFrom_liftExcept (x : Except GenerateFault α) (s : GeneratorState) :
    (liftExcept x : GeneratorStep α).runFrom s = (x, s) := by
  cases x <;> rfl

theorem runFrom_emitTextStyle (start stop : Int) (style : TextStyle) (s : GeneratorState) :
    (emitTextStyle start stop style).runFrom s =
      (.ok (), { s with
        requests := s.requests ++
          if style.isEmpty then [] else [.setTextStyle start stop style] }) := by
  rw [emitTextStyle]
  split
  · rw [List.append_nil]
    rfl
  · exact runFrom_emit _ s

/--
A step ends in a state, or a fault breaks it off. Then the fault and the cursor are known, and the
configuration is as it was; nothing is said of the other fields.
-/
def Performs (step : GeneratorStep Unit) (s : GeneratorState) :
    Except (GenerateFault × Int) GeneratorState → Prop
  | .ok s' => step.runFrom s = (.ok (), s')
  | .error (fault, cursor) =>
    ∃ s', step.runFrom s = (.error fault, s') ∧ s'.toGenerator = ⟨s.config, cursor⟩

section Performs

variable {s s' : GeneratorState} {result : Except (GenerateFault × Int) GeneratorState}

theorem Performs.bind {step : GeneratorStep α} {next : α → GeneratorStep Unit} {a : α}
    (hstep : step.runFrom s = (.ok a, s')) (hconfig : s'.config = s.config)
    (hnext : Performs (next a) s' result) : Performs (step >>= next) s result := by
  cases result with
  | ok last =>
    show (step >>= next).runFrom s = _
    rw [runFrom_bind_ok hstep]
    exact hnext
  | error broken =>
    obtain ⟨last, hrun, hlast⟩ := hnext
    refine ⟨last, ?_, ?_⟩
    · rw [runFrom_bind_ok hstep, hrun]
    · rw [hlast, hconfig]

theorem Performs.bind_error {step : GeneratorStep Unit} {next : Unit → GeneratorStep Unit}
    {broken : GenerateFault × Int} (hstep : Performs step s (.error broken)) :
    Performs (step >>= next) s (.error broken) := by
  obtain ⟨last, hrun, hlast⟩ := hstep
  exact ⟨last, runFrom_bind_error hrun next, hlast⟩

theorem Performs.of_fault (next : α → GeneratorStep Unit) (fault : GenerateFault) :
    Performs ((liftExcept (.error fault) : GeneratorStep α) >>= next) s
      (.error (fault, s.cursor)) :=
  ⟨s, runFrom_bind_error (runFrom_liftExcept _ s) next, rfl⟩

end Performs

theorem performs_emitIndents (items : List InsertedItem) (s : GeneratorState) :
    Performs (emitIndents items) s
      (match items.mapM (InsertedItem.indent s.config) with
        | .error fault => .error (.style fault, s.cursor)
        | .ok requests => .ok { s with requests := s.requests ++ requests }) := by
  induction items generalizing s with
  | nil =>
    show Performs (pure ()) s (.ok { s with requests := s.requests ++ [] })
    rw [List.append_nil]
    rfl
  | cons item items ih =>
    rw [emitIndents, List.mapM_cons]
    refine Performs.bind (runFrom_get s) rfl ?_
    cases item.indent s.config with
    | error fault => exact Performs.of_fault _ _
    | ok request =>
      refine Performs.bind (runFrom_liftExcept _ s) rfl ?_
      refine Performs.bind (runFrom_emit _ s) rfl ?_
      have hrest := ih { s with requests := s.requests ++ [request] }
      cases hindents : items.mapM (InsertedItem.indent s.config) with
      | error fault =>
        rw [hindents] at hrest
        exact hrest
      | ok requests =>
        simp only [hindents, List.append_assoc, List.singleton_append] at hrest
        exact hrest

theorem performs_closeGroup (s : GeneratorState) :
    Performs closeGroup s (s.outcome (s.emission.closeGroup s.config)) := by
  obtain ⟨config, requests, cursor, group?, regions⟩ := s
  rw [closeGroup]
  refine Performs.bind (runFrom_get _) rfl ?_
  cases group? with
  | none => exact rfl
  | some g =>
    refine Performs.bind (runFrom_modify _ _) rfl ?_
    refine Performs.bind (runFrom_emit _ _) rfl ?_
    have hindents := performs_emitIndents g.nested
      ⟨config, requests ++ g.bullets, cursor, none, regions⟩
    simp only [GeneratorState.emission, Emission.closeGroup, ListGroup.requests]
    cases hrequests : g.nested.mapM (InsertedItem.indent config) with
    | error fault =>
      rw [hrequests] at hindents
      exact hindents
    | ok indents =>
      simp only [hrequests, List.append_assoc] at hindents
      exact hindents

theorem performs_addItem (isOrdered : Bool) (item : InsertedItem) (s : GeneratorState) :
    Performs (addItem isOrdered item) s
      (s.outcome (s.emission.addItem s.config isOrdered item)) := by
  obtain ⟨config, requests, cursor, group?, regions⟩ := s
  rw [addItem]
  refine Performs.bind (runFrom_get _) rfl ?_
  cases group? with
  | none => exact rfl
  | some g =>
    have hclose := performs_closeGroup ⟨config, requests, cursor, some g, regions⟩
    simp only [GeneratorState.emission, Emission.addItem] at hclose ⊢
    split
    · exact rfl
    · cases hclosed : Emission.closeGroup config ⟨cursor, requests, some g⟩ with
      | error fault =>
        rw [hclosed] at hclose
        exact Performs.bind_error hclose
      | ok e =>
        rw [hclosed] at hclose
        exact Performs.bind hclose rfl rfl

theorem performs_emitTextStyles (start : Int) (is : List StyleInterval) (s : GeneratorState) :
    Performs (emitTextStyles start is) s
      (match Block.textRequestsOf s.config start is with
        | .error fault => .error (.style fault, s.cursor)
        | .ok requests => .ok { s with requests := s.requests ++ requests }) := by
  induction is generalizing s with
  | nil =>
    show Performs (pure ()) s (.ok { s with requests := s.requests ++ [] })
    rw [List.append_nil]
    rfl
  | cons i is ih =>
    rw [emitTextStyles, Block.textRequestsOf]
    refine Performs.bind (runFrom_get s) rfl ?_
    cases hstyle : s.config.textStyleFor i.style with
    | error fault => exact Performs.of_fault _ _
    | ok style =>
      refine Performs.bind (runFrom_liftExcept _ s) rfl ?_
      refine Performs.bind (runFrom_emitTextStyle _ _ style s) rfl ?_
      have hrest := ih { s with
        requests := s.requests ++
          if style.isEmpty then [] else [.setTextStyle (start + i.start) (start + i.stop) style] }
      cases hrequests : Block.textRequestsOf s.config start is with
      | error fault => simpa only [hrequests, Except.map] using hrest
      | ok requests =>
        cases hempty : style.isEmpty with
        | true =>
          simpa only [hrequests, hempty, Except.map, if_true, List.append_nil] using hrest
        | false =>
          simpa only [hrequests, hempty, Except.map, Bool.false_eq_true, if_false,
            List.append_assoc, List.singleton_append] using hrest

theorem performs_closeGroupBefore (b : Block) (s : GeneratorState) :
    Performs (closeGroupBefore b) s (s.outcome (s.emission.closeGroupBefore s.config b)) := by
  rw [closeGroupBefore, Emission.closeGroupBefore]
  split
  · exact rfl
  · exact performs_closeGroup s

theorem performs_addMembership (b : Block) (start : Int) (s : GeneratorState) :
    Performs (addMembership b start) s
      (s.outcome (s.emission.addMembership s.config b start)) := by
  unfold addMembership Emission.addMembership
  cases b.list? with
  | none => exact rfl
  | some list => exact performs_addItem _ _ s

theorem performs_record (shown : List Int) (s : GeneratorState) :
    Performs (record shown) s
      (match recorded shown with
        | .error fault => .error (fault, s.cursor)
        | .ok () => .ok s) := by
  cases h : recorded shown with
  | error fault =>
    rw [record, h]
    exact ⟨s, runFrom_liftExcept _ s, rfl⟩
  | ok u =>
    rw [record, h]
    exact runFrom_liftExcept _ s

/-- The steps that emit what a block holds. -/
def emitOwn (config : Config) (region? : Option TableRegion) (b : Block) (start : Int) :
    GeneratorStep Unit := do
  emit (Block.tableRequests start region?)
  emit [.insertText start (b.text ++ Block.separator)]
  let paragraph ← ofStyle (b.paragraphRequests config start)
  emit paragraph
  record b.skippedEnds
  emitTextStyles start (StyleInterval.coalesce (StyleInterval.clampAll b.text.length b.intervals))

/-- The steps that follow the requests of a block. -/
def moveBehind (b : Block) (start : Int) : GeneratorStep Unit := do
  addMembership b start
  modify fun s => { s with cursor := start + b.extent }
  record [start, start + b.extent]

theorem addBlock_eq (position : Nat) (b : Block) :
    addBlock position b =
      (do
        closeGroupBefore b
        let s ← get
        emitOwn s.config (TableRegion.startingAt? position s.regions) b s.cursor
        moveBehind b s.cursor) := by
  simp only [addBlock, emitOwn, moveBehind, bind_assoc]

theorem performs_emitOwn (region? : Option TableRegion) (b : Block) (s : GeneratorState) :
    Performs (emitOwn s.config region? b s.cursor) s
      (match b.requestsAt s.config region? s.cursor with
        | .error fault => .error (fault, s.cursor)
        | .ok requests => .ok { s with requests := s.requests ++ requests }) := by
  rw [emitOwn, Block.requestsAt]
  refine Performs.bind (runFrom_emit _ _) rfl ?_
  refine Performs.bind (runFrom_emit _ _) rfl ?_
  cases b.paragraphRequests s.config s.cursor with
  | error fault => exact Performs.of_fault _ _
  | ok paragraph =>
    refine Performs.bind (runFrom_liftExcept _ _) rfl ?_
    refine Performs.bind (runFrom_emit _ _) rfl ?_
    have htext := performs_emitTextStyles s.cursor
      (StyleInterval.coalesce (StyleInterval.clampAll b.text.length b.intervals))
      { s with
        requests := s.requests ++ Block.tableRequests s.cursor region? ++
          [.insertText s.cursor (b.text ++ Block.separator)] ++ paragraph }
    cases hskipped : recorded b.skippedEnds with
    | error fault =>
      rw [record, hskipped]
      exact Performs.of_fault _ _
    | ok u =>
      rw [record, hskipped, Block.textRequests]
      refine Performs.bind (runFrom_liftExcept _ _) rfl ?_
      cases hrequests : Block.textRequestsOf s.config s.cursor
          (StyleInterval.coalesce (StyleInterval.clampAll b.text.length b.intervals)) with
      | error fault =>
        rw [hrequests] at htext
        exact htext
      | ok text =>
        simp only [hrequests, List.append_assoc] at htext
        simpa only [bind, Except.bind, Except.mapError, List.append_assoc] using htext

theorem performs_moveBehind (b : Block) (start : Int) (s : GeneratorState) :
    Performs (moveBehind b start) s
      (match s.emission.addMembership s.config b start with
        | .error fault => .error (fault, s.cursor)
        | .ok after =>
          match recorded [start, start + b.extent] with
          | .error fault => .error (fault, start + b.extent)
          | .ok () => .ok (s.withEmission { after with cursor := start + b.extent })) := by
  have hmember := performs_addMembership b start s
  cases hadded : s.emission.addMembership s.config b start with
  | error fault =>
    rw [hadded] at hmember
    exact Performs.bind_error hmember
  | ok after =>
    rw [hadded] at hmember
    refine Performs.bind hmember rfl ?_
    refine Performs.bind (runFrom_modify _ _) rfl ?_
    have hrecord := performs_record [start, start + b.extent]
      (s.withEmission { after with cursor := start + b.extent })
    cases hshown : recorded [start, start + b.extent] with
    | error fault =>
      rw [hshown] at hrecord
      exact hrecord
    | ok u =>
      rw [hshown] at hrecord
      exact hrecord

theorem performs_addBlock (position : Nat) (b : Block) (s : GeneratorState) :
    Performs (addBlock position b) s
      ((s.emission.addBlock s.config (TableRegion.startingAt? position s.regions) b).map
        s.withEmission) := by
  have hbefore := performs_closeGroupBefore b s
  have hstart : s.emission.cursor = s.cursor := rfl
  rw [addBlock_eq, Emission.addBlock, Emission.insertBlock, hstart]
  cases hclosed : s.emission.closeGroupBefore s.config b with
  | error fault =>
    rw [hclosed] at hbefore
    exact Performs.bind_error hbefore
  | ok before =>
    obtain ⟨cursor, requests, group?⟩ := before
    obtain rfl : cursor = s.cursor := Emission.cursor_of_closeGroupBefore hclosed
    rw [hclosed] at hbefore
    refine Performs.bind hbefore rfl ?_
    refine Performs.bind (runFrom_get _) rfl ?_
    have hown : Performs _ _
        (match b.requestsAt s.config (TableRegion.startingAt? position s.regions) s.cursor with
          | .error fault => .error (fault, s.cursor)
          | .ok own => .ok (s.withEmission ⟨s.cursor, requests ++ own, group?⟩)) :=
      performs_emitOwn (TableRegion.startingAt? position s.regions) b
        (s.withEmission ⟨s.cursor, requests, group?⟩)
    cases hrequests : b.requestsAt s.config (TableRegion.startingAt? position s.regions)
        s.cursor with
    | error fault =>
      rw [hrequests] at hown
      exact Performs.bind_error hown
    | ok own =>
      rw [hrequests] at hown
      refine Performs.bind hown rfl ?_
      have hbehind := performs_moveBehind b s.cursor
        (s.withEmission ⟨s.cursor, requests ++ own, group?⟩)
      have hconfig : (s.withEmission ⟨s.cursor, requests ++ own, group?⟩).config = s.config := rfl
      have hemit : Emission.emit own ⟨s.cursor, requests, group?⟩ =
          (s.withEmission ⟨s.cursor, requests ++ own, group?⟩).emission := rfl
      rw [hconfig] at hbehind
      simp only [bind, Except.bind, hemit]
      cases hadded : Emission.addMembership s.config b s.cursor
          (s.withEmission ⟨s.cursor, requests ++ own, group?⟩).emission with
      | error fault =>
        rw [hadded] at hbehind
        exact hbehind
      | ok after =>
        rw [hadded] at hbehind
        dsimp only at hbehind ⊢
        cases hshown : recorded [s.cursor, s.cursor + b.extent] with
        | error fault =>
          rw [hshown] at hbehind
          exact hbehind
        | ok u =>
          rw [hshown] at hbehind
          exact hbehind

theorem performs_addBlocks (position : Nat) (blocks : List Block) (s : GeneratorState) :
    Performs (addBlocks position blocks) s
      ((s.emission.addBlocks s.config s.regions position blocks).map s.withEmission) := by
  induction blocks generalizing position s with
  | nil => exact rfl
  | cons b blocks ih =>
    have hblock := performs_addBlock position b s
    rw [addBlocks, Emission.addBlocks]
    cases hadd : s.emission.addBlock s.config (TableRegion.startingAt? position s.regions) b with
    | error broken =>
      rw [hadd] at hblock
      exact Performs.bind_error hblock
    | ok e =>
      rw [hadd] at hblock
      exact Performs.bind hblock rfl (ih (position + 1) (s.withEmission e))

/-- What a call does once all blocks are added. -/
def finish (start : Int) : GeneratorStep (List Request) := do
  closeGroup
  let s ← get
  record [start, s.cursor]
  pure s.requests

/-- What a call does once its fields are set. -/
def body (blocks : List Block) (start : Int) : GeneratorStep (List Request) := do
  addBlocks 0 blocks
  finish start

theorem runFrom_finish (start : Int) (s : GeneratorState) :
    (((finish start).runFrom s).1, ((finish start).runFrom s).2.toGenerator) =
      (s.emission.finish s.config start, s.toGenerator) := by
  have hclose := performs_closeGroup s
  rw [finish, Emission.finish]
  cases hclosed : s.emission.closeGroup s.config with
  | error fault =>
    rw [hclosed] at hclose
    obtain ⟨last, hrun, hlast⟩ := hclose
    rw [runFrom_bind_error hrun, hlast]
    rfl
  | ok e =>
    rw [hclosed] at hclose
    have hcursor : e.cursor = s.cursor := by
      obtain ⟨-, rfl⟩ := Emission.closeGroup_eq_ok_iff.mp hclosed
      rfl
    have hgenerator : (s.withEmission e).toGenerator = s.toGenerator :=
      congrArg (Generator.mk s.config) hcursor
    have hshown : (s.withEmission e).cursor = e.cursor := rfl
    rw [runFrom_bind_ok hclose, runFrom_bind_ok (runFrom_get _), runFrom_bind, record,
      runFrom_liftExcept, hshown]
    cases hrecorded : recorded [start, e.cursor] with
    | error fault => simp only [bind, Except.bind, hrecorded, hgenerator]
    | ok u =>
      simp only [bind, Except.bind, hrecorded, ← hgenerator]
      rfl

/-- The state in which a call begins with its blocks: the configuration is all that is left over. -/
def begun (config : Config) (blocks : List Block) (start : Int) : GeneratorState where
  config := config
  cursor := start
  regions := TableRegion.measure blocks

theorem runFrom_reset (blocks : List Block) (start : Int) (s : GeneratorState) :
    (reset blocks start).runFrom s =
      match recorded ((TableRegion.measure blocks).map TableRegion.columns) with
      | .error fault => (.error fault, { begun s.config blocks start with regions := s.regions })
      | .ok () => (.ok (), begun s.config blocks start) := by
  rw [reset, runFrom_bind_ok (runFrom_modify _ s), runFrom_bind, record, runFrom_liftExcept]
  cases recorded ((TableRegion.measure blocks).map TableRegion.columns) with
  | error fault => rfl
  | ok u => rfl

/-- A call whose fields are set gives what a run of a generator gives behind the columns. -/
theorem runFrom_body (config : Config) (blocks : List Block) (start : Int) :
    (((body blocks start).runFrom (begun config blocks start)).1,
        ((body blocks start).runFrom (begun config blocks start)).2.toGenerator) =
      match Emission.addBlocks config (TableRegion.measure blocks) 0 blocks { cursor := start } with
      | .error (fault, cursor) => (.error fault, ⟨config, cursor⟩)
      | .ok e => (e.finish config start, ⟨config, e.cursor⟩) := by
  have hblocks : Performs (addBlocks 0 blocks) (begun config blocks start)
      ((Emission.addBlocks config (TableRegion.measure blocks) 0 blocks { cursor := start }).map
        (begun config blocks start).withEmission) :=
    performs_addBlocks 0 blocks (begun config blocks start)
  rw [body]
  cases hadd : Emission.addBlocks config (TableRegion.measure blocks) 0 blocks
      { cursor := start } with
  | error broken =>
    rw [hadd] at hblocks
    obtain ⟨last, hrun, hlast⟩ := hblocks
    rw [runFrom_bind_error hrun, hlast]
    rfl
  | ok e =>
    rw [hadd] at hblocks
    rw [runFrom_bind_ok hblocks, runFrom_finish]
    rfl

end GeneratorStep

namespace GeneratorState

def after (s : GeneratorState) (calls : List GeneratorCall) : GeneratorState :=
  calls.foldl (fun s call => (call.apply s).2) s

end GeneratorState

namespace GeneratorCall

open GeneratorStep

/-- Whether the start index is a positive integer; true and false are no integers. -/
def isAccepted (call : GeneratorCall) : Bool :=
  match call.startIndex with
  | .int start => 1 ≤ start
  | _ => false

theorem isAccepted_iff (call : GeneratorCall) :
    call.isAccepted = true ↔ ∃ start, Input.startIndex call.startIndex = .ok start := by
  unfold isAccepted Input.startIndex
  cases call.startIndex with
  | int start =>
    by_cases hlow : start < 1
    · have : ¬1 ≤ start := by omega
      simp [hlow, this]
    · have : 1 ≤ start := by omega
      simp [hlow, this]
  | _ => simp

/-- Whether the columns of all table regions can be put on record. -/
def columnsRecorded (call : GeneratorCall) : Bool :=
  (recorded ((TableRegion.measure call.blocks).map TableRegion.columns)).isOk

theorem apply_of_ok {call : GeneratorCall} {start : Int}
    (h : Input.startIndex call.startIndex = .ok start) (s : GeneratorState) :
    call.apply s =
      match recorded ((TableRegion.measure call.blocks).map TableRegion.columns) with
      | .error fault =>
        (.error fault, { begun s.config call.blocks start with regions := s.regions })
      | .ok () => (body call.blocks start).runFrom (begun s.config call.blocks start) := by
  have hstart : (liftExcept ((Except.ok start : Except InputFault Int).mapError fun fault =>
      if call.startIndex.isWritable then GenerateFault.input fault else .unwritable) :
        GeneratorStep Int).runFrom s = (.ok start, s) := rfl
  rw [apply, GeneratorStep.generate, h, runFrom_bind_ok hstart, runFrom_bind, runFrom_reset]
  cases recorded ((TableRegion.measure call.blocks).map TableRegion.columns) with
  | error fault => rfl
  | ok u => rfl

theorem apply_of_error {call : GeneratorCall} {fault : InputFault}
    (h : Input.startIndex call.startIndex = .error fault) (s : GeneratorState) :
    call.apply s =
      (.error (if call.startIndex.isWritable then .input fault else .unwritable), s) := by
  rw [apply, GeneratorStep.generate, h]
  exact runFrom_bind_error (runFrom_liftExcept _ s) _

/-- A generator that keeps all its fields does what one does that keeps the cursor alone. -/
theorem apply_toGenerator (s : GeneratorState) (call : GeneratorCall) :
    ((call.apply s).1, (call.apply s).2.toGenerator) =
      s.toGenerator.generate call.blocks call.startIndex := by
  unfold Generator.generate
  cases hstart : Input.startIndex call.startIndex with
  | error fault => rw [apply_of_error hstart]
  | ok start =>
    have hbody := runFrom_body s.config call.blocks start
    rw [apply_of_ok hstart]
    dsimp only [Generator.run, GeneratorState.toGenerator]
    cases recorded ((TableRegion.measure call.blocks).map TableRegion.columns) with
    | error fault => rfl
    | ok u =>
      refine hbody.trans ?_
      cases Emission.addBlocks s.config (TableRegion.measure call.blocks) 0 call.blocks
          { cursor := start } with
      | error broken => rfl
      | ok e => rfl

theorem config_apply (s : GeneratorState) (call : GeneratorCall) :
    (call.apply s).2.config = s.config := by
  refine (congrArg (fun r => r.2.config) (apply_toGenerator s call)).trans ?_
  unfold Generator.generate
  split
  · rfl
  · rfl

theorem config_after (s : GeneratorState) (calls : List GeneratorCall) :
    (s.after calls).config = s.config := by
  induction calls generalizing s with
  | nil => rfl
  | cons call calls ih => exact (ih _).trans (config_apply s call)

/--
Whatever calls came before, a call gives what it gives on a generator that was never called, and
leaves all fields as it does there, but for the regions if their columns cannot be put on record; a
call whose start index is refused leaves the fields as they are.
-/
theorem apply_after (config : Config) (earlier : List GeneratorCall) (call : GeneratorCall) :
    let s := (GeneratorState.fresh config).after earlier
    let first := call.apply (.fresh config)
    call.apply s =
      (first.1,
        if call.isAccepted then
          { first.2 with regions := if call.columnsRecorded then first.2.regions else s.regions }
        else s) := by
  intro s first
  have hconfig : s.config = config := config_after _ earlier
  cases hstart : Input.startIndex call.startIndex with
  | ok start =>
    simp only [first, if_pos (call.isAccepted_iff.mpr ⟨start, hstart⟩), apply_of_ok hstart, hconfig,
      columnsRecorded]
    cases recorded ((TableRegion.measure call.blocks).map TableRegion.columns) with
    | error fault => rfl
    | ok u => rfl
  | error fault =>
    have hrefused : ¬call.isAccepted = true := by
      intro h
      obtain ⟨start, hstart'⟩ := call.isAccepted_iff.mp h
      exact absurd (hstart.symm.trans hstart') (by simp)
    simp only [first, if_neg hrefused, apply_of_error hstart]

-- A list item in a heading style without a level breaks a call off and leaves the group open.
example :
    let item : Block := { text := ['a'], list? := some { ordered := false } }
    let broken : Block := { item with paragraphStyle := { namedStyle := some "HEADING_X" } }
    let s := (GeneratorState.fresh {}).after [{ blocks := [item, broken] }]
    (s.cursor, s.requests.length, s.group?.isSome) = (3, 3, true) := by decide +kernel

end GeneratorCall

end MarkupCompiler
