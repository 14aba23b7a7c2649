import MarkupCompiler.Block.Extract
import MarkupCompiler.Proofs.Request.Success

/-!
# Requests further on in a document

The start index decides where requests apply. Each of the five kinds takes its positions from another
source: the cursor, the ends of a list group, the items of the group, the intervals of a block. All of
these move together, so that a run from a later index gives the same requests, all moved by the same
distance, or the same fault, as long as the position where it ends can be written. In the objects that
the document service takes, the integers under the names of positions are what moves.
-/

namespace MarkupCompiler

/-! ## What moves -/

/-- The request, applied further on by `k` positions. -/
def Request.moved (k : Int) : Request → Request
  | .insertText position text => .insertText (position + k) text
  | .setParagraphStyle start stop style => .setParagraphStyle (start + k) (stop + k) style
  | .setTextStyle start stop style => .setTextStyle (start + k) (stop + k) style
  | .setListBullet start stop isOrdered => .setListBullet (start + k) (stop + k) isOrdered
  | .createTable position rows columns => .createTable (position + k) rows columns

namespace Json

/-- The names of the members that hold positions in a document. -/
def positionNames : List String := ["index", "startIndex", "endIndex"]

def increased (k : Int) : Json → Json
  | .int n => .int (n + k)
  | value => value

mutual

/-- The value with all positions in it increased by `k`. -/
def moved (k : Int) : Json → Json
  | .arr items => .arr (movedItems k items)
  | .obj members => .obj (movedMembers k members)
  | value => value

/-- The items with all positions in them increased by `k`. -/
def movedItems (k : Int) : List Json → List Json
  | [] => []
  | item :: items => moved k item :: movedItems k items

/-- The members with all positions among them and in them increased by `k`. -/
def movedMembers (k : Int) : List (String × Json) → List (String × Json)
  | [] => []
  | (name, value) :: members =>
    (name, if name ∈ positionNames then value.increased k else moved k value) ::
      movedMembers k members

end

theorem movedItems_eq_map (k : Int) (items : List Json) :
    movedItems k items = items.map (moved k) := by
  induction items with
  | nil => rfl
  | cons item items ih => rw [movedItems, ih, List.map_cons]

/-- A value without positions. -/
def Placeless (value : Json) : Prop := ∀ k, value.moved k = value

theorem placeless_of_mem_map {α : Type} {f : α → Json} (h : ∀ x, (f x).Placeless) (x? : Option α) :
    ∀ value ∈ x?.map f, Placeless value := by
  rintro value hvalue
  obtain ⟨x, -, rfl⟩ := Option.map_eq_some_iff.mp hvalue
  exact h x

/-- An object is without positions if its members neither are positions nor hold any. -/
theorem placeless_obj {slots : List (String × Option Json)}
    (h : ∀ slot ∈ slots, slot.1 ∉ positionNames ∧ ∀ value ∈ slot.2, Placeless value) :
    Placeless (.obj (presentMembers slots)) := by
  intro k
  rw [moved]
  congr 1
  induction slots with
  | nil => rfl
  | cons slot slots ih =>
    obtain ⟨name, value?⟩ := slot
    obtain ⟨⟨hname, hvalue⟩, hrest⟩ := List.forall_mem_cons.mp h
    cases value? with
    | none => exact ih hrest
    | some value =>
      show (name, if name ∈ positionNames then value.increased k else moved k value) ::
        movedMembers k (presentMembers slots) = (name, value) :: presentMembers slots
      rw [if_neg hname, hvalue value rfl, ih hrest]

end Json

open Json (Placeless placeless_of_mem_map placeless_obj)

theorem placeless_pointsJson (x : Float) : (pointsJson x).Placeless := by
  intro k
  simp [pointsJson, Json.moved, Json.movedMembers, Json.positionNames]

theorem Color.placeless_toJson (c : Color) : c.toJson.Placeless := by
  intro k
  simp [toJson, Json.moved, Json.movedMembers, Json.positionNames]

theorem TextStyle.placeless_toJson (s : TextStyle) : s.toJson.Placeless := by
  have hbool : ∀ x? : Option Bool, ∀ value ∈ x?.map Json.bool, Placeless value :=
    placeless_of_mem_map fun _ _ => rfl
  have hlink : ∀ url, Placeless (.obj [("url", .str url)]) := by
    intro url k
    simp [Json.moved, Json.movedMembers, Json.positionNames]
  have hfamily : ∀ family,
      Placeless (.obj [("fontFamily", .str family), ("weight", .int 400)]) := by
    intro family k
    simp [Json.moved, Json.movedMembers, Json.positionNames]
  have hcolor := placeless_of_mem_map Color.placeless_toJson
  apply placeless_obj
  simp only [List.forall_mem_cons, List.not_mem_nil, false_implies, implies_true, and_true]
  exact ⟨⟨by decide, hbool _⟩, ⟨by decide, hbool _⟩, ⟨by decide, hbool _⟩, ⟨by decide, hbool _⟩,
    ⟨by decide, placeless_of_mem_map hlink _⟩, ⟨by decide, hcolor _⟩, ⟨by decide, hcolor _⟩,
    ⟨by decide, placeless_of_mem_map hfamily _⟩,
    ⟨by decide, placeless_of_mem_map placeless_pointsJson _⟩⟩

theorem ParagraphStyle.placeless_toJson (s : ParagraphStyle) : s.toJson.Placeless := by
  have hname : ∀ x? : Option String, ∀ value ∈ x?.map Json.str, Placeless value :=
    placeless_of_mem_map fun _ _ => rfl
  have hpoints := placeless_of_mem_map placeless_pointsJson
  apply placeless_obj
  simp only [List.forall_mem_cons, List.not_mem_nil, false_implies, implies_true, and_true]
  exact ⟨⟨by decide, hname _⟩, ⟨by decide, hname _⟩, ⟨by decide, hpoints _⟩,
    ⟨by decide, hpoints _⟩⟩

namespace Request

/-- A request that is moved is written with its positions moved, and nothing else changed. -/
theorem toJson_moved (k : Int) (r : Request) : (r.moved k).toJson = r.toJson.moved k := by
  cases r with
  | insertText position text =>
    simp [moved, toJson, RequestShape.insertText, RequestShape.location, Json.moved,
      Json.movedMembers, Json.positionNames, Json.increased]
  | setParagraphStyle start stop style =>
    have hstyle := style.placeless_toJson k
    simp [moved, toJson, RequestShape.updateParagraphStyle, RequestShape.range, Json.moved,
      Json.movedMembers, Json.positionNames, Json.increased, hstyle]
  | setTextStyle start stop style =>
    have hstyle := style.placeless_toJson k
    simp [moved, toJson, RequestShape.updateTextStyle, RequestShape.range, Json.moved,
      Json.movedMembers, Json.positionNames, Json.increased, hstyle]
  | setListBullet start stop isOrdered =>
    simp [moved, toJson, RequestShape.bulletList, RequestShape.range, Json.moved,
      Json.movedMembers, Json.positionNames, Json.increased]
  | createTable position rows columns =>
    simp [moved, toJson, RequestShape.insertTable, RequestShape.location, Json.moved,
      Json.movedMembers, Json.positionNames, Json.increased]

theorem listToJson_moved (k : Int) (requests : List Request) :
    listToJson (requests.map (moved k)) = (listToJson requests).moved k := by
  unfold listToJson
  rw [Json.moved, Json.movedItems_eq_map, List.map_map, List.map_map]
  exact congrArg Json.arr (List.map_congr_left fun r _ => toJson_moved k r)

end Request

/-! ## Requests of one block -/

/-- A list item that was inserted further on. -/
def InsertedItem.moved (k : Int) (item : InsertedItem) : InsertedItem :=
  { item with start := item.start + k }

namespace ListGroup

/-- A group of list items that were inserted further on. -/
def moved (k : Int) (g : ListGroup) : ListGroup :=
  ⟨g.start + k, g.stop + k, g.isOrdered, g.items.map (InsertedItem.moved k)⟩

theorem single_moved (k : Int) (isOrdered : Bool) (item : InsertedItem) :
    single isOrdered (item.moved k) = (single isOrdered item).moved k := by
  simp only [single, moved, InsertedItem.moved, List.map_singleton, mk.injEq, and_true, true_and]
  omega

theorem add_moved (k : Int) (item : InsertedItem) (g : ListGroup) :
    (g.moved k).add (item.moved k) = (g.add item).moved k := by
  simp only [add, moved, InsertedItem.moved, List.map_append, List.map_singleton, mk.injEq,
    and_true, true_and]
  omega

theorem bullets_moved (k : Int) (g : ListGroup) :
    (g.moved k).bullets = g.bullets.map (Request.moved k) := by
  have hempty : (g.moved k).stop > (g.moved k).start ↔ g.stop > g.start := by
    show g.stop + k > g.start + k ↔ g.stop > g.start
    omega
  unfold bullets
  by_cases h : g.stop > g.start
  · rw [if_pos h, if_pos (hempty.mpr h)]
    rfl
  · rw [if_neg h, if_neg (mt hempty.mp h)]
    rfl

theorem indent_moved (config : Config) (k : Int) (item : InsertedItem) :
    (item.moved k).indent config = (item.indent config).map (Request.moved k) := by
  have hstop : item.start + k + item.length + 1 = item.start + item.length + 1 + k := by omega
  unfold InsertedItem.indent
  show (config.listItemIndent item.nestingLevel).map (fun style =>
    Request.setParagraphStyle (item.start + k) (item.start + k + item.length + 1) style) = _
  rw [hstop]
  cases config.listItemIndent item.nestingLevel <;> rfl

theorem mapM_indent_moved (config : Config) (k : Int) (items : List InsertedItem) :
    (items.map (InsertedItem.moved k)).mapM (InsertedItem.indent config) =
      (items.mapM (InsertedItem.indent config)).map (List.map (Request.moved k)) := by
  induction items with
  | nil => rfl
  | cons item items ih =>
    rw [List.map_cons, List.mapM_cons, List.mapM_cons, indent_moved, ih]
    cases item.indent config with
    | error fault => rfl
    | ok request => cases items.mapM (InsertedItem.indent config) <;> rfl

theorem requests_moved (config : Config) (k : Int) (g : ListGroup) :
    (g.moved k).requests config = (g.requests config).map (List.map (Request.moved k)) := by
  have hnested : (g.moved k).nested = g.nested.map (InsertedItem.moved k) := by
    unfold nested moved
    rw [List.filter_map]
    rfl
  unfold requests
  rw [hnested, mapM_indent_moved, bullets_moved]
  cases g.nested.mapM (InsertedItem.indent config) with
  | error fault => rfl
  | ok indents => exact congrArg Except.ok List.map_append.symm

end ListGroup

namespace Block

theorem paragraphRequests_moved (config : Config) (start k : Int) (b : Block) :
    b.paragraphRequests config (start + k) =
      (b.paragraphRequests config start).map (List.map (Request.moved k)) := by
  unfold paragraphRequests
  cases config.paragraphStyleFor b.paragraphStyle with
  | error fault => rfl
  | ok style =>
    have hstop : start + k + b.extent = start + b.extent + k := by omega
    simp only [Except.map]
    split
    · rfl
    · rw [hstop]
      rfl

theorem textRequestsOf_moved (config : Config) (start k : Int) (is : List StyleInterval) :
    textRequestsOf config (start + k) is =
      (textRequestsOf config start is).map (List.map (Request.moved k)) := by
  induction is with
  | nil => rfl
  | cons i is ih =>
    rw [textRequestsOf, textRequestsOf, ih]
    cases config.textStyleFor i.style with
    | error fault => rfl
    | ok style =>
      cases textRequestsOf config start is with
      | error fault => rfl
      | ok rest =>
        have hstart : start + k + i.start = start + i.start + k := by omega
        have hstop : start + k + i.stop = start + i.stop + k := by omega
        simp only [Except.map]
        split
        · rfl
        · rw [hstart, hstop]
          rfl

theorem requestsAt_moved (config : Config) (region? : Option TableRegion) (start k : Int)
    (b : Block) :
    b.requestsAt config region? (start + k) =
      (b.requestsAt config region? start).map (List.map (Request.moved k)) := by
  have htable : tableRequests (start + k) region? =
      (tableRequests start region?).map (Request.moved k) := by
    cases region? <;> rfl
  have htext := textRequestsOf_moved config start k
    (StyleInterval.coalesce (StyleInterval.clampAll b.text.length b.intervals))
  unfold requestsAt textRequests
  rw [paragraphRequests_moved, htext, htable]
  cases b.paragraphRequests config start with
  | error fault => rfl
  | ok paragraph =>
    cases hskipped : recorded b.skippedEnds with
    | error fault => rfl
    | ok u =>
      cases textRequestsOf config start
          (StyleInterval.coalesce (StyleInterval.clampAll b.text.length b.intervals)) with
      | error fault => rfl
      | ok text => simp [Except.map, Except.mapError, bind, Except.bind, Request.moved]

end Block

/-! ## Emission further on -/

namespace Emission

/-- The emission when everything was inserted further on. -/
def moved (k : Int) (e : Emission) : Emission where
  cursor := e.cursor + k
  requests := e.requests.map (Request.moved k)
  group? := e.group?.map (ListGroup.moved k)

theorem closeGroup_moved (config : Config) (k : Int) (e : Emission) :
    (e.moved k).closeGroup config = (e.closeGroup config).map (moved k) := by
  obtain ⟨cursor, requests, group?⟩ := e
  cases group? with
  | none => rfl
  | some g =>
    simp only [closeGroup, moved, Option.map_some, ListGroup.requests_moved]
    cases g.requests config with
    | error fault => rfl
    | ok rs => simp only [Except.map, emit, List.map_append, moved, Option.map_none]

theorem addItem_moved (config : Config) (k : Int) (isOrdered : Bool) (item : InsertedItem)
    (e : Emission) :
    (e.moved k).addItem config isOrdered (item.moved k) =
      (e.addItem config isOrdered item).map (moved k) := by
  obtain ⟨cursor, requests, group?⟩ := e
  cases group? with
  | none =>
    show Except.ok (Emission.mk _ _ (some (.single isOrdered (item.moved k)))) = _
    rw [ListGroup.single_moved]
    rfl
  | some g =>
    have hclose := closeGroup_moved config k ⟨cursor, requests, some g⟩
    show (if g.isOrdered == isOrdered then
        .ok { moved k ⟨cursor, requests, some g⟩ with group? := some ((g.moved k).add (item.moved k)) }
      else
        ((moved k ⟨cursor, requests, some g⟩).closeGroup config).map fun e =>
          { e with group? := some (.single isOrdered (item.moved k)) }) = _
    rw [hclose, ListGroup.add_moved, ListGroup.single_moved, addItem]
    simp only
    split
    · rfl
    · cases closeGroup config ⟨cursor, requests, some g⟩ <;> rfl

theorem addMembership_moved (config : Config) (k start : Int) (b : Block) (e : Emission) :
    (e.moved k).addMembership config b (start + k) =
      (e.addMembership config b start).map (moved k) := by
  unfold addMembership
  cases b.list? with
  | none => rfl
  | some list => exact addItem_moved config k list.ordered ⟨start, b.text.length, list.nestingLevel⟩ e

theorem closeGroupBefore_moved (config : Config) (k : Int) (b : Block) (e : Emission) :
    (e.moved k).closeGroupBefore config b = (e.closeGroupBefore config b).map (moved k) := by
  unfold closeGroupBefore
  split
  · rfl
  · exact closeGroup_moved config k e

/-- A block emits the same further on. -/
theorem insertBlock_moved (config : Config) (region? : Option TableRegion) (k : Int) (b : Block)
    (e : Emission) :
    (e.moved k).insertBlock config region? b = (e.insertBlock config region? b).map (moved k) := by
  have hcursor : (e.moved k).cursor = e.cursor + k := rfl
  have hstop : e.cursor + k + b.extent = e.cursor + b.extent + k := by omega
  simp only [insertBlock, hcursor, hstop, closeGroupBefore_moved, Block.requestsAt_moved]
  cases e.closeGroupBefore config b with
  | error fault => rfl
  | ok before =>
    cases b.requestsAt config region? e.cursor with
    | error fault => rfl
    | ok own =>
      have hemit : (before.moved k).emit (own.map (Request.moved k)) =
          (before.emit own).moved k := by
        simp only [emit, moved, List.map_append]
      simp only [Except.map, bind, Except.bind, hemit, addMembership_moved]
      cases (before.emit own).addMembership config b e.cursor <;> rfl

/-- What adding blocks gives when they are added further on, be it an emission or a fault. -/
def movedResult (k : Int) (result : Except (GenerateFault × Int) Emission) :
    Except (GenerateFault × Int) Emission :=
  match result with
  | .error (fault, cursor) => .error (fault, cursor + k)
  | .ok e => .ok (e.moved k)

theorem addBlock_moved (config : Config) (region? : Option TableRegion) {k : Int} (hk : 0 ≤ k)
    {b : Block} {e : Emission} (hcursor : 0 ≤ e.cursor)
    (hstop : IntegerText.isWritable (e.cursor + k + b.extent) = true) :
    (e.moved k).addBlock config region? b = movedResult k (e.addBlock config region? b) := by
  have hextent := b.extent_pos
  have hshown : ∀ n, 0 ≤ n → n ≤ e.cursor + k + b.extent → IntegerText.isWritable n = true :=
    fun n hlow hhigh => IntegerText.isWritable_of_le hlow hhigh hstop
  unfold addBlock
  rw [insertBlock_moved]
  cases hinsert : e.insertBlock config region? b with
  | error fault => rfl
  | ok after =>
    have hafter := (exists_own_of_insertBlock hinsert).2
    have hhere : recorded [e.cursor, after.cursor] = .ok () := by
      refine recorded_eq_ok_iff.mpr ?_
      simp only [List.forall_mem_cons, List.not_mem_nil, false_implies, implies_true, and_true]
      exact ⟨hshown _ hcursor (by omega), hshown _ (by omega) (by omega)⟩
    have hlater : recorded [(e.moved k).cursor, (after.moved k).cursor] = .ok () := by
      refine recorded_eq_ok_iff.mpr ?_
      simp only [List.forall_mem_cons, List.not_mem_nil, false_implies, implies_true, and_true, moved]
      exact ⟨hshown _ (by omega) (by omega), hshown _ (by omega) (by omega)⟩
    simp only [Except.map, hhere, hlater, movedResult]

/-- Blocks emit the same further on, if the position behind them can be written. -/
theorem addBlocks_moved (config : Config) (regions : List TableRegion) {k : Int} (hk : 0 ≤ k)
    (index : Nat) {blocks : List Block} {e : Emission} (hcursor : 0 ≤ e.cursor)
    (hstop : IntegerText.isWritable (e.cursor + k + (Block.stream blocks).length) = true) :
    addBlocks config regions index blocks (e.moved k) =
      movedResult k (addBlocks config regions index blocks e) := by
  induction blocks generalizing index e with
  | nil => rfl
  | cons b blocks ih =>
    have hlength : ((Block.stream (b :: blocks)).length : Int) =
        b.extent + (Block.stream blocks).length := by
      rw [Block.extent_eq, Block.stream_cons, List.length_append, Int.natCast_add]
    have hextent := b.extent_pos
    rw [hlength] at hstop
    rw [addBlocks, addBlocks, addBlock_moved config _ hk hcursor
      (IntegerText.isWritable_of_le (by omega) (by omega) hstop)]
    cases hadd : e.addBlock config (TableRegion.startingAt? index regions) b with
    | error fault => rfl
    | ok e₁ =>
      have hnext := (exists_own_of_insertBlock (addBlock_eq_ok_iff.mp hadd).1).2
      have hrest : IntegerText.isWritable (e₁.cursor + k + (Block.stream blocks).length) = true := by
        have hsame : e₁.cursor + k + (Block.stream blocks).length =
            e.cursor + k + (b.extent + (Block.stream blocks).length) := by omega
        rw [hsame]
        exact hstop
      exact ih (index + 1) (by omega) hrest

theorem finish_moved (config : Config) {k start : Int} (hk : 0 ≤ k) (hstart : 0 ≤ start)
    {e : Emission} (hcursor : start ≤ e.cursor)
    (hstop : IntegerText.isWritable (e.cursor + k) = true) :
    (e.moved k).finish config (start + k) =
      (e.finish config start).map (List.map (Request.moved k)) := by
  have hshown : ∀ n, 0 ≤ n → n ≤ e.cursor + k → IntegerText.isWritable n = true :=
    fun n hlow hhigh => IntegerText.isWritable_of_le hlow hhigh hstop
  unfold finish
  rw [closeGroup_moved]
  cases hclose : e.closeGroup config with
  | error fault => rfl
  | ok closed =>
    obtain ⟨-, rfl⟩ := closeGroup_eq_ok_iff.mp hclose
    have hhere : recorded [start, e.cursor] = .ok () := by
      refine recorded_eq_ok_iff.mpr ?_
      simp only [List.forall_mem_cons, List.not_mem_nil, false_implies, implies_true, and_true]
      exact ⟨hshown _ (by omega) (by omega), hshown _ (by omega) (by omega)⟩
    have hlater : recorded [start + k, e.cursor + k] = .ok () := by
      refine recorded_eq_ok_iff.mpr ?_
      simp only [List.forall_mem_cons, List.not_mem_nil, false_implies, implies_true, and_true]
      exact ⟨hshown _ (by omega) (by omega), hshown _ (by omega) (by omega)⟩
    simp only [Except.map, bind, Except.bind, moved, hhere, hlater]

end Emission

/-! ## Calls of the generator -/

namespace Generator

/--
A run from a later index gives the same requests further on, or the same fault further on, if the
position where it ends can be written.
-/
theorem run_moved (config : Config) {blocks : List Block} {start k : Int} (hstart : 0 ≤ start)
    (hk : 0 ≤ k)
    (hstop : IntegerText.isWritable (start + k + (Block.stream blocks).length) = true) :
    run config blocks (start + k) =
      ((run config blocks start).1.map (List.map (Request.moved k)),
        (run config blocks start).2 + k) := by
  have hblocks : Emission.addBlocks config (TableRegion.measure blocks) 0 blocks
      { cursor := start + k } = Emission.movedResult k
        (Emission.addBlocks config (TableRegion.measure blocks) 0 blocks { cursor := start }) :=
    Emission.addBlocks_moved (e := { cursor := start }) config _ hk 0 hstart hstop
  simp only [run, hblocks]
  cases recorded ((TableRegion.measure blocks).map TableRegion.columns) with
  | error fault => rfl
  | ok u =>
    cases hadd : Emission.addBlocks config (TableRegion.measure blocks) 0 blocks
        { cursor := start } with
    | error fault => rfl
    | ok e =>
      have hcursor : e.cursor = start + (Block.stream blocks).length :=
        Emission.cursor_of_addBlocks hadd
      have hend : IntegerText.isWritable (e.cursor + k) = true := by
        have hsame : e.cursor + k = start + k + (Block.stream blocks).length := by omega
        rw [hsame]
        exact hstop
      simp only [Emission.movedResult, Emission.finish_moved config hk hstart (by omega) hend]
      rfl

/-- Where the requests from a later index end, the position must be short enough to be written. -/
theorem isOk_generate_moved {start k : Int} (hstart : 1 ≤ start) (hk : 0 ≤ k) (g : Generator)
    (blocks : List Block) :
    (generate blocks (.int (start + k)) g).1.isOk ↔
      (generate blocks (.int start) g).1.isOk ∧
        IntegerText.isWritable (start + k + (Block.stream blocks).length) = true := by
  rw [generate_of_start (by omega), generate_of_start hstart]
  constructor
  · intro hok
    obtain ⟨requests, hrun⟩ := Except.isOk_iff.mp hok
    have hstop := ((exists_run_iff_of_nonneg (by omega)).mp ⟨requests, _, Prod.ext hrun rfl⟩).2.1
    rw [run_moved g.config (by omega) hk hstop, Except.isOk_map] at hok
    exact ⟨hok, hstop⟩
  · rintro ⟨hok, hstop⟩
    rw [run_moved g.config (by omega) hk hstop, Except.isOk_map]
    exact hok

/--
From an index that is later by `k`, a generator succeeds on the same blocks, but for those whose end
cannot be written then. Where it can be written, the result is the same, with `k` added to every
position of the requests. So are the objects for the blocks of a tree.
-/
theorem generate_moved {start k : Int} (hstart : 1 ≤ start) (hk : 0 ≤ k) (g : Generator) :
    (∀ blocks,
      let later := generate blocks (.int (start + k)) g
      let earlier := generate blocks (.int start) g
      let written := IntegerText.isWritable (start + k + (Block.stream blocks).length)
      (later.1.isOk ↔ earlier.1.isOk ∧ written = true) ∧
        (written = true → later.1 = earlier.1.map (List.map (Request.moved k)) ∧
          later.2.cursor = earlier.2.cursor + k)) ∧
    ∀ root,
      let later := (generate (Block.ofRoot root) (.int (start + k)) g).1.map Request.listToJson
      let earlier := (generate (Block.ofRoot root) (.int start) g).1.map Request.listToJson
      let written :=
        IntegerText.isWritable (start + k + (Block.stream (Block.ofRoot root)).length)
      (later.isOk ↔ earlier.isOk ∧ written = true) ∧
        (written = true → later = earlier.map (Json.moved k)) := by
  have hmoved : ∀ blocks,
      IntegerText.isWritable (start + k + (Block.stream blocks).length) = true →
      (generate blocks (.int (start + k)) g).1 =
          (generate blocks (.int start) g).1.map (List.map (Request.moved k)) ∧
        (generate blocks (.int (start + k)) g).2.cursor =
          (generate blocks (.int start) g).2.cursor + k := by
    intro blocks hstop
    rw [generate_of_start (by omega), generate_of_start hstart,
      run_moved g.config (by omega) hk hstop]
    exact ⟨rfl, rfl⟩
  refine ⟨fun blocks => ⟨isOk_generate_moved hstart hk g blocks, hmoved blocks⟩, fun root => ?_⟩
  intro later earlier written
  refine ⟨?_, fun hstop => ?_⟩
  · rw [Except.isOk_map, Except.isOk_map]
    exact isOk_generate_moved hstart hk g (Block.ofRoot root)
  · have hlater := (hmoved (Block.ofRoot root) hstop).1
    simp only [later, earlier, hlater]
    cases (generate (Block.ofRoot root) (.int start) g).1 with
    | error fault => rfl
    | ok requests => exact congrArg Except.ok (Request.listToJson_moved k requests)

/-- A nested item with bold text and a table behind it, and a tree of one paragraph. -/
theorem generate_moved_list_and_table :
    let item : Block :=
      { text := ['a', 'b'], intervals := [⟨1, 2, { bold := some true }⟩],
        list? := some { ordered := true, nestingLevel := 1 } }
    let cell : Block := { text := ['c'], cell? := some { rowIndex := 0, columnIndex := 0 } }
    let root : Root := .document [.element "p" [] [.text ['d']]]
    let indent := Config.levelIndent {} 1
    (1 : Int) ≤ 3 ∧ (0 : Int) ≤ 4 ∧
      (generate [item, cell] (.int 3) {}).1 =
        .ok [.insertText 3 ['a', 'b', '\n'], .setParagraphStyle 3 6 .normal,
          .setTextStyle 4 5 { bold := some true }, .setListBullet 3 5 true,
          .setParagraphStyle 3 6 indent, .createTable 6 1 1, .insertText 6 ['c', '\n'],
          .setParagraphStyle 6 8 .normal] ∧
      (generate [item, cell] (.int (3 + 4)) {}).1 =
        .ok [.insertText 7 ['a', 'b', '\n'], .setParagraphStyle 7 10 .normal,
          .setTextStyle 8 9 { bold := some true }, .setListBullet 7 9 true,
          .setParagraphStyle 7 10 indent, .createTable 10 1 1, .insertText 10 ['c', '\n'],
          .setParagraphStyle 10 12 .normal] ∧
      (generate (Block.ofRoot root) (.int (3 + 4)) {}).1.map Request.listToJson =
        .ok (Request.listToJson [.insertText 7 ['d', '\n'], .setParagraphStyle 7 9 .normal]) := by
  intro item cell root indent
  obtain ⟨hblocks, hroot⟩ := generate_moved (by decide : (1 : Int) ≤ 3) (by decide : (0 : Int) ≤ 4) {}
  have hitems : (generate [item, cell] (.int 3) {}).1 =
      .ok [.insertText 3 ['a', 'b', '\n'], .setParagraphStyle 3 6 .normal,
        .setTextStyle 4 5 { bold := some true }, .setListBullet 3 5 true,
        .setParagraphStyle 3 6 indent, .createTable 6 1 1, .insertText 6 ['c', '\n'],
        .setParagraphStyle 6 8 .normal] := by
    rw [generate_of_start (by decide)]
    decide +kernel
  have hparagraph : (generate (Block.ofRoot root) (.int 3) {}).1 =
      .ok [.insertText 3 ['d', '\n'], .setParagraphStyle 3 5 .normal] := by
    rw [generate_of_start (by decide)]
    decide +kernel
  refine ⟨by decide, by decide, hitems, ?_, ?_⟩
  · rw [((hblocks [item, cell]).2 (by decide +kernel)).1, hitems]
    rfl
  · rw [(hroot root).2 (by decide +kernel), hparagraph]
    rfl

/-- A paragraph that ends behind the last position that can be written gives no requests. -/
theorem late_paragraph_fails :
    ¬∀ {start k : Int}, 1 ≤ start → 0 ≤ k → ∀ (g : Generator) blocks,
      ((generate blocks (.int (start + k)) g).1.isOk ↔ (generate blocks (.int start) g).1.isOk) := by
  intro hall
  let b : Block := { text := ['a'] }
  have hearlier : generate [b] (.int 1) {} =
      (.ok [.insertText 1 ['a', '\n'], .setParagraphStyle 1 3 .normal], { cursor := 3 }) :=
    generate_of_run (by decide) (by decide +kernel)
  have hlater : (generate [b] (.int (1 + (IntegerText.bound - 2))) {}).1 = .error .unwritable := by
    rw [generate_of_start (by decide +kernel)]
    decide +kernel
  have hok := hall (by decide : (1 : Int) ≤ 1) (by decide +kernel : 0 ≤ (IntegerText.bound : Int) - 2)
    {} [b]
  rw [hlater, hearlier] at hok
  exact absurd (hok.mpr rfl) (by decide)

end Generator

end MarkupCompiler
