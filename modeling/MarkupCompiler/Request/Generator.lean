import MarkupCompiler.Block.TableRegion
import MarkupCompiler.Config.Basic
import MarkupCompiler.Error.Input
import MarkupCompiler.Interval.Combine
import MarkupCompiler.Request.Basic

/-!
# Requests for blocks

Blocks are inserted one after another at a single cursor, each followed by a line feed. A block
gives an insertion, the style of its paragraph and the styles of its text; the first cell of a
table region gives a table before that. Consecutive list items of one kind form a group, whose
bullets and indents follow when the group is closed: at the next block that is no list item, at a
list item of the other kind, or at the end. A generator keeps a record of what it does, and an
integer that is too long to be written there breaks it off.
-/

namespace MarkupCompiler

/-- Why a run gave no requests. -/
inductive GenerateFault where
  | input (fault : InputFault)
  | style (fault : StyleFault)
  | unwritable
  deriving Repr, DecidableEq

def GenerateFault.message : GenerateFault → String
  | .input fault => fault.toError.message
  | .style fault => fault.message
  | .unwritable => IntegerFault.unwritable.message

/-- A record that shows some integers. -/
def recorded (shown : List Int) : Except GenerateFault Unit :=
  if shown.all IntegerText.isWritable then .ok () else .error .unwritable

structure InsertedItem where
  start : Int
  length : Nat
  nestingLevel : Int
  deriving Repr, DecidableEq, Inhabited

def InsertedItem.indent (config : Config) (item : InsertedItem) : Except StyleFault Request :=
  (config.listItemIndent item.nestingLevel).map fun style =>
    .setParagraphStyle item.start (item.start + item.length + 1) style

structure ListGroup where
  start : Int
  stop : Int
  isOrdered : Bool
  items : List InsertedItem
  deriving Repr, DecidableEq, Inhabited

namespace ListGroup

/-- The bullets of a group, unless its items are all empty. -/
def bullets (g : ListGroup) : List Request :=
  if g.stop > g.start then [.setListBullet g.start g.stop g.isOrdered] else []

def nested (g : ListGroup) : List InsertedItem :=
  g.items.filter fun item => item.nestingLevel != 0

/-- The requests for a group: its bullets, then its indents. -/
def requests (config : Config) (g : ListGroup) : Except StyleFault (List Request) :=
  (g.nested.mapM (InsertedItem.indent config)).map (g.bullets ++ ·)

def single (isOrdered : Bool) (item : InsertedItem) : ListGroup :=
  ⟨item.start, item.start + item.length, isOrdered, [item]⟩

def add (item : InsertedItem) (g : ListGroup) : ListGroup :=
  { g with stop := item.start + item.length, items := g.items ++ [item] }

end ListGroup

namespace Block

/-- What follows the text of every block. -/
def separator : Text := ['\n']

/-- How many positions a block takes, its separator included. -/
def extent (b : Block) : Int := b.text.length + 1

/-- The table that begins with a block. -/
def tableRequests (start : Int) : Option TableRegion → List Request
  | none => []
  | some region => [.createTable start region.rows region.columns]

/-- The style of a block's paragraph, unless it is empty. -/
def paragraphRequests (config : Config) (start : Int) (b : Block) :
    Except StyleFault (List Request) :=
  (config.paragraphStyleFor b.paragraphStyle).map fun style =>
    if style.isEmpty then [] else [.setParagraphStyle start (start + b.extent) style]

/-- The styles of ranges of a block's text, those that are empty left out. -/
def textRequestsOf (config : Config) (start : Int) :
    List StyleInterval → Except StyleFault (List Request)
  | [] => .ok []
  | i :: is =>
    match config.textStyleFor i.style with
    | .error fault => .error fault
    | .ok style =>
      (textRequestsOf config start is).map fun rest =>
        if style.isEmpty then rest
        else .setTextStyle (start + i.start) (start + i.stop) style :: rest

def textRequests (config : Config) (start : Int) (b : Block) : Except StyleFault (List Request) :=
  textRequestsOf config start
    (StyleInterval.coalesce (StyleInterval.clampAll b.text.length b.intervals))

/-- The ends of the ranges that have nothing of a block's text. They are put on record. -/
def skippedEnds (b : Block) : List Int :=
  (b.intervals.filter fun i => (i.clamped b.text.length).isEmpty).flatMap fun i =>
    [i.start, i.stop]

def requestsAt (config : Config) (region? : Option TableRegion) (start : Int) (b : Block) :
    Except GenerateFault (List Request) := do
  let paragraph ← (b.paragraphRequests config start).mapError .style
  recorded b.skippedEnds
  let text ← (b.textRequests config start).mapError .style
  let insertion := Request.insertText start (b.text ++ separator)
  .ok (tableRequests start region? ++ [insertion] ++ paragraph ++ text)

end Block

/-- What has been emitted: the cursor after it, and the list group that is still open. -/
structure Emission where
  cursor : Int
  requests : List Request := []
  group? : Option ListGroup := none
  deriving Repr, DecidableEq, Inhabited

namespace Emission

def emit (requests : List Request) (e : Emission) : Emission :=
  { e with requests := e.requests ++ requests }

def closeGroup (config : Config) (e : Emission) : Except GenerateFault Emission :=
  match e.group? with
  | none => .ok e
  | some g =>
    match g.requests config with
    | .error fault => .error (.style fault)
    | .ok requests => .ok { e.emit requests with group? := none }

/-- Closes the open group in front of a block that is no list item. -/
def closeGroupBefore (config : Config) (b : Block) (e : Emission) :
    Except GenerateFault Emission :=
  if b.isListItem then .ok e else e.closeGroup config

/-- Takes a list item into the open group, or into a new one if the kind changes. -/
def addItem (config : Config) (isOrdered : Bool) (item : InsertedItem) (e : Emission) :
    Except GenerateFault Emission :=
  match e.group? with
  | some g =>
    if g.isOrdered == isOrdered then .ok { e with group? := some (g.add item) }
    else (e.closeGroup config).map fun e => { e with group? := some (.single isOrdered item) }
  | none => .ok { e with group? := some (.single isOrdered item) }

/-- Takes a block's place in a list into account. -/
def addMembership (config : Config) (b : Block) (start : Int) (e : Emission) :
    Except GenerateFault Emission :=
  match b.list? with
  | none => .ok e
  | some list => e.addItem config list.ordered ⟨start, b.text.length, list.nestingLevel⟩

/-- Emits all requests for a block, and moves the cursor behind it. -/
def insertBlock (config : Config) (region? : Option TableRegion) (b : Block) (e : Emission) :
    Except GenerateFault Emission := do
  let before ← e.closeGroupBefore config b
  let requests ← b.requestsAt config region? e.cursor
  let after ← (before.emit requests).addMembership config b e.cursor
  .ok { after with cursor := e.cursor + b.extent }

/--
Adds one block; a fault comes with the cursor where it arose. The cursor is behind the block already
when the block is put on record.
-/
def addBlock (config : Config) (region? : Option TableRegion) (b : Block) (e : Emission) :
    Except (GenerateFault × Int) Emission :=
  match e.insertBlock config region? b with
  | .error fault => .error (fault, e.cursor)
  | .ok after =>
    match recorded [e.cursor, after.cursor] with
    | .error fault => .error (fault, after.cursor)
    | .ok () => .ok after

def addBlocks (config : Config) (regions : List TableRegion) :
    Nat → List Block → Emission → Except (GenerateFault × Int) Emission
  | _, [], e => .ok e
  | position, b :: blocks, e =>
    match e.addBlock config (TableRegion.startingAt? position regions) b with
    | .error broken => .error broken
    | .ok e => addBlocks config regions (position + 1) blocks e

/-- The requests of a run from a start index on, once all blocks are added. -/
def finish (config : Config) (start : Int) (e : Emission) : Except GenerateFault (List Request) := do
  let e ← e.closeGroup config
  recorded [start, e.cursor]
  .ok e.requests

end Emission

/-- A generator: its configuration, and the cursor that its last run left. -/
structure Generator where
  config : Config := {}
  cursor : Int := 1

namespace Generator

/-- The requests for blocks from a start index on, and the cursor after them or at a fault. -/
def run (config : Config) (blocks : List Block) (start : Int) :
    Except GenerateFault (List Request) × Int :=
  let regions := TableRegion.measure blocks
  match recorded (regions.map TableRegion.columns) with
  | .error fault => (.error fault, start)
  | .ok () =>
    match Emission.addBlocks config regions 0 blocks { cursor := start } with
    | .error (fault, cursor) => (.error fault, cursor)
    | .ok e => (e.finish config start, e.cursor)

/--
Generates requests; a refused start index leaves the generator as it is. The refusal shows what was
given, if that can be written.
-/
def generate (blocks : List Block) (start : Json) (g : Generator) :
    Except GenerateFault (List Request) × Generator :=
  match Input.startIndex start with
  | .error fault => (.error (if start.isWritable then .input fault else .unwritable), g)
  | .ok start =>
    let (result, cursor) := run g.config blocks start
    (result, { g with cursor := cursor })

end Generator

end MarkupCompiler
