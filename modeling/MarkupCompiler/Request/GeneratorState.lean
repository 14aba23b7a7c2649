import MarkupCompiler.Request.Generator

/-!
# A generator at work

A generator keeps the requests so far, the cursor, the open list group and the table regions in
fields that outlive a call. A call first sets them anew and then changes them step by step. A fault
breaks it off and leaves the fields as the steps before it have made them.
-/

namespace MarkupCompiler

/-- All that a generator keeps, within its calls and between them. -/
structure GeneratorState where
  config : Config := {}
  requests : List Request := []
  cursor : Int := 1
  group? : Option ListGroup := none
  regions : List TableRegion := []
  deriving Inhabited

/-- A step of a generator. A fault does not undo the steps before it. -/
abbrev GeneratorStep (α : Type) := ExceptT GenerateFault (StateM GeneratorState) α

namespace GeneratorStep

def runFrom {α : Type} (step : GeneratorStep α) (s : GeneratorState) :
    Except GenerateFault α × GeneratorState :=
  step.run.run s

/-- The value of a computation with styles. -/
def ofStyle {α : Type} (x : Except StyleFault α) : GeneratorStep α :=
  liftExcept (x.mapError GenerateFault.style)

def record (shown : List Int) : GeneratorStep Unit := liftExcept (recorded shown)

def emit (requests : List Request) : GeneratorStep Unit :=
  modify fun s => { s with requests := s.requests ++ requests }

def emitIndents : List InsertedItem → GeneratorStep Unit
  | [] => pure ()
  | item :: items => do
    let s ← get
    let request ← ofStyle (item.indent s.config)
    emit [request]
    emitIndents items

def closeGroup : GeneratorStep Unit := do
  let s ← get
  match s.group? with
  | none => pure ()
  | some g =>
    modify fun s => { s with group? := none }
    emit g.bullets
    emitIndents g.nested

/-- Takes a list item into the open group, or into a new one if the kind changes. -/
def addItem (isOrdered : Bool) (item : InsertedItem) : GeneratorStep Unit := do
  let s ← get
  match s.group? with
  | none => modify fun s => { s with group? := some (.single isOrdered item) }
  | some g =>
    if g.isOrdered == isOrdered then
      modify fun s => { s with group? := some (g.add item) }
    else
      closeGroup
      modify fun s => { s with group? := some (.single isOrdered item) }

/-- Emits the style of a range, unless it is empty. -/
def emitTextStyle (start stop : Int) (style : TextStyle) : GeneratorStep Unit :=
  if style.isEmpty then pure () else emit [.setTextStyle start stop style]

/-- Emits the styles of ranges of a block's text one by one. -/
def emitTextStyles (start : Int) : List StyleInterval → GeneratorStep Unit
  | [] => pure ()
  | i :: is => do
    let s ← get
    let style ← ofStyle (s.config.textStyleFor i.style)
    emitTextStyle (start + i.start) (start + i.stop) style
    emitTextStyles start is

/-- Closes the open group in front of a block that is no list item. -/
def closeGroupBefore (b : Block) : GeneratorStep Unit :=
  if b.isListItem then pure () else closeGroup

/-- Takes a block's place in a list into account. -/
def addMembership (b : Block) (start : Int) : GeneratorStep Unit :=
  match b.list? with
  | none => pure ()
  | some list => addItem list.ordered ⟨start, b.text.length, list.nestingLevel⟩

/-- Adds one block. The cursor moves when all its requests are emitted, so a fault in one of them
leaves it before the block. -/
def addBlock (position : Nat) (b : Block) : GeneratorStep Unit := do
  closeGroupBefore b
  let s ← get
  let start := s.cursor
  emit (Block.tableRequests start (TableRegion.startingAt? position s.regions))
  emit [.insertText start (b.text ++ Block.separator)]
  let paragraph ← ofStyle (b.paragraphRequests s.config start)
  emit paragraph
  record b.skippedEnds
  emitTextStyles start (StyleInterval.coalesce (StyleInterval.clampAll b.text.length b.intervals))
  addMembership b start
  modify fun s => { s with cursor := start + b.extent }
  record [start, start + b.extent]

def addBlocks : Nat → List Block → GeneratorStep Unit
  | _, [] => pure ()
  | position, b :: blocks => do
    addBlock position b
    addBlocks (position + 1) blocks

/-- Sets all fields anew for a call, the regions last; the configuration stays. -/
def reset (blocks : List Block) (cursor : Int) : GeneratorStep Unit := do
  modify fun s => { s with requests := [], cursor := cursor, group? := none }
  let regions := TableRegion.measure blocks
  record (regions.map TableRegion.columns)
  modify fun s => { s with regions := regions }

/-- Generates requests. A start index is checked before anything is changed. -/
def generate (blocks : List Block) (startIndex : Json) : GeneratorStep (List Request) := do
  let refused (fault : InputFault) : GenerateFault :=
    if startIndex.isWritable then .input fault else .unwritable
  let cursor ← liftExcept ((Input.startIndex startIndex).mapError refused)
  reset blocks cursor
  addBlocks 0 blocks
  closeGroup
  let s ← get
  record [cursor, s.cursor]
  pure s.requests

end GeneratorStep

structure GeneratorCall where
  blocks : List Block
  startIndex : Json := .int 1

namespace GeneratorCall

def apply (s : GeneratorState) (call : GeneratorCall) :
    Except GenerateFault (List Request) × GeneratorState :=
  (GeneratorStep.generate call.blocks call.startIndex).runFrom s

end GeneratorCall

end MarkupCompiler
