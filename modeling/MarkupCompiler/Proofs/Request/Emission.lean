import MarkupCompiler.Request.Generator
import Mathlib.Data.List.Basic

/-!
# What a run emits, step by step

A step of a run succeeds under conditions on its own data: styles can be computed, levels have an
indent, and integers that are put on record can be written. What it then does to the emission is
known. Each step is inverted here once, so that what holds of runs that succeed is proved without
their faults.
-/

namespace MarkupCompiler

theorem Except.bind_eq_ok_iff {ε α β : Type} {x : Except ε α} {f : α → Except ε β} {b : β} :
    (x >>= f) = .ok b ↔ ∃ a, x = .ok a ∧ f a = .ok b := by
  cases x <;> simp [bind, Except.bind]

theorem Except.map_eq_ok_iff {ε α β : Type} {x : Except ε α} {f : α → β} {b : β} :
    x.map f = .ok b ↔ ∃ a, x = .ok a ∧ f a = b := by
  cases x <;> simp [Except.map]

theorem Except.mapError_eq_ok_iff {ε ε' α : Type} {x : Except ε α} {f : ε → ε'} {a : α} :
    x.mapError f = .ok a ↔ x = .ok a := by
  cases x <;> simp [Except.mapError]

theorem Except.bind_eq_error_iff {ε α β : Type} {x : Except ε α} {f : α → Except ε β} {e : ε} :
    (x >>= f) = .error e ↔ x = .error e ∨ ∃ a, x = .ok a ∧ f a = .error e := by
  cases x <;> simp [bind, Except.bind]

theorem Except.mapError_eq_error_iff {ε ε' α : Type} {x : Except ε α} {f : ε → ε'} {e : ε'} :
    x.mapError f = .error e ↔ ∃ fault, x = .error fault ∧ f fault = e := by
  cases x <;> simp [Except.mapError]

theorem Except.isOk_iff {ε α : Type} {x : Except ε α} : x.isOk ↔ ∃ a, x = .ok a := by
  cases x <;> simp [Except.isOk, Except.toBool]

theorem Except.isOk_map {ε α β : Type} (x : Except ε α) (f : α → β) : (x.map f).isOk = x.isOk := by
  cases x <;> rfl

theorem recorded_eq_ok_iff {shown : List Int} {u : Unit} :
    recorded shown = .ok u ↔ ∀ n ∈ shown, IntegerText.isWritable n = true := by
  rw [recorded, ← List.all_eq_true]
  split
  · next h => exact iff_of_true rfl h
  · next h => exact iff_of_false (by simp) h

namespace ListGroup

/-- The indent of an item whose level is not too large. -/
def indentOf (config : Config) (item : InsertedItem) : Request :=
  .setParagraphStyle item.start (item.start + item.length + 1)
    (config.levelIndent item.nestingLevel)

/-- The requests for a group in which no level is too large. -/
def outline (config : Config) (g : ListGroup) : List Request :=
  g.bullets ++ g.nested.map (indentOf config)

/-- No level of an item that is to be indented is too large. -/
def LevelsFit (g : ListGroup) : Prop :=
  ∀ item ∈ g.nested, DecimalText.inRange (item.nestingLevel + 1) = true

theorem indent_eq_ok_iff {config : Config} {item : InsertedItem} {r : Request} :
    item.indent config = .ok r ↔
      DecimalText.inRange (item.nestingLevel + 1) = true ∧ r = indentOf config item := by
  rw [InsertedItem.indent, Config.listItemIndent, Except.map_eq_ok_iff]
  by_cases h : DecimalText.inRange (item.nestingLevel + 1) = true
  · simp only [h, if_true, Except.ok.injEq, exists_eq_left', true_and, indentOf]
    exact eq_comm
  · simp [h]

theorem mapM_indent_eq_ok_iff {config : Config} {items : List InsertedItem} {rs : List Request} :
    items.mapM (InsertedItem.indent config) = .ok rs ↔
      (∀ item ∈ items, DecimalText.inRange (item.nestingLevel + 1) = true) ∧
        rs = items.map (indentOf config) := by
  induction items generalizing rs with
  | nil =>
    simp only [List.mapM_nil, pure, Except.pure, Except.ok.injEq, List.map_nil]
    exact ⟨fun h => ⟨fun _ h => absurd h List.not_mem_nil, h.symm⟩, fun h => h.2.symm⟩
  | cons item items ih =>
    simp only [List.mapM_cons, Except.bind_eq_ok_iff, indent_eq_ok_iff, ih, List.forall_mem_cons,
      List.map_cons]
    constructor
    · rintro ⟨r, ⟨hitem, rfl⟩, rest, ⟨hitems, rfl⟩, hrs⟩
      exact ⟨⟨hitem, hitems⟩, (Except.ok.inj hrs).symm⟩
    · rintro ⟨⟨hitem, hitems⟩, rfl⟩
      exact ⟨_, ⟨hitem, rfl⟩, _, ⟨hitems, rfl⟩, rfl⟩

theorem requests_eq_ok_iff {config : Config} {g : ListGroup} {rs : List Request} :
    g.requests config = .ok rs ↔ g.LevelsFit ∧ rs = g.outline config := by
  rw [requests, Except.map_eq_ok_iff]
  constructor
  · rintro ⟨indents, hindents, rfl⟩
    obtain ⟨hfit, rfl⟩ := mapM_indent_eq_ok_iff.mp hindents
    exact ⟨hfit, rfl⟩
  · rintro ⟨hfit, rfl⟩
    exact ⟨_, mapM_indent_eq_ok_iff.mpr ⟨hfit, rfl⟩, rfl⟩

end ListGroup

theorem Block.requestsAt_eq_ok_iff {config : Config} {region? : Option TableRegion} {start : Int}
    {b : Block} {own : List Request} :
    b.requestsAt config region? start = .ok own ↔
      ∃ paragraph text, b.paragraphRequests config start = .ok paragraph ∧
        b.textRequests config start = .ok text ∧
        (∀ n ∈ b.skippedEnds, IntegerText.isWritable n = true) ∧
        own = tableRequests start region? ++ [.insertText start (b.text ++ separator)] ++
          paragraph ++ text := by
  simp only [requestsAt, Except.bind_eq_ok_iff, Except.mapError_eq_ok_iff, recorded_eq_ok_iff]
  constructor
  · rintro ⟨paragraph, hparagraph, -, hskipped, text, htext, hown⟩
    exact ⟨paragraph, text, hparagraph, htext, hskipped, (Except.ok.inj hown).symm⟩
  · rintro ⟨paragraph, text, hparagraph, htext, hskipped, rfl⟩
    exact ⟨paragraph, hparagraph, (), hskipped, text, htext, rfl⟩

namespace Emission

variable {config : Config} {e e' : Emission}

/-- The requests that wait for the open group to be closed. -/
def pending (config : Config) (e : Emission) : List Request :=
  match e.group? with
  | none => []
  | some g => g.outline config

/-- The open group can be closed. -/
def LevelsFit (e : Emission) : Prop := ∀ g, e.group? = some g → g.LevelsFit

@[simp] theorem pending_none (config : Config) (cursor : Int) (requests : List Request) :
    pending config ⟨cursor, requests, none⟩ = [] := rfl

@[simp] theorem pending_some (config : Config) (cursor : Int) (requests : List Request)
    (g : ListGroup) : pending config ⟨cursor, requests, some g⟩ = g.outline config := rfl

theorem closeGroup_eq_ok_iff :
    e.closeGroup config = .ok e' ↔
      e.LevelsFit ∧ e' = ⟨e.cursor, e.requests ++ e.pending config, none⟩ := by
  obtain ⟨cursor, requests, group?⟩ := e
  cases group? with
  | none =>
    simp only [closeGroup, Except.ok.injEq, LevelsFit, pending_none, List.append_nil]
    constructor
    · rintro rfl
      exact ⟨fun g hg => absurd hg (by simp), rfl⟩
    · exact fun h => h.2.symm
  | some g =>
    have hfit : LevelsFit ⟨cursor, requests, some g⟩ ↔ g.LevelsFit :=
      ⟨fun h => h g rfl, fun h g' hg' => Option.some.inj hg' ▸ h⟩
    rw [hfit, pending_some]
    simp only [closeGroup]
    cases hrequests : g.requests config with
    | error fault =>
      refine iff_of_false (by simp) fun h => ?_
      rw [ListGroup.requests_eq_ok_iff.mpr ⟨h.1, rfl⟩] at hrequests
      cases hrequests
    | ok rs =>
      obtain ⟨hlevels, rfl⟩ := ListGroup.requests_eq_ok_iff.mp hrequests
      simp only [hlevels, true_and, Except.ok.injEq, emit]
      exact eq_comm

theorem cursor_of_closeGroupBefore {b : Block} (h : e.closeGroupBefore config b = .ok e') :
    e'.cursor = e.cursor := by
  rw [closeGroupBefore] at h
  split at h
  · rw [Except.ok.inj h]
  · obtain ⟨-, rfl⟩ := closeGroup_eq_ok_iff.mp h
    rfl

section Block

variable {region? : Option TableRegion} {b : Block} {list : ListMembership}

theorem insertBlock_eq_ok_iff :
    e.insertBlock config region? b = .ok e' ↔
      ∃ before own after, e.closeGroupBefore config b = .ok before ∧
        b.requestsAt config region? e.cursor = .ok own ∧
        (before.emit own).addMembership config b e.cursor = .ok after ∧
        e' = { after with cursor := e.cursor + b.extent } := by
  simp only [insertBlock, Except.bind_eq_ok_iff]
  constructor
  · rintro ⟨before, hbefore, own, hown, after, hafter, h⟩
    exact ⟨before, own, after, hbefore, hown, hafter, (Except.ok.inj h).symm⟩
  · rintro ⟨before, own, after, hbefore, hown, hafter, rfl⟩
    exact ⟨before, hbefore, own, hown, after, hafter, rfl⟩

theorem insertBlock_of_plain (hlist : b.list? = none) :
    e.insertBlock config region? b = .ok e' ↔
      e.LevelsFit ∧ ∃ own, b.requestsAt config region? e.cursor = .ok own ∧
        e' = ⟨e.cursor + b.extent, e.requests ++ e.pending config ++ own, none⟩ := by
  have hitem : b.isListItem = false := by rw [Block.isListItem, hlist]; rfl
  have hbefore : e.closeGroupBefore config b = e.closeGroup config := by
    rw [closeGroupBefore, hitem]
    rfl
  have hafter : ∀ e₁ : Emission, e₁.addMembership config b e.cursor = .ok e₁ := by
    intro e₁
    rw [addMembership, hlist]
  rw [insertBlock_eq_ok_iff, hbefore]
  simp only [closeGroup_eq_ok_iff, hafter, Except.ok.injEq]
  constructor
  · rintro ⟨_, own, _, ⟨hfit, rfl⟩, hown, rfl, rfl⟩
    exact ⟨hfit, own, hown, rfl⟩
  · rintro ⟨hfit, own, hown, rfl⟩
    exact ⟨_, own, _, ⟨hfit, rfl⟩, hown, rfl, rfl⟩

theorem insertBlock_of_item (hlist : b.list? = some list) :
    e.insertBlock config region? b = .ok e' ↔
      ∃ own after, b.requestsAt config region? e.cursor = .ok own ∧
        (e.emit own).addItem config list.ordered ⟨e.cursor, b.text.length, list.nestingLevel⟩ =
          .ok after ∧ e' = { after with cursor := e.cursor + b.extent } := by
  have hitem : b.isListItem = true := by rw [Block.isListItem, hlist]; rfl
  have hbefore : e.closeGroupBefore config b = .ok e := by
    rw [closeGroupBefore, hitem]
    rfl
  rw [insertBlock_eq_ok_iff, hbefore]
  simp only [addMembership, hlist, Except.ok.injEq]
  constructor
  · rintro ⟨_, own, after, rfl, h⟩
    exact ⟨own, after, h⟩
  · rintro ⟨own, after, h⟩
    exact ⟨e, own, after, rfl, h⟩

theorem insertBlock_of_first (hlist : b.list? = some list)
    (hgroup : ∀ g, e.group? = some g → g.isOrdered ≠ list.ordered) :
    e.insertBlock config region? b = .ok e' ↔
      e.LevelsFit ∧ ∃ own, b.requestsAt config region? e.cursor = .ok own ∧
        e' = ⟨e.cursor + b.extent, e.requests ++ own ++ e.pending config,
          some (.single list.ordered ⟨e.cursor, b.text.length, list.nestingLevel⟩)⟩ := by
  have hadd : ∀ own after, (e.emit own).addItem config list.ordered
      ⟨e.cursor, b.text.length, list.nestingLevel⟩ = .ok after ↔
      e.LevelsFit ∧ after = ⟨e.cursor, e.requests ++ own ++ e.pending config,
        some (.single list.ordered ⟨e.cursor, b.text.length, list.nestingLevel⟩)⟩ := by
    intro own after
    obtain ⟨cursor, requests, group?⟩ := e
    cases group? with
    | none =>
      have hfit : LevelsFit ⟨cursor, requests, none⟩ := fun g hg => absurd hg (by simp)
      simp [addItem, emit, hfit, eq_comm]
    | some g =>
      have hkind : (g.isOrdered == list.ordered) = false := beq_eq_false_iff_ne.mpr (hgroup g rfl)
      simp only [addItem, emit, hkind, Bool.false_eq_true, if_false, Except.map_eq_ok_iff,
        closeGroup_eq_ok_iff]
      constructor
      · rintro ⟨_, ⟨hfit, rfl⟩, rfl⟩
        exact ⟨hfit, rfl⟩
      · rintro ⟨hfit, rfl⟩
        exact ⟨_, ⟨hfit, rfl⟩, rfl⟩
  simp only [insertBlock_of_item hlist, hadd]
  constructor
  · rintro ⟨own, _, hown, ⟨hfit, rfl⟩, rfl⟩
    exact ⟨hfit, own, hown, rfl⟩
  · rintro ⟨hfit, own, hown, rfl⟩
    exact ⟨own, _, hown, ⟨hfit, rfl⟩, rfl⟩

theorem insertBlock_of_next {g : ListGroup} (hlist : b.list? = some list)
    (hgroup : e.group? = some g) (hkind : g.isOrdered = list.ordered) :
    e.insertBlock config region? b = .ok e' ↔
      ∃ own, b.requestsAt config region? e.cursor = .ok own ∧
        e' = ⟨e.cursor + b.extent, e.requests ++ own,
          some (g.add ⟨e.cursor, b.text.length, list.nestingLevel⟩)⟩ := by
  have hadd : ∀ own item, (e.emit own).addItem config list.ordered item =
      .ok ⟨e.cursor, e.requests ++ own, some (g.add item)⟩ := by
    intro own item
    obtain ⟨cursor, requests, group?⟩ := e
    obtain rfl : group? = some g := hgroup
    simp [addItem, emit, hkind]
  simp only [insertBlock_of_item hlist, hadd, Except.ok.injEq]
  constructor
  · rintro ⟨own, _, hown, rfl, rfl⟩
    exact ⟨own, hown, rfl⟩
  · rintro ⟨own, hown, rfl⟩
    exact ⟨own, _, hown, rfl, rfl⟩

/-- A block has requests of its own, and moves the cursor behind itself. -/
theorem exists_own_of_insertBlock (h : e.insertBlock config region? b = .ok e') :
    (∃ own, b.requestsAt config region? e.cursor = .ok own) ∧ e'.cursor = e.cursor + b.extent := by
  obtain ⟨-, own, -, -, hown, -, rfl⟩ := insertBlock_eq_ok_iff.mp h
  exact ⟨⟨own, hown⟩, rfl⟩

/-- A block that is added is inserted, and the positions around it are put on record. -/
theorem addBlock_eq_ok_iff :
    e.addBlock config region? b = .ok e' ↔
      e.insertBlock config region? b = .ok e' ∧ IntegerText.isWritable e.cursor = true ∧
        IntegerText.isWritable e'.cursor = true := by
  rw [addBlock]
  cases hinsert : e.insertBlock config region? b with
  | error fault => simp
  | ok after =>
    cases hrecord : recorded [e.cursor, after.cursor] with
    | error fault =>
      refine iff_of_false (by simp [hrecord]) ?_
      rintro ⟨⟨⟩, hstart, hstop⟩
      have hok : recorded [e.cursor, e'.cursor] = .ok () :=
        recorded_eq_ok_iff.mpr (by simp [hstart, hstop])
      cases hrecord.symm.trans hok
    | ok u =>
      have hshown := recorded_eq_ok_iff.mp hrecord
      simp only [List.forall_mem_cons] at hshown
      simp only [hrecord, Except.ok.injEq]
      constructor
      · rintro rfl
        exact ⟨rfl, hshown.1, hshown.2.1⟩
      · exact fun h => h.1

/-- What a block adds that is no list item. -/
theorem addBlock_of_plain {own : List Request} (hlist : b.list? = none)
    (hown : b.requestsAt config region? e.cursor = .ok own)
    (h : e.addBlock config region? b = .ok e') :
    e' = ⟨e.cursor + b.extent, e.requests ++ e.pending config ++ own, none⟩ := by
  obtain ⟨-, own', hown', rfl⟩ := (insertBlock_of_plain hlist).mp (addBlock_eq_ok_iff.mp h).1
  rw [Except.ok.inj (hown.symm.trans hown')]

/-- What the first item of a list adds. -/
theorem addBlock_of_first {own : List Request} (hlist : b.list? = some list)
    (hgroup : ∀ g, e.group? = some g → g.isOrdered ≠ list.ordered)
    (hown : b.requestsAt config region? e.cursor = .ok own)
    (h : e.addBlock config region? b = .ok e') :
    e' = ⟨e.cursor + b.extent, e.requests ++ own ++ e.pending config,
      some (.single list.ordered ⟨e.cursor, b.text.length, list.nestingLevel⟩)⟩ := by
  obtain ⟨-, own', hown', rfl⟩ :=
    (insertBlock_of_first hlist hgroup).mp (addBlock_eq_ok_iff.mp h).1
  rw [Except.ok.inj (hown.symm.trans hown')]

/-- What a further item of a list adds. -/
theorem addBlock_of_next {own : List Request} {g : ListGroup} (hlist : b.list? = some list)
    (hgroup : e.group? = some g) (hkind : g.isOrdered = list.ordered)
    (hown : b.requestsAt config region? e.cursor = .ok own)
    (h : e.addBlock config region? b = .ok e') :
    e' = ⟨e.cursor + b.extent, e.requests ++ own,
      some (g.add ⟨e.cursor, b.text.length, list.nestingLevel⟩)⟩ := by
  obtain ⟨own', hown', rfl⟩ :=
    (insertBlock_of_next hlist hgroup hkind).mp (addBlock_eq_ok_iff.mp h).1
  rw [Except.ok.inj (hown.symm.trans hown')]

end Block

section Run

variable {regions : List TableRegion}

theorem addBlocks_cons_eq_ok_iff {index : Nat} {b : Block} {blocks : List Block} :
    addBlocks config regions index (b :: blocks) e = .ok e' ↔
      ∃ e₁, e.addBlock config (TableRegion.startingAt? index regions) b = .ok e₁ ∧
        addBlocks config regions (index + 1) blocks e₁ = .ok e' := by
  rw [addBlocks]
  cases e.addBlock config (TableRegion.startingAt? index regions) b with
  | error broken => simp
  | ok e₁ => simp

theorem addBlocks_append_eq_ok_iff {index : Nat} {before after : List Block} :
    addBlocks config regions index (before ++ after) e = .ok e' ↔
      ∃ e₁, addBlocks config regions index before e = .ok e₁ ∧
        addBlocks config regions (index + before.length) after e₁ = .ok e' := by
  induction before generalizing index e with
  | nil => simp [addBlocks]
  | cons b before ih =>
    have hindex : index + 1 + before.length = index + (b :: before).length := by
      simp only [List.length_cons]
      omega
    simp only [List.cons_append, addBlocks_cons_eq_ok_iff, ih, hindex]
    constructor
    · rintro ⟨e₁, hb, e₂, hbefore, hafter⟩
      exact ⟨e₂, ⟨e₁, hb, hbefore⟩, hafter⟩
    · rintro ⟨e₂, ⟨e₁, hb, hbefore⟩, hafter⟩
      exact ⟨e₁, hb, e₂, hbefore, hafter⟩

theorem finish_eq_ok_iff {start : Int} {requests : List Request} :
    e.finish config start = .ok requests ↔
      e.LevelsFit ∧ IntegerText.isWritable start = true ∧
        IntegerText.isWritable e.cursor = true ∧ requests = e.requests ++ e.pending config := by
  simp only [finish, Except.bind_eq_ok_iff, closeGroup_eq_ok_iff, recorded_eq_ok_iff]
  constructor
  · rintro ⟨_, ⟨hfit, rfl⟩, -, hshown, ⟨⟩⟩
    exact ⟨hfit, hshown start (by simp), hshown e.cursor (by simp), rfl⟩
  · rintro ⟨hfit, hstart, hstop, rfl⟩
    refine ⟨_, ⟨hfit, rfl⟩, (), ?_, rfl⟩
    simp [hstart, hstop]

end Run

end Emission

namespace Generator

open Emission (addBlocks)

/-- What a run that succeeds has done. -/
theorem run_eq_ok_iff {config : Config} {blocks : List Block} {start cursor : Int}
    {requests : List Request} :
    run config blocks start = (.ok requests, cursor) ↔
      (∀ r ∈ TableRegion.measure blocks, IntegerText.isWritable r.columns = true) ∧
        ∃ e, addBlocks config (TableRegion.measure blocks) 0 blocks { cursor := start } = .ok e ∧
          e.finish config start = .ok requests ∧ cursor = e.cursor := by
  rw [run]
  cases hcolumns : recorded ((TableRegion.measure blocks).map TableRegion.columns) with
  | error fault =>
    refine iff_of_false (by simp) ?_
    rintro ⟨h, -⟩
    have hok : recorded ((TableRegion.measure blocks).map TableRegion.columns) = .ok () :=
      recorded_eq_ok_iff.mpr (by simpa using h)
    cases hcolumns.symm.trans hok
  | ok u =>
    have hshown := recorded_eq_ok_iff.mp hcolumns
    simp only [List.forall_mem_map] at hshown
    simp only [and_iff_right hshown]
    cases addBlocks config (TableRegion.measure blocks) 0 blocks { cursor := start } with
    | error broken => simp
    | ok e => simp [Prod.mk.injEq, eq_comm]

end Generator

/-- The fault arose in a run, and not before it. -/
def GenerateFault.IsInner (fault : GenerateFault) : Prop := ∀ refused, fault ≠ .input refused

theorem isInner_of_recorded {shown : List Int} {fault : GenerateFault}
    (h : recorded shown = .error fault) : fault.IsInner := by
  rw [recorded] at h
  split at h
  · cases h
  · obtain rfl := Except.error.inj h
    exact fun refused => nofun

theorem isInner_of_mapError {α : Type} {x : Except StyleFault α} {fault : GenerateFault}
    (h : x.mapError GenerateFault.style = .error fault) : fault.IsInner := by
  obtain ⟨styleFault, -, rfl⟩ := Except.mapError_eq_error_iff.mp h
  exact fun refused => nofun

theorem Block.isInner_of_requestsAt {config : Config} {region? : Option TableRegion} {start : Int}
    {b : Block} {fault : GenerateFault} (h : b.requestsAt config region? start = .error fault) :
    fault.IsInner := by
  unfold requestsAt at h
  rcases Except.bind_eq_error_iff.mp h with h | ⟨paragraph, -, h⟩
  · exact isInner_of_mapError h
  rcases Except.bind_eq_error_iff.mp h with h | ⟨-, -, h⟩
  · exact isInner_of_recorded h
  rcases Except.bind_eq_error_iff.mp h with h | ⟨text, -, h⟩
  · exact isInner_of_mapError h
  · cases h

namespace Emission

variable {config : Config} {e : Emission} {fault : GenerateFault}

theorem isInner_of_closeGroup (h : e.closeGroup config = .error fault) : fault.IsInner := by
  unfold closeGroup at h
  split at h
  · cases h
  · split at h
    · obtain rfl := Except.error.inj h
      exact fun refused => nofun
    · cases h

theorem isInner_of_addMembership {b : Block} {start : Int}
    (h : e.addMembership config b start = .error fault) : fault.IsInner := by
  unfold addMembership at h
  split at h
  · cases h
  · unfold addItem at h
    split at h
    · split at h
      · cases h
      · cases hclose : e.closeGroup config with
        | error inner =>
          rw [hclose] at h
          obtain rfl := Except.error.inj h
          exact isInner_of_closeGroup hclose
        | ok closed => rw [hclose] at h; cases h
    · cases h

theorem isInner_of_insertBlock {region? : Option TableRegion} {b : Block}
    (h : e.insertBlock config region? b = .error fault) : fault.IsInner := by
  unfold insertBlock at h
  rcases Except.bind_eq_error_iff.mp h with h | ⟨before, -, h⟩
  · unfold closeGroupBefore at h
    split at h
    · cases h
    · exact isInner_of_closeGroup h
  rcases Except.bind_eq_error_iff.mp h with h | ⟨own, -, h⟩
  · exact Block.isInner_of_requestsAt h
  rcases Except.bind_eq_error_iff.mp h with h | ⟨after, -, h⟩
  · exact isInner_of_addMembership h
  · cases h

theorem isInner_of_addBlock {region? : Option TableRegion} {b : Block} {cursor : Int}
    (h : e.addBlock config region? b = .error (fault, cursor)) : fault.IsInner := by
  unfold addBlock at h
  split at h
  · next hinsert =>
    cases h
    exact isInner_of_insertBlock hinsert
  · split at h
    · next hrecord =>
      cases h
      exact isInner_of_recorded hrecord
    · cases h

theorem isInner_of_addBlocks {regions : List TableRegion} {index : Nat} {blocks : List Block}
    {cursor : Int} (h : addBlocks config regions index blocks e = .error (fault, cursor)) :
    fault.IsInner := by
  induction blocks generalizing index e with
  | nil => cases h
  | cons b blocks ih =>
    rw [addBlocks] at h
    split at h
    · next hadd =>
      cases h
      exact isInner_of_addBlock hadd
    · exact ih h

end Emission

/-- What breaks a run off is not the start index. -/
theorem Generator.isInner_of_run {config : Config} {blocks : List Block} {start : Int}
    {fault : GenerateFault} (h : (run config blocks start).1 = .error fault) : fault.IsInner := by
  unfold run at h
  dsimp only at h
  split at h
  · next hcolumns =>
    cases h
    exact isInner_of_recorded hcolumns
  · split at h
    · next hadd =>
      cases h
      exact Emission.isInner_of_addBlocks hadd
    · unfold Emission.finish at h
      rcases Except.bind_eq_error_iff.mp h with h | ⟨closed, -, h⟩
      · exact Emission.isInner_of_closeGroup h
      rcases Except.bind_eq_error_iff.mp h with h | ⟨-, -, h⟩
      · exact isInner_of_recorded h
      · cases h

end MarkupCompiler
