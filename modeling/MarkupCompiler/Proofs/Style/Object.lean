import MarkupCompiler.Proofs.Json.Same
import MarkupCompiler.Proofs.Style.Mask
import MarkupCompiler.Proofs.Style.ParagraphSlot
import Mathlib.Data.List.Nodup

/-!
# Style objects

Styles of both kinds are written slot by slot. A slot that is present gives one member, under a
name of its own and in a form that tells its value; a slot that is missing gives none. So the
object tells every slot, the mask names the members, and what merging does to the slots it does to
the members.
-/

namespace MarkupCompiler

/-! ## What a mask names -/

/-- The names between the commas of a mask; the empty mask has none. -/
def maskNames (mask : String) : List String :=
  if mask = "" then [] else (mask.toList.splitOn ',').map String.ofList

theorem Masks.maskNames_eq {mask : String} {members : List (String × Json)}
    (h : Masks mask members) : maskNames mask = members.map Prod.fst := by
  rw [maskNames, if_neg h.mask_ne, h.names_eq, List.map_map]
  exact List.map_congr_left fun member _ => String.ofList_toList

/-! ## Members -/

theorem lookup_eq_some_iff_mem {members : List (String × Json)}
    (h : (members.map Prod.fst).Nodup) {name : String} {value : Json} :
    members.lookup name = some value ↔ (name, value) ∈ members := by
  induction members with
  | nil => simp
  | cons member members ih =>
    obtain ⟨key, part⟩ := member
    obtain ⟨hnew, hrest⟩ := List.nodup_cons.mp h
    rw [List.lookup_cons, List.mem_cons]
    by_cases hname : name = key
    · subst hname
      have hother : (name, value) ∉ members := fun hmem => hnew (List.mem_map.mpr ⟨_, hmem, rfl⟩)
      simp [hother, eq_comm]
    · simp [hname, beq_eq_false_iff_ne.mpr hname, ih hrest]

theorem mem_names_iff {members : List (String × Json)} {name : String} :
    name ∈ members.map Prod.fst ↔ (members.lookup name).isSome = true := by
  induction members with
  | nil => simp
  | cons member members ih =>
    rw [List.map_cons, List.mem_cons, ih, List.lookup_cons]
    by_cases hname : name = member.1
    · simp [hname]
    · simp [hname, beq_eq_false_iff_ne.mpr hname]

/-! ## Tables of slots -/

/-- How styles of a kind are written: the slots in their order, the names of their members, and the
form of their values. -/
structure StyleTable (κ : Type) where
  slots : List κ
  key : κ → String
  write : κ → SlotValue → Json
  complete : ∀ k, k ∈ slots
  distinct : (slots.map key).Nodup
  words : ∀ name ∈ slots.map key, name ≠ "" ∧ ',' ∉ name.toList
  write_inj : ∀ k v w, Json.Same (write k v) (write k w) → v = w

namespace StyleTable

variable {κ : Type} (table : StyleTable κ)

def members (value? : κ → Option SlotValue) : List (String × Json) :=
  presentMembers (table.slots.map fun k => (table.key k, (value? k).map (table.write k)))

theorem key_injective : Function.Injective table.key := fun k k' h =>
  List.inj_on_of_nodup_map table.distinct (table.complete k) (table.complete k') h

variable (value? : κ → Option SlotValue)

theorem names_sublist :
    ((table.members value?).map Prod.fst).Sublist (table.slots.map table.key) := by
  have h := keys_presentMembers_sublist
    (table.slots.map fun k => (table.key k, (value? k).map (table.write k)))
  rwa [List.map_map] at h

theorem nodup_names : ((table.members value?).map Prod.fst).Nodup :=
  table.distinct.sublist (table.names_sublist value?)

theorem maskNames_eq : maskNames (",".intercalate ((table.members value?).map Prod.fst)) =
    (table.members value?).map Prod.fst := by
  by_cases hmembers : table.members value? = []
  · rw [hmembers]
    rfl
  · have hmasks := masks_of_sublist hmembers (table.names_sublist value?) table.distinct table.words
    exact hmasks.maskNames_eq

theorem mem_members {name : String} {part : Json} : (name, part) ∈ table.members value? ↔
    ∃ k v, table.key k = name ∧ value? k = some v ∧ table.write k v = part := by
  rw [members, presentMembers, List.mem_filterMap]
  constructor
  · rintro ⟨slot, hslot, hmember⟩
    obtain ⟨k, -, rfl⟩ := List.mem_map.mp hslot
    obtain ⟨part', hpart, heq⟩ := Option.map_eq_some_iff.mp hmember
    obtain ⟨v, hv, rfl⟩ := Option.map_eq_some_iff.mp hpart
    obtain ⟨hname, hwritten⟩ := Prod.mk.inj heq
    exact ⟨k, v, hname, hv, hwritten⟩
  · rintro ⟨k, v, rfl, hv, rfl⟩
    refine ⟨_, List.mem_map_of_mem (table.complete k), ?_⟩
    rw [hv]
    rfl

/-- A slot is read back under its name. -/
theorem lookup_key (k : κ) :
    (table.members value?).lookup (table.key k) = (value? k).map (table.write k) := by
  ext part
  rw [lookup_eq_some_iff_mem (table.nodup_names value?), mem_members, Option.map_eq_some_iff]
  constructor
  · rintro ⟨k', v, hkey, hv, rfl⟩
    obtain rfl := table.key_injective hkey
    exact ⟨v, hv, rfl⟩
  · rintro ⟨v, hv, rfl⟩
    exact ⟨k, v, rfl, hv, rfl⟩

theorem lookup_of_no_key {name : String} (h : ∀ k, table.key k ≠ name) :
    (table.members value?).lookup name = none := by
  rw [List.lookup_eq_none_iff]
  rintro ⟨key, part⟩ hmem
  obtain ⟨k, v, hkey, -, -⟩ := (table.mem_members value?).mp hmem
  exact bne_iff_ne.mpr fun hname => h k (hkey.trans hname.symm)

/-- Values that are laid over others slot by slot are laid over them member by member. -/
theorem lookup_or (base top : κ → Option SlotValue) (name : String) :
    (table.members fun k => (top k).or (base k)).lookup name =
      ((table.members top).lookup name).or ((table.members base).lookup name) := by
  by_cases h : ∃ k, table.key k = name
  · obtain ⟨k, rfl⟩ := h
    rw [lookup_key, lookup_key, lookup_key, Option.map_or]
  · have hnone : ∀ k, table.key k ≠ name := not_exists.mp h
    rw [lookup_of_no_key _ _ hnone, lookup_of_no_key _ _ hnone, lookup_of_no_key _ _ hnone]
    rfl

variable {table}

/-- The object tells the values of all slots. -/
theorem eq_of_same {f g : κ → Option SlotValue}
    (h : Json.Same (.obj (table.members f)) (.obj (table.members g))) : f = g := by
  funext k
  have hrel : Option.Rel Json.Same ((table.members f).lookup (table.key k))
      ((table.members g).lookup (table.key k)) := h.get? (table.key k)
  rw [lookup_key, lookup_key] at hrel
  cases hf : f k with
  | none =>
    cases hg : g k with
    | none => rfl
    | some w => rw [hf, hg] at hrel; cases hrel
  | some v =>
    cases hg : g k with
    | none => rw [hf, hg] at hrel; cases hrel
    | some w =>
      rw [hf, hg] at hrel
      cases hrel with
      | some hsame => rw [table.write_inj k v w hsame]

end StyleTable

/-! ## Objects and masks of mergeable styles -/

/-- Styles that are merged and written as an object with a mask. The mask names the members of the
object, each once and in their order, and merging takes each member from the second object or else
from the first. -/
structure MaskedObjects {σ : Type} (merged : σ → σ → σ) (object : σ → Json) (mask : σ → String) :
    Prop where
  names : ∀ s, ∃ members, object s = .obj members ∧ maskNames (mask s) = members.map Prod.fst ∧
    (members.map Prod.fst).Nodup
  mem_merged : ∀ s t name, name ∈ maskNames (mask (merged s t)) ↔
    name ∈ maskNames (mask s) ∨ name ∈ maskNames (mask t)
  get?_merged : ∀ s t name,
    (object (merged s t)).get? name = ((object t).get? name).or ((object s).get? name)

structure StyleTable.Writes {κ σ : Type} (table : StyleTable κ) (slot : σ → κ → Option SlotValue)
    (merged : σ → σ → σ) (object : σ → Json) (mask : σ → String) : Prop where
  object_eq : ∀ s, object s = .obj (table.members (slot s))
  mask_eq : ∀ s, mask s = ",".intercalate ((table.members (slot s)).map Prod.fst)
  slot_merged : ∀ s t k, slot (merged s t) k = (slot t k).or (slot s k)
  slot_injective : Function.Injective slot

namespace StyleTable.Writes

variable {κ σ : Type} {table : StyleTable κ} {slot : σ → κ → Option SlotValue}
  {merged : σ → σ → σ} {object : σ → Json} {mask : σ → String}

theorem lookup_merged (h : table.Writes slot merged object mask) (s t : σ) (name : String) :
    (table.members (slot (merged s t))).lookup name =
      ((table.members (slot t)).lookup name).or ((table.members (slot s)).lookup name) := by
  rw [← table.lookup_or, funext (h.slot_merged s t)]

theorem maskedObjects (h : table.Writes slot merged object mask) :
    MaskedObjects merged object mask := by
  have hnames : ∀ s, maskNames (mask s) = (table.members (slot s)).map Prod.fst := by
    intro s
    rw [h.mask_eq, table.maskNames_eq]
  constructor
  · intro s
    exact ⟨_, h.object_eq s, hnames s, table.nodup_names _⟩
  · intro s t name
    rw [hnames, hnames, hnames, mem_names_iff, mem_names_iff, mem_names_iff, h.lookup_merged,
      Option.isSome_or, Bool.or_eq_true, or_comm]
  · intro s t name
    rw [h.object_eq, h.object_eq, h.object_eq]
    exact h.lookup_merged s t name

theorem eq_of_same (h : table.Writes slot merged object mask) {s t : σ}
    (hsame : Json.Same (object s) (object t)) : s = t := by
  rw [h.object_eq, h.object_eq] at hsame
  exact h.slot_injective (StyleTable.eq_of_same hsame)

end StyleTable.Writes

/-! ## The two kinds of styles -/

/-- A value in the form that most slots have. -/
def SlotValue.toJson : SlotValue → Json
  | .flag value => .bool value
  | .name value => .str value
  | .color value => value.toJson
  | .points value => pointsJson value

theorem Color.eq_of_same {c d : Color} (h : Json.Same c.toJson d.toJson) : c = d := by
  have hcolor := h.member "color" rfl rfl
  have hparts := hcolor.member "rgbColor" rfl rfl
  have hred := (hparts.member "red" rfl rfl).float_inj
  have hgreen := (hparts.member "green" rfl rfl).float_inj
  have hblue := (hparts.member "blue" rfl rfl).float_inj
  cases c
  cases d
  simp_all

theorem pointsJson_inj {x y : Float} (h : Json.Same (pointsJson x) (pointsJson y)) : x = y :=
  (h.member "magnitude" rfl rfl).float_inj

/-- The forms of values of different kinds differ as well. -/
theorem SlotValue.eq_of_same {v w : SlotValue} (h : Json.Same v.toJson w.toJson) : v = w := by
  cases v with
  | flag a =>
    cases w with
    | flag b => cases h; rfl
    | _ => cases h
  | name a =>
    cases w with
    | name b => rw [Json.Same.str_inj h]
    | _ => cases h
  | color c =>
    cases w with
    | color d => rw [Color.eq_of_same h]
    | points y => cases h.get? "color"
    | _ => cases h
  | points x =>
    cases w with
    | color d => cases h.get? "color"
    | points y => rw [pointsJson_inj h]
    | _ => cases h

namespace Slot

/-- The slots in the order in which they are written. -/
def all : List Slot :=
  [.bold, .italic, .underline, .strikethrough, .linkUrl, .foreground, .background, .fontFamily,
    .fontSize]

/-- The name of the member for a slot. -/
def key : Slot → String
  | .bold => "bold"
  | .italic => "italic"
  | .underline => "underline"
  | .strikethrough => "strikethrough"
  | .linkUrl => "link"
  | .foreground => "foregroundColor"
  | .background => "backgroundColor"
  | .fontFamily => "weightedFontFamily"
  | .fontSize => "fontSize"

/-- The form of a value in a slot: links and fonts have an object around them. -/
def write : Slot → SlotValue → Json
  | .linkUrl, v => .obj [("url", v.toJson)]
  | .fontFamily, v => .obj [("fontFamily", v.toJson), ("weight", .int 400)]
  | _, v => v.toJson

theorem eq_of_same_write (k : Slot) (v w : SlotValue) (h : Json.Same (k.write v) (k.write w)) :
    v = w := by
  cases k with
  | linkUrl => exact SlotValue.eq_of_same (h.member "url" rfl rfl)
  | fontFamily => exact SlotValue.eq_of_same (h.member "fontFamily" rfl rfl)
  | _ => exact SlotValue.eq_of_same h

def table : StyleTable Slot where
  slots := all
  key := key
  write := write
  complete k := by cases k <;> decide
  distinct := by decide
  words := by decide
  write_inj := eq_of_same_write

end Slot

namespace ParagraphSlot

def all : List ParagraphSlot := [.namedStyle, .alignment, .indentStart, .indentFirstLine]

def key : ParagraphSlot → String
  | .namedStyle => "namedStyleType"
  | .alignment => "alignment"
  | .indentStart => "indentStart"
  | .indentFirstLine => "indentFirstLine"

def table : StyleTable ParagraphSlot where
  slots := all
  key := key
  write _ v := v.toJson
  complete k := by cases k <;> decide
  distinct := by decide
  words := by decide
  write_inj _ _ _ := SlotValue.eq_of_same

end ParagraphSlot

namespace TextStyle

theorem members_eq (s : TextStyle) : s.members = Slot.table.members s.slot := by
  simp [members, StyleTable.members, Slot.table, Slot.all, Slot.key, Slot.write, slot,
    Function.comp_def, SlotValue.toJson]

theorem slot_injective : Function.Injective slot := by
  intro s t h
  have hflag : Function.Injective SlotValue.flag := fun _ _ => SlotValue.flag.inj
  have hname : Function.Injective SlotValue.name := fun _ _ => SlotValue.name.inj
  have hcolor : Function.Injective SlotValue.color := fun _ _ => SlotValue.color.inj
  have hpoints : Function.Injective SlotValue.points := fun _ _ => SlotValue.points.inj
  cases s
  cases t
  congr 1
  · exact Option.map_injective hflag (congrFun h .bold)
  · exact Option.map_injective hflag (congrFun h .italic)
  · exact Option.map_injective hflag (congrFun h .underline)
  · exact Option.map_injective hflag (congrFun h .strikethrough)
  · exact Option.map_injective hname (congrFun h .linkUrl)
  · exact Option.map_injective hcolor (congrFun h .foreground)
  · exact Option.map_injective hcolor (congrFun h .background)
  · exact Option.map_injective hname (congrFun h .fontFamily)
  · exact Option.map_injective hpoints (congrFun h .fontSize)

theorem writes : Slot.table.Writes slot merged toJson fields where
  object_eq s := congrArg Json.obj s.members_eq
  mask_eq s := by rw [fields, members_eq]
  slot_merged := slot_merged
  slot_injective := slot_injective

end TextStyle

namespace ParagraphStyle

theorem members_eq (s : ParagraphStyle) : s.members = ParagraphSlot.table.members s.slot := by
  simp [members, StyleTable.members, ParagraphSlot.table, ParagraphSlot.all, ParagraphSlot.key,
    slot, Function.comp_def, SlotValue.toJson]

theorem slot_injective : Function.Injective slot := by
  intro s t h
  have hname : Function.Injective SlotValue.name := fun _ _ => SlotValue.name.inj
  have hpoints : Function.Injective SlotValue.points := fun _ _ => SlotValue.points.inj
  cases s
  cases t
  congr 1
  · exact Option.map_injective hname (congrFun h .namedStyle)
  · exact Option.map_injective hname (congrFun h .alignment)
  · exact Option.map_injective hpoints (congrFun h .indentStart)
  · exact Option.map_injective hpoints (congrFun h .indentFirstLine)

theorem writes : ParagraphSlot.table.Writes slot merged toJson fields where
  object_eq s := congrArg Json.obj s.members_eq
  mask_eq s := by rw [fields, members_eq]
  slot_merged := slot_merged
  slot_injective := slot_injective

end ParagraphStyle

end MarkupCompiler
