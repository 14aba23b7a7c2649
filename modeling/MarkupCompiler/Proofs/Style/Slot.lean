import MarkupCompiler.Style.TextStyle

/-!
# Slots of text styles

A slot names one of the optional parts of a text style. Merging decides slot by slot: a slot takes
the value of the second style if that one has it, and keeps the value of the first otherwise.
-/

namespace MarkupCompiler

inductive Slot where
  | bold
  | italic
  | underline
  | strikethrough
  | linkUrl
  | foreground
  | background
  | fontFamily
  | fontSize
  deriving DecidableEq, Repr

/-- What a slot can hold. -/
inductive SlotValue where
  | flag (value : Bool)
  | name (value : String)
  | color (value : Color)
  | points (value : Float)
  deriving DecidableEq, Repr

namespace TextStyle

def slot (s : TextStyle) : Slot → Option SlotValue
  | .bold => s.bold.map .flag
  | .italic => s.italic.map .flag
  | .underline => s.underline.map .flag
  | .strikethrough => s.strikethrough.map .flag
  | .linkUrl => s.linkUrl.map .name
  | .foreground => s.foreground.map .color
  | .background => s.background.map .color
  | .fontFamily => s.fontFamily.map .name
  | .fontSize => s.fontSize.map .points

@[simp] theorem slot_empty (k : Slot) : ({} : TextStyle).slot k = none := by
  cases k <;> rfl

theorem slot_merged (base top : TextStyle) (k : Slot) :
    (base.merged top).slot k = (top.slot k).or (base.slot k) := by
  cases k <;> simp [slot, merged, Option.map_or]

theorem eq_empty_of_isEmpty {s : TextStyle} (h : s.isEmpty = true) : s = {} := by
  simp only [isEmpty, Bool.and_eq_true, Option.isNone_iff_eq_none] at h
  cases s
  simp_all

theorem merged_empty (s : TextStyle) : s.merged {} = s := by
  simp [merged]

theorem empty_merged (s : TextStyle) : ({} : TextStyle).merged s = s := by
  simp [merged]

theorem merged_assoc (a b c : TextStyle) : (a.merged b).merged c = a.merged (b.merged c) := by
  simp [merged, Option.or_assoc]

end TextStyle

end MarkupCompiler
