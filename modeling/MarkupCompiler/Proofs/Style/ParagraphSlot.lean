import MarkupCompiler.Config.Basic
import MarkupCompiler.Proofs.Style.Slot

/-!
# Slots of paragraph styles

As for text styles, merging decides slot by slot. So the overrides of a configuration decide the
slots that they have, the one for headings before the one for all paragraphs, and leave all other
slots to the markup.
-/

namespace MarkupCompiler

inductive ParagraphSlot where
  | namedStyle
  | alignment
  | indentStart
  | indentFirstLine
  deriving DecidableEq, Repr

def ParagraphSlot.isIndent : ParagraphSlot → Bool
  | .indentStart | .indentFirstLine => true
  | .namedStyle | .alignment => false

namespace ParagraphStyle

def slot (s : ParagraphStyle) : ParagraphSlot → Option SlotValue
  | .namedStyle => s.namedStyle.map .name
  | .alignment => s.alignment.map .name
  | .indentStart => s.indentStart.map .points
  | .indentFirstLine => s.indentFirstLine.map .points

theorem slot_merged (base top : ParagraphStyle) (k : ParagraphSlot) :
    (base.merged top).slot k = (top.slot k).or (base.slot k) := by
  cases k <;> simp [slot, merged, Option.map_or]

theorem empty_merged (s : ParagraphStyle) : ({} : ParagraphStyle).merged s = s := by
  simp [merged]

theorem eq_empty_of_isEmpty {s : ParagraphStyle} (h : s.isEmpty = true) : s = {} := by
  simp only [isEmpty, Bool.and_eq_true, Option.isNone_iff_eq_none] at h
  obtain ⟨⟨⟨hname, halignment⟩, hstart⟩, hfirst⟩ := h
  cases s
  simp_all

def isHeading (s : ParagraphStyle) : Bool :=
  match s.headingRank with
  | .ok (some _) => true
  | _ => false

end ParagraphStyle

namespace OptionValue

def paragraphSlot : OptionValue → ParagraphSlot → Option SlotValue
  | .paragraphStyle style, k => style.slot k
  | _, _ => none

theorem slot_overParagraph {base style : ParagraphStyle} {o : OptionValue}
    (h : o.overParagraph base = .ok style) (k : ParagraphSlot) :
    style.slot k = (o.paragraphSlot k).or (base.slot k) := by
  cases o with
  | unset =>
    obtain rfl := Except.ok.inj h
    rfl
  | paragraphStyle top =>
    rw [← Except.ok.inj h]
    exact ParagraphStyle.slot_merged base top k
  | textStyle top =>
    rw [overParagraph] at h
    cases hslot : top.firstSlot? with
    | none =>
      rw [hslot] at h
      obtain rfl := Except.ok.inj h
      rfl
    | some name =>
      rw [hslot] at h
      exact absurd h (by simp)
  | scalar value => exact absurd h (by simp [overParagraph])

end OptionValue

namespace Config

/-- The value that the overrides give a slot: for headings, their own override comes first. -/
def overrideSlot (config : Config) (isHeading : Bool) (k : ParagraphSlot) : Option SlotValue :=
  if isHeading then (config.headingDefault.paragraphSlot k).or (config.paragraphDefault.paragraphSlot k)
  else config.paragraphDefault.paragraphSlot k

/-- The overrides decide the slots that they have, and the markup all others. -/
theorem slot_paragraphStyleFor {config : Config} {computed style : ParagraphStyle}
    (h : config.paragraphStyleFor computed = .ok style) (k : ParagraphSlot) :
    style.slot k = (config.overrideSlot computed.isHeading k).or (computed.slot k) := by
  rw [paragraphStyleFor] at h
  cases hdefault : config.paragraphDefault.overParagraph computed with
  | error fault => rw [hdefault] at h; exact absurd h (by simp)
  | ok base =>
    have hbase := OptionValue.slot_overParagraph hdefault k
    rw [hdefault] at h
    rw [overrideSlot, ParagraphStyle.isHeading]
    cases hrank : computed.headingRank with
    | error fault => rw [hrank] at h; exact absurd h (by simp)
    | ok rank? =>
      rw [hrank] at h
      cases rank? with
      | none =>
        obtain rfl := Except.ok.inj h
        exact hbase
      | some rank =>
        have hstyle := OptionValue.slot_overParagraph h k
        rw [hstyle, hbase]
        exact (Option.or_assoc ..).symm

end Config

end MarkupCompiler
