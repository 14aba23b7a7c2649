import MarkupCompiler.Proofs.Style.Object
import MarkupCompiler.Request.Basic

/-!
# Requests as objects

The document service takes each kind of request as an object under a name of its own. The object
holds every part of the request, so that it belongs to one request only, however its members are
ordered. The styles among these parts go along with masks that name their members.
-/

namespace MarkupCompiler

namespace RequestShape

theorem same_range {start stop start' stop' : Json}
    (h : Json.Same (range start stop) (range start' stop')) :
    Json.Same start start' ∧ Json.Same stop stop' :=
  ⟨h.member "startIndex" rfl rfl, h.member "endIndex" rfl rfl⟩

theorem same_location {index index' : Json} (h : Json.Same (location index) (location index')) :
    Json.Same index index' := h.member "index" rfl rfl

theorem bulletPreset_injective : ∀ {a b : Bool}, bulletPreset a = bulletPreset b → a = b := by
  decide

end RequestShape

open RequestShape (same_range same_location bulletPreset_injective)

namespace Request

/-- A request is the only one with its object. -/
theorem eq_of_same {r s : Request} (h : Json.Same r.toJson s.toJson) : r = s := by
  -- Requests of two kinds differ in the name of the one member that their objects have.
  cases r with
  | insertText position text =>
    cases s with
    | insertText position' text' =>
      obtain ⟨-, hcontent⟩ := h.of_singleton
      have hposition := (same_location (hcontent.member "location" rfl rfl)).int_inj
      have htext := String.ofList_injective (hcontent.member "text" rfl rfl).str_inj
      rw [hposition, htext]
    | _ => exact absurd h.of_singleton.1 (by decide)
  | setParagraphStyle start stop style =>
    cases s with
    | setParagraphStyle start' stop' style' =>
      obtain ⟨-, hcontent⟩ := h.of_singleton
      obtain ⟨hstart, hstop⟩ := same_range (hcontent.member "range" rfl rfl)
      have hstyle := ParagraphStyle.writes.eq_of_same (hcontent.member "paragraphStyle" rfl rfl)
      rw [hstart.int_inj, hstop.int_inj, hstyle]
    | _ => exact absurd h.of_singleton.1 (by decide)
  | setTextStyle start stop style =>
    cases s with
    | setTextStyle start' stop' style' =>
      obtain ⟨-, hcontent⟩ := h.of_singleton
      obtain ⟨hstart, hstop⟩ := same_range (hcontent.member "range" rfl rfl)
      have hstyle := TextStyle.writes.eq_of_same (hcontent.member "textStyle" rfl rfl)
      rw [hstart.int_inj, hstop.int_inj, hstyle]
    | _ => exact absurd h.of_singleton.1 (by decide)
  | setListBullet start stop isOrdered =>
    cases s with
    | setListBullet start' stop' isOrdered' =>
      obtain ⟨-, hcontent⟩ := h.of_singleton
      obtain ⟨hstart, hstop⟩ := same_range (hcontent.member "range" rfl rfl)
      have hpreset := bulletPreset_injective (hcontent.member "bulletPreset" rfl rfl).str_inj
      rw [hstart.int_inj, hstop.int_inj, hpreset]
    | _ => exact absurd h.of_singleton.1 (by decide)
  | createTable position rows columns =>
    cases s with
    | createTable position' rows' columns' =>
      obtain ⟨-, hcontent⟩ := h.of_singleton
      have hposition := (same_location (hcontent.member "location" rfl rfl)).int_inj
      have hrows := (hcontent.member "rows" rfl rfl).int_inj
      have hcolumns := (hcontent.member "columns" rfl rfl).int_inj
      rw [hposition, hrows, hcolumns]
    | _ => exact absurd h.of_singleton.1 (by decide)

theorem same_toJson_iff (r s : Request) : Json.Same r.toJson s.toJson ↔ r = s := by
  constructor
  · exact eq_of_same
  · rintro rfl
    exact Json.same_refl r.toJson

/--
Writing requests as objects loses nothing: two requests have the same object, up to the order of
members, only if they are equal. The mask of a style of either kind names the members of the
style's object, each once and in their order. The mask of two merged styles names what the mask of
one of them does, and the object has the members of the second style and those that only the first
one has.
-/
theorem same_toJson_iff_and_styles_masked :
    (∀ r s : Request, Json.Same r.toJson s.toJson ↔ r = s) ∧
      MaskedObjects TextStyle.merged TextStyle.toJson TextStyle.fields ∧
      MaskedObjects ParagraphStyle.merged ParagraphStyle.toJson ParagraphStyle.fields :=
  ⟨same_toJson_iff, TextStyle.writes.maskedObjects, ParagraphStyle.writes.maskedObjects⟩

/-- A slot that says no, or nothing, is present all the same. -/
example : ({ bold := some true, linkUrl := some "a" } : TextStyle).merged
      { bold := some false, linkUrl := some "", fontSize := some 0.0 } =
        { bold := some false, linkUrl := some "", fontSize := some 0.0 } ∧
    maskNames
      ({ bold := some false, linkUrl := some "", fontSize := some 0.0 } : TextStyle).fields =
        ["bold", "link", "fontSize"] := by
  decide

end Request

end MarkupCompiler
