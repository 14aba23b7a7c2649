import MarkupCompiler.Style.ParagraphStyle

/-!
# Field masks

The field mask of a style names the members of the style object, each once, in the order of the
object and with commas between them. The names hold no commas, so that cutting the mask at its
commas gives the names back, unless the style is empty.
-/

namespace MarkupCompiler

/-- The mask names exactly the members of an object that is not empty. -/
structure Masks (mask : String) (members : List (String × Json)) : Prop where
  ne_nil : members ≠ []
  mask_ne : mask ≠ ""
  names_eq : mask.toList.splitOn ',' = members.map fun member => member.1.toList
  nodup : (members.map Prod.fst).Nodup

theorem keys_presentMembers_sublist (slots : List (String × Option Json)) :
    ((presentMembers slots).map Prod.fst).Sublist (slots.map Prod.fst) := by
  induction slots with
  | nil => exact List.Sublist.refl _
  | cons slot slots ih =>
    obtain ⟨key, value?⟩ := slot
    cases value? with
    | none => exact ih.cons _
    | some value => exact ih.cons_cons _

/-- Members with different names that are words without commas are named by their mask. -/
theorem masks_of_sublist {members : List (String × Json)} {names : List String}
    (hmembers : members ≠ []) (hsub : (members.map Prod.fst).Sublist names) (hnodup : names.Nodup)
    (hnames : ∀ name ∈ names, name ≠ "" ∧ ',' ∉ name.toList) :
    Masks (",".intercalate (members.map Prod.fst)) members := by
  have hcut : (",".intercalate (members.map Prod.fst)).toList.splitOn ',' =
      members.map fun member => member.1.toList := by
    rw [String.toList_intercalate, List.map_map]
    refine List.splitOn_intercalate ',' (fun name hname => ?_) (by simpa using hmembers)
    obtain ⟨member, hmember, rfl⟩ := List.mem_map.mp hname
    exact (hnames _ (hsub.subset (List.mem_map_of_mem hmember))).2
  constructor
  · exact hmembers
  · intro hempty
    -- The mask of an empty text would be one empty name.
    rw [hempty] at hcut
    obtain ⟨member, rest, rfl⟩ := List.exists_cons_of_ne_nil hmembers
    have hname := (hnames _ (hsub.subset List.mem_cons_self)).1
    have hhead : ([] : List Char) = member.1.toList := (List.cons.inj hcut).1
    exact hname (String.toList_inj.mp hhead.symm)
  · exact hcut
  · exact hnodup.sublist hsub

namespace TextStyle

theorem members_ne_nil {s : TextStyle} (h : s.isEmpty = false) : s.members ≠ [] := by
  intro hnil
  have hnone := List.filterMap_eq_nil_iff.mp hnil
  simp only [List.forall_mem_cons, Option.map_eq_none_iff] at hnone
  obtain ⟨hbold, hitalic, hunderline, hstrike, hlink, hfront, hback, hfont, hsize, -⟩ := hnone
  rw [isEmpty, hbold, hitalic, hunderline, hstrike, hlink, hfront, hback, hfont, hsize] at h
  exact absurd h (by decide)

/-- The names of all members that the object of a text style can have. -/
def memberNames : List String :=
  ["bold", "italic", "underline", "strikethrough", "link", "foregroundColor", "backgroundColor",
    "weightedFontFamily", "fontSize"]

theorem masks_fields {s : TextStyle} (h : s.isEmpty = false) : Masks s.fields s.members := by
  have hsub : (s.members.map Prod.fst).Sublist memberNames := keys_presentMembers_sublist _
  exact masks_of_sublist (members_ne_nil h) hsub (by decide) (by decide)

end TextStyle

namespace ParagraphStyle

theorem members_ne_nil {s : ParagraphStyle} (h : s.isEmpty = false) : s.members ≠ [] := by
  intro hnil
  have hnone := List.filterMap_eq_nil_iff.mp hnil
  simp only [List.forall_mem_cons, Option.map_eq_none_iff] at hnone
  obtain ⟨hname, halignment, hstart, hfirst, -⟩ := hnone
  rw [isEmpty, hname, halignment, hstart, hfirst] at h
  exact absurd h (by decide)

/-- The names of all members that the object of a paragraph style can have. -/
def memberNames : List String := ["namedStyleType", "alignment", "indentStart", "indentFirstLine"]

theorem masks_fields {s : ParagraphStyle} (h : s.isEmpty = false) : Masks s.fields s.members := by
  have hsub : (s.members.map Prod.fst).Sublist memberNames := keys_presentMembers_sublist _
  exact masks_of_sublist (members_ne_nil h) hsub (by decide) (by decide)

end ParagraphStyle

end MarkupCompiler
