import MarkupCompiler.Json.Value
import Mathlib.Data.List.Forall2

/-!
# Values up to the order of members

An object is read by the names of its members, in whatever order they come. So two values are the
same if they are built alike from the same parts, where objects are compared member by member.
-/

namespace MarkupCompiler.Json

/-- The same value, whatever the order of the members of objects. -/
inductive Same : Json → Json → Prop
  | null : Same .null .null
  | bool (b : Bool) : Same (.bool b) (.bool b)
  | int (n : Int) : Same (.int n) (.int n)
  | float (x : Float) : Same (.float x) (.float x)
  | str (s : String) : Same (.str s) (.str s)
  | arr {items items' : List Json} (h : List.Forall₂ Same items items') :
    Same (.arr items) (.arr items')
  | obj {members members' : List (String × Json)}
    (h : ∀ name, Option.Rel Same (members.lookup name) (members'.lookup name)) :
    Same (.obj members) (.obj members')

mutual

theorem same_refl : ∀ value : Json, Same value value
  | .null => .null
  | .bool b => .bool b
  | .int n => .int n
  | .float x => .float x
  | .str s => .str s
  | .arr items => .arr (sameItems_refl items)
  | .obj members => .obj fun name => sameMember_refl name members

theorem sameItems_refl : ∀ items : List Json, List.Forall₂ Same items items
  | [] => .nil
  | item :: items => .cons (same_refl item) (sameItems_refl items)

theorem sameMember_refl (name : String) :
    ∀ members : List (String × Json),
      Option.Rel Same (members.lookup name) (members.lookup name)
  | [] => .none
  | (key, value) :: members => by
    rw [List.lookup_cons]
    split
    · exact .some (same_refl value)
    · exact sameMember_refl name members

end

namespace Same

theorem get? {value value' : Json} (h : Same value value') (name : String) :
    Option.Rel Same (value.get? name) (value'.get? name) := by
  cases h with
  | obj hmembers => exact hmembers name
  | _ => exact .none

/-- The values of a member that both objects have are the same. -/
theorem member {value value' part part' : Json} (h : Same value value') (name : String)
    (hpart : value.get? name = some part) (hpart' : value'.get? name = some part') :
    Same part part' := by
  have hrel := h.get? name
  rw [hpart, hpart'] at hrel
  cases hrel with
  | some hparts => exact hparts

/-- Objects with one member each are the same only if the members have one name. -/
theorem of_singleton {name name' : String} {part part' : Json}
    (h : Same (.obj [(name, part)]) (.obj [(name', part')])) : name = name' ∧ Same part part' := by
  have hrel := h.get? name
  simp only [Json.get?, List.lookup_cons, List.lookup_nil, beq_self_eq_true] at hrel
  by_cases hname : name = name'
  · subst hname
    rw [beq_self_eq_true] at hrel
    cases hrel with
    | some hparts => exact ⟨rfl, hparts⟩
  · rw [beq_eq_false_iff_ne.mpr hname] at hrel
    cases hrel

theorem int_inj {m n : Int} (h : Same (.int m) (.int n)) : m = n := by
  cases h
  rfl

theorem str_inj {s t : String} (h : Same (.str s) (.str t)) : s = t := by
  cases h
  rfl

theorem float_inj {x y : Float} (h : Same (.float x) (.float y)) : x = y := by
  cases h
  rfl

end Same

end MarkupCompiler.Json
