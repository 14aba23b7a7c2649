import MarkupCompiler.FragmentBuffer

/-!
# Offsets among separators

Halving finds the place of a value in a list of entries that stand before it and entries that do
not. So an offset in the buffer is the local offset together with the number of separators before
it, as long as the list of separators can be cut there.
-/

namespace MarkupCompiler.FragmentBuffer

/-- The search finds where the entries that stand before the value end. -/
theorem searchPlace_append {isBefore : Int → Bool} {before after : List Int}
    (hbefore : ∀ x ∈ before, isBefore x = true) (hafter : ∀ x ∈ after, isBefore x = false)
    {fuel low high : Nat} (hlow : low ≤ before.length) (hhigh : before.length ≤ high)
    (hbound : high ≤ (before ++ after).length) (hfuel : high - low ≤ fuel) :
    searchPlace isBefore (before ++ after) fuel low high = before.length := by
  induction fuel generalizing low high with
  | zero =>
    rw [searchPlace]
    omega
  | succ fuel ih =>
    rw [searchPlace]
    by_cases hlt : low < high
    · rw [if_pos hlt]
      by_cases hmiddle : (low + high) / 2 < before.length
      · have hentry : ((before ++ after)[(low + high) / 2]?).any isBefore = true := by
          rw [List.getElem?_append_left hmiddle, List.getElem?_eq_getElem hmiddle, Option.any_some]
          exact hbefore _ (List.getElem_mem hmiddle)
        simp only [hentry, if_true]
        apply ih
        · omega
        · omega
        · exact hbound
        · omega
      · have hplace : (low + high) / 2 - before.length < after.length := by
          rw [List.length_append] at hbound
          omega
        have hentry : ((before ++ after)[(low + high) / 2]?).any isBefore = false := by
          rw [List.getElem?_append_right (by omega), List.getElem?_eq_getElem hplace,
            Option.any_some]
          exact hafter _ (List.getElem_mem hplace)
        simp only [hentry, Bool.false_eq_true, if_false]
        apply ih
        · exact hlow
        · omega
        · omega
        · omega
    · rw [if_neg hlt]
      omega

/-- Whether a separator at local offset `x` counts for the local offset of a start or an end. -/
def Counts (x offset : Int) (isStart : Bool) : Prop := x < offset ∨ isStart = true ∧ x ≤ offset

/-- An offset in the buffer counts the separators up to it. -/
theorem toBufferOffset_append {b : FragmentBuffer} {offset : Int} {isStart : Bool}
    {before after : List Int} (h : b.separators = before ++ after)
    (hbefore : ∀ x ∈ before, Counts x offset isStart)
    (hafter : ∀ x ∈ after, ¬Counts x offset isStart) :
    b.toBufferOffset offset isStart = offset + before.length := by
  have hcounts : ∀ x, (if isStart = true then x ≤ offset else x < offset) ↔
      Counts x offset isStart := by
    intro x
    unfold Counts
    cases isStart with
    | true =>
      simp only [if_true, true_and]
      omega
    | false => simp
  unfold toBufferOffset
  simp only [h]
  rw [searchPlace_append]
  · intro x hx
    exact decide_eq_true ((hcounts x).mpr (hbefore x hx))
  · intro x hx
    exact decide_eq_false (mt (hcounts x).mp (hafter x hx))
  · exact Nat.zero_le _
  · simp
  · exact Nat.le_refl _
  · exact Nat.sub_le _ _

end MarkupCompiler.FragmentBuffer
