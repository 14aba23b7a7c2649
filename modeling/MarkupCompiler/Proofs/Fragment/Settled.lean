import MarkupCompiler.Proofs.Fragment.Offset
import MarkupCompiler.Proofs.Interval.Sorted
import MarkupCompiler.Proofs.Text.Spacing

/-!
# Settled buffers

A buffer that takes normal fragments only, with no boundary asked for, is settled: its flags say how
its text ends, and it has counted every character of its text but the separators. A fragment that
spacing made is put behind the text of such a buffer with the space that spacing puts there, and
intervals of the fragment keep their places in it.
-/

namespace MarkupCompiler.FragmentBuffer

/-- The flags of the buffer say how its text ends, and its counts add up. -/
structure Settled (b : FragmentBuffer) : Prop where
  preserve : b.preserve = false
  needsBoundary : b.needsBoundary = false
  atBlockStart : b.atBlockStart = b.text.isEmpty
  afterNewline : b.afterNewline = Text.endsWith (· == '\n') b.text
  pendingSpace : b.pendingSpace = Text.endsWith Text.isSolid b.text
  length : b.localLength + b.separators.length = b.text.length
  separators_lt : ∀ x ∈ b.separators, x < b.localLength

theorem settled_empty : Settled {} :=
  ⟨rfl, rfl, rfl, rfl, rfl, rfl, by simp⟩

/-- The space that a settled buffer puts before a fragment. -/
def seam (isSeparate : Bool) (fragment : Text) (b : FragmentBuffer) : Text :=
  if isSeparate && Text.endsWith Text.isSolid b.text && fragment.head? != some '\n' then [' ']
  else []

theorem addBoundary_of_settled {b : FragmentBuffer} (h : b.Settled) : b.addBoundary = b := by
  rw [addBoundary, h.needsBoundary, Bool.false_and]
  exact if_neg Bool.false_ne_true

theorem addSpace_of_settled {b : FragmentBuffer} (h : b.Settled) {fragment : Text}
    (hhead : fragment.head? ≠ some ' ') (isSeparate : Bool) :
    b.addSpace isSeparate fragment =
      { b with
        text := b.text ++ b.seam isSeparate fragment
        separators := b.separators ++ (b.seam isSeparate fragment).map fun _ => b.localLength } := by
  have hcond : (isSeparate && b.pendingSpace && !b.atBlockStart && !b.afterNewline &&
        b.text.getLast? != some ' ' && fragment.head? != some ' ' && fragment.head? != some '\n') =
      (isSeparate && Text.endsWith Text.isSolid b.text && fragment.head? != some '\n') := by
    rw [h.pendingSpace, h.atBlockStart, h.afterNewline]
    rcases List.eq_nil_or_concat' b.text with hnil | ⟨init, c, hc⟩
    · simp [hnil, Text.endsWith]
    · by_cases hsolid : Text.isSolid c = true
      · have hspace : (some c != some ' ') = true :=
          bne_iff_ne.mpr (mt Option.some.inj (Text.ne_of_isSolid hsolid rfl))
        have hline : (c == '\n') = false :=
          beq_eq_false_iff_ne.mpr (Text.ne_of_isSolid hsolid rfl)
        have hblank : (fragment.head? != some ' ') = true := by simpa using hhead
        have hne : (init ++ [c]).isEmpty = false := by simp
        simp only [hc, hne, hblank, Text.endsWith, List.getLast?_concat, Option.any_some, hsolid,
          hspace, hline, Bool.not_false, Bool.and_true]
      · rw [Bool.not_eq_true] at hsolid
        simp [hc, Text.endsWith, hsolid]
  rw [addSpace, seam, hcond]
  split
  · rfl
  · simp

/-- What a settled buffer is after a fragment that spacing made. -/
structure Appended (b : FragmentBuffer) (fragment seam : Text) (b' : FragmentBuffer) : Prop where
  settled : b'.Settled
  text : b'.text = b.text ++ seam ++ fragment
  ranges : b'.ranges = b.ranges
  separators : b'.separators = b.separators ++ seam.map fun _ => b.localLength

theorem append_of_settled {b : FragmentBuffer} (h : b.Settled) {ts : List Token}
    (hne : (Spacing.run {} ts).text ≠ []) (isSeparate : Bool) :
    b.Appended (Spacing.run {} ts).text (b.seam isSeparate (Spacing.run {} ts).text)
      (b.append (Spacing.run {} ts).text isSeparate) := by
  have hhead := Spacing.head?_text_run ts
  have hclean := Spacing.clean_run Spacing.clean_empty ts
  have hnormal : normalForm b.preserve (Spacing.run {} ts).text = (Spacing.run {} ts).text := by
    rw [normalForm, h.preserve]
    exact Spacing.join_map_normalize_text ts
  rw [Spacing.Clean] at hclean
  generalize (Spacing.run {} ts).text = fragment at *
  obtain ⟨c, hlast⟩ : ∃ c, fragment.getLast? = some c :=
    ⟨_, List.getLast?_eq_some_getLast hne⟩
  have happend : b.append fragment isSeparate =
      (b.addSpace isSeparate fragment).addFragment fragment := by
    rw [append, hnormal, addBoundary_of_settled h]
    exact if_neg (by simpa using hne)
  have hend : ∀ (before : Text) (p : Char → Bool), Text.endsWith p (before ++ fragment) = p c := by
    intro before p
    rw [Spacing.endsWith_append before hne, Text.endsWith, hlast, Option.any_some]
  rw [happend, addSpace_of_settled h hhead]
  refine ⟨⟨h.preserve, h.needsBoundary, ?_, ?_, ?_, ?_, ?_⟩, rfl, rfl, rfl⟩
  · simp [addFragment, hne]
  · simp only [addFragment, hend, hlast]
    rfl
  · simp only [addFragment, hend, hlast, h.preserve]
    rcases hclean c hlast with rfl | hsolid
    · rfl
    · have hline : c ≠ '\n' := Text.ne_of_isSpace hsolid rfl
      have hspace : c ≠ ' ' := Text.ne_of_isSpace hsolid rfl
      simp [Text.isSolid, hsolid, hline, hspace]
  · have hlength := h.length
    simp only [addFragment, List.length_append, List.length_map, Int.natCast_add]
    omega
  · have hpos : 0 < fragment.length := List.length_pos_iff.mpr hne
    intro x hx
    simp only [addFragment] at hx ⊢
    rcases List.mem_append.mp hx with hx | hx
    · have hlt := h.separators_lt x hx
      omega
    · obtain ⟨-, -, rfl⟩ := List.mem_map.mp hx
      omega

/-- Behind all separators, an offset in the buffer counts them all. -/
theorem toBufferOffset_of_all {b : FragmentBuffer} {offset : Int} {isStart : Bool}
    (h : ∀ x ∈ b.separators, Counts x offset isStart) :
    b.toBufferOffset offset isStart = offset + b.separators.length :=
  toBufferOffset_append (List.append_nil _).symm h (by simp)

/-- An interval of an appended fragment stands where the fragment stands. -/
theorem toBufferInterval_of_appended {b b' : FragmentBuffer} {fragment seam : Text}
    (hb : b.Settled) (h : b.Appended fragment seam b') {i : StyleInterval} {length : Int}
    (hi : i.Fits length) :
    b'.toBufferInterval b.localLength i = i.shifted (b.text ++ seam).length := by
  obtain ⟨hstart, hlt, -⟩ := hi
  have hle : ∀ x ∈ b'.separators, x ≤ b.localLength := by
    intro x hx
    rw [h.separators] at hx
    rcases List.mem_append.mp hx with hx | hx
    · exact Int.le_of_lt (hb.separators_lt x hx)
    · obtain ⟨-, -, rfl⟩ := List.mem_map.mp hx
      exact Int.le_refl _
  have hcount : (b'.separators.length : Int) = b.separators.length + seam.length := by
    rw [h.separators, List.length_append, List.length_map, Int.natCast_add]
  have hlength := hb.length
  have hstop : b'.toBufferOffset (b.localLength + i.stop) false =
      b.localLength + i.stop + b'.separators.length :=
    toBufferOffset_of_all fun x hx => Or.inl (by have := hle x hx; omega)
  have hfirst : b'.toBufferOffset (b.localLength + i.start) true =
      b.localLength + i.start + b'.separators.length :=
    toBufferOffset_of_all fun x hx => Or.inr ⟨rfl, by have := hle x hx; omega⟩
  rw [toBufferInterval, hfirst, hstop, hcount, StyleInterval.shifted, List.length_append,
    Int.natCast_add]
  congr 1
  · omega
  · omega

/-- Registering intervals that paint something sorts them in among the ranges. -/
theorem registerStyles_eq {b : FragmentBuffer} (hranges : StyleInterval.SortedByStart b.ranges)
    (offset : Int) {is : List StyleInterval}
    (h : ∀ i ∈ is, i.isEmpty = false ∧ i.style.isEmpty = false) :
    b.registerStyles offset is =
      { b with
        ranges := StyleInterval.sortByStart (b.ranges ++ is.map (b.toBufferInterval offset)) } := by
  have hfilter : (is.filter fun i => !i.isEmpty && !i.style.isEmpty) = is := by
    refine List.filter_eq_self.mpr fun i hi => ?_
    rw [(h i hi).1, (h i hi).2]
    rfl
  rw [registerStyles, hfilter]
  cases is with
  | nil =>
    rw [List.map_nil, List.append_nil, StyleInterval.sortByStart_eq_self hranges]
    rfl
  | cons i is => rfl

/-- The intervals of an appended fragment are sorted in at the places where the fragment stands. -/
theorem registerStyles_of_appended {b b' : FragmentBuffer} {fragment seam : Text} (hb : b.Settled)
    (h : b.Appended fragment seam b') (hranges : StyleInterval.SortedByStart b.ranges)
    {is : List StyleInterval} {length : Int}
    (his : ∀ i ∈ is, i.Fits length ∧ i.style.isEmpty = false) :
    b'.registerStyles b.localLength is =
      { b' with
        ranges := StyleInterval.sortByStart
          (b.ranges ++ is.map (StyleInterval.shifted (b.text ++ seam).length)) } := by
  have hplain : ∀ i ∈ is, i.isEmpty = false ∧ i.style.isEmpty = false := by
    intro i hi
    obtain ⟨hfits, hstyle⟩ := his i hi
    exact ⟨by simpa [StyleInterval.isEmpty] using hfits.start_lt_stop, hstyle⟩
  have hmoved : is.map (b'.toBufferInterval b.localLength) =
      is.map (StyleInterval.shifted (b.text ++ seam).length) :=
    List.map_congr_left fun i hi => toBufferInterval_of_appended hb h (his i hi).1
  rw [registerStyles_eq (h.ranges ▸ hranges), hmoved, h.ranges]
  exact hplain

/-- What a buffer registers does not unsettle it. -/
theorem Settled.with_ranges {b : FragmentBuffer} (h : b.Settled) (ranges : List StyleInterval) :
    Settled { b with ranges := ranges } :=
  ⟨h.preserve, h.needsBoundary, h.atBlockStart, h.afterNewline, h.pendingSpace, h.length,
    h.separators_lt⟩

end MarkupCompiler.FragmentBuffer
