import MarkupCompiler.Proofs.Collected.Exact
import MarkupCompiler.Proofs.Fragment.Settled

/-!
# Joined pieces

Loose content is joined from pieces, each collected on its own. A piece is put into normal form once
more when it is joined, and its intervals move with the place where it stands; what is put between
two pieces is whitespace. Only a piece that its normal form does not change is sure to stay under its
intervals.
-/

namespace MarkupCompiler

/-- The intervals paint something on the text, and the text has an end that spacing keeps. -/
structure CollectedText.Sound (collected : CollectedText) : Prop where
  fits : ∀ i ∈ collected.intervals, i.Fits collected.text.length
  styled : ∀ i ∈ collected.intervals, i.style.isEmpty = false
  sorted : StyleInterval.SortedByStart collected.intervals
  starts_solid : ∀ i ∈ collected.intervals, ∃ c,
    collected.text[i.start.toNat]? = some c ∧ Text.isSolid c = true
  ends : ∀ c, collected.text.getLast? = some c → Text.isSolid c = true ∨ c = '\n'

/-- The intervals of an element are sound, and its text does not end in a space. -/
theorem CollectedText.sound_ofElement (skipLists preserve : Bool) (tag : String)
    (attributes : Attributes) (children : List Node) :
    (ofElement skipLists preserve tag attributes children).Sound := by
  obtain ⟨hsolids, hintervals⟩ := ofElement_eq skipLists preserve tag attributes children
  have hwithin := Node.allContributions_within skipLists tag attributes children
  have howns := Node.allContributions_own skipLists tag attributes children
  have hfits := Contribution.intervalsIn_fits
    (allContributions_within_text skipLists preserve tag attributes children)
  refine ⟨?_, ?_, ?_, ?_, ?_⟩
  · intro i hi
    rw [hintervals, (StyleInterval.sortByStart_perm _).mem_iff] at hi
    exact (hfits i hi).1
  · intro i hi
    rw [hintervals, (StyleInterval.sortByStart_perm _).mem_iff] at hi
    exact (hfits i hi).2
  · rw [hintervals]
    exact StyleInterval.sortedByStart_sortByStart _
  · intro i hi
    rw [hintervals, (StyleInterval.sortByStart_perm _).mem_iff] at hi
    obtain ⟨m, hm, rfl⟩ := List.mem_map.mp hi
    obtain ⟨hmem, hstyled⟩ := List.mem_filter.mp hm
    rw [Contribution.after_zero]
    exact (marks_intervalIn hsolids hstyled (hwithin m hmem) (howns m hmem)).starts_solid
  · intro c hc
    have hlast := Text.getLast?_trimEnd hc
    by_cases hspace : Text.isSpace c = true
    · right
      have hline := (Bool.and_eq_false_iff.mp hlast).resolve_left (by simp [hspace])
      simpa using (Bool.or_eq_false_iff.mp hline).2
    · left
      simpa [Text.isSolid] using hspace

/-- A normalized text without intervals is sound. -/
theorem CollectedText.sound_text (content : Text) : Sound ⟨Text.normalize content, []⟩ := by
  refine ⟨by simp, by simp, List.Pairwise.nil, by simp, fun c hc => ?_⟩
  simp only [Spacing.normalize_eq_run] at hc
  rcases Spacing.clean_run Spacing.clean_empty _ c hc with rfl | hsolid
  · exact Or.inr rfl
  · exact Or.inl (by simpa [Text.isSolid] using hsolid)

namespace FragmentBuffer

/-- The normal form of a fragment is what spacing makes of it. -/
theorem normalForm_eq_run (fragment : Text) :
    normalForm false fragment = (Spacing.run {} (Spacing.reread fragment)).text :=
  Spacing.join_map_normalize fragment

/-- A text that spacing made is its own normal form. -/
theorem normalForm_text_run (ts : List Token) :
    normalForm false (Spacing.run {} ts).text = (Spacing.run {} ts).text :=
  Spacing.join_map_normalize_text ts

/-- A text with a solid character or a line feed at its end has a normal form with text. -/
theorem normalForm_ne_nil {fragment : Text} (hne : fragment ≠ [])
    (hends : ∀ c, fragment.getLast? = some c → Text.isSolid c = true ∨ c = '\n') :
    normalForm false fragment ≠ [] := by
  obtain ⟨init, c, rfl⟩ := (List.eq_nil_or_concat' fragment).resolve_left hne
  have hlast := hends c List.getLast?_concat
  rw [normalForm_eq_run, Spacing.reread, List.map_append, Spacing.run_append]
  rcases hlast with hsolid | rfl
  · have hspace : Text.isSpace c = false := by simpa [Text.isSolid] using hsolid
    have hline : c ≠ '\n' := Text.ne_of_isSpace hspace rfl
    simp [hline, Spacing.step_solid hspace]
  · simp [Spacing.step]

/-- A buffer puts fragments into normal form, so one in normal form is no other fragment. -/
theorem append_normalForm {b : FragmentBuffer} (h : b.preserve = false) (fragment : Text)
    (isSeparate : Bool) :
    b.append (normalForm false fragment) isSeparate = b.append fragment isSeparate := by
  have htwice : normalForm false (normalForm false fragment) = normalForm false fragment := by
    rw [normalForm_eq_run fragment, normalForm_text_run]
  rw [append, append, h, htwice]

end FragmentBuffer

inductive Joined : List CollectedText → Text → List StyleInterval → Prop
  | nil : Joined [] [] []
  | concat {pieces : List CollectedText} {t : Text} {is : List StyleInterval}
    (h : Joined pieces t is) {piece : CollectedText}
    (hne : FragmentBuffer.normalForm false piece.text ≠ []) {seam : Text}
    (hseam : Text.solids seam = []) :
    Joined (pieces ++ [piece]) (t ++ seam ++ FragmentBuffer.normalForm false piece.text)
      (is ++ piece.intervals.map (StyleInterval.shifted (t ++ seam).length))

namespace Joined

theorem text_eq_nil_iff {pieces : List CollectedText} {t : Text} {is : List StyleInterval}
    (h : Joined pieces t is) : t = [] ↔ pieces = [] := by
  cases h with
  | nil => simp
  | concat h hne hseam => simp [hne]

theorem concat_inv {pieces : List CollectedText} {piece : CollectedText} {t : Text}
    {is : List StyleInterval} (h : Joined (pieces ++ [piece]) t is) :
    ∃ (before seam : Text) (js : List StyleInterval), Joined pieces before js ∧
      t = before ++ seam ++ FragmentBuffer.normalForm false piece.text ∧
      is = js ++ piece.intervals.map (StyleInterval.shifted (before ++ seam).length) := by
  generalize hall : pieces ++ [piece] = all at h
  cases h with
  | nil => exact absurd hall (by simp)
  | @concat _ before js h _ _ seam _ =>
    obtain ⟨rfl, hpiece⟩ := List.append_inj' hall rfl
    obtain rfl := List.singleton_inj.mp hpiece
    exact ⟨before, seam, js, h, rfl, rfl⟩

/-- Each piece stands somewhere in the text, with its intervals where it stands. -/
theorem split {before after : List CollectedText} {piece : CollectedText} {t : Text}
    {is : List StyleInterval} (h : Joined (before ++ piece :: after) t is) :
    ∃ (front rest : Text) (others more : List StyleInterval),
      t = front ++ FragmentBuffer.normalForm false piece.text ++ rest ∧
      is = others ++ piece.intervals.map (StyleInterval.shifted front.length) ++ more := by
  induction after using List.reverseRecOn generalizing t is with
  | nil =>
    obtain ⟨start, seam, js, -, rfl, rfl⟩ := h.concat_inv
    exact ⟨start ++ seam, [], js, [], by simp, by simp⟩
  | append_singleton after last ih =>
    rw [← List.cons_append, ← List.append_assoc] at h
    obtain ⟨start, seam, js, hjoined, rfl, rfl⟩ := h.concat_inv
    obtain ⟨front, rest, others, more, rfl, rfl⟩ := ih hjoined
    exact ⟨front, rest ++ seam ++ FragmentBuffer.normalForm false last.text, others,
      more ++ last.intervals.map (StyleInterval.shifted _), by simp only [List.append_assoc],
      by rw [← List.append_assoc]⟩

/-- Styled pieces are joined to styled intervals. -/
theorem styled {pieces : List CollectedText} {t : Text} {is : List StyleInterval}
    (h : Joined pieces t is) (hpieces : ∀ piece ∈ pieces, piece.Sound) :
    ∀ i ∈ is, i.style.isEmpty = false := by
  induction h with
  | nil => simp
  | @concat pieces t is h piece hne seam hseam ih =>
    intro i hi
    rcases List.mem_append.mp hi with hi | hi
    · exact ih (fun c hc => hpieces c (List.mem_append_left _ hc)) i hi
    · obtain ⟨j, hj, rfl⟩ := List.mem_map.mp hi
      exact (hpieces piece (by simp)).styled j hj

end Joined

namespace FragmentBuffer

/-- The buffer holds pieces that were joined, and their intervals sorted by start. -/
structure Holds (b : FragmentBuffer) (pieces : List CollectedText) : Prop where
  settled : b.Settled
  sorted : StyleInterval.SortedByStart b.ranges
  joined : ∃ is, Joined pieces b.text is ∧ b.ranges.Perm is

theorem holds_empty : Holds {} [] :=
  ⟨settled_empty, List.Pairwise.nil, [], .nil, List.Perm.refl _⟩

theorem Holds.text_eq_nil_iff {b : FragmentBuffer} {pieces : List CollectedText}
    (h : b.Holds pieces) : b.text = [] ↔ pieces = [] := by
  obtain ⟨is, hjoined, -⟩ := h.joined
  exact hjoined.text_eq_nil_iff

/-- A piece that is appended with its intervals is joined to the others. -/
theorem Holds.append {b : FragmentBuffer} {pieces : List CollectedText} (h : b.Holds pieces)
    {piece : CollectedText} (hsound : piece.Sound) (hne : piece.text ≠ []) (isSeparate : Bool) :
    ((b.append piece.text isSeparate).registerStyles b.localLength piece.intervals).Holds
      (pieces ++ [piece]) := by
  obtain ⟨is, hjoined, hperm⟩ := h.joined
  have hnormal := normalForm_ne_nil hne hsound.ends
  have happended := append_of_settled h.settled (normalForm_eq_run piece.text ▸ hnormal) isSeparate
  rw [← normalForm_eq_run, append_normalForm h.settled.preserve] at happended
  have hregister := registerStyles_of_appended h.settled happended h.sorted
    fun i hi => ⟨hsound.fits i hi, hsound.styled i hi⟩
  rw [hregister]
  have hseam : Text.solids (b.seam isSeparate (normalForm false piece.text)) = [] := by
    rw [seam]
    split
    · rfl
    · rfl
  have hall := hjoined.concat hnormal hseam
  refine ⟨happended.settled.with_ranges _, StyleInterval.sortedByStart_sortByStart _, _, ?_,
    (StyleInterval.sortByStart_perm _).trans (hperm.append_right _)⟩
  exact happended.text ▸ hall

end FragmentBuffer

end MarkupCompiler
