import MarkupCompiler.Proofs.Fragment.Joined
import MarkupCompiler.Proofs.Fragment.Piece
import MarkupCompiler.Proofs.Text.WellSpaced

/-!
# The text of a buffer is well spaced

A buffer looks at two flags before it puts a space in: whether anything was appended yet, and
whether that ended in a line feed. As long as nothing is trimmed off, these flags say how the text
ends, whatever was appended, marked, registered or flushed. Then a space is put between solid
characters only, and the text is its own normal form at all times.
-/

namespace MarkupCompiler.FragmentBuffer

open Text (WellSpaced)

/-- The text is well spaced, and the flags of the buffer say how it ends. -/
structure Spaced (b : FragmentBuffer) : Prop where
  preserve : b.preserve = false
  text : b.text.WellSpaced
  atBlockStart : b.atBlockStart = b.text.isEmpty
  afterNewline : b.afterNewline = Text.endsWith (· == '\n') b.text

theorem spaced_new (startIndex : Int) : Spaced { startIndex := startIndex } :=
  ⟨rfl, .nil, rfl, rfl⟩

theorem wellSpaced_normalForm (fragment : Text) : (normalForm false fragment).WellSpaced := by
  rw [normalForm_eq_run]
  exact Spacing.wellSpaced_run .nil _

theorem normalForm_of_wellSpaced {t : Text} (h : t.WellSpaced) : normalForm false t = t := by
  rw [normalForm_eq_run]
  exact Spacing.wellSpaced_iff.mp h

theorem Spaced.addBoundary {b : FragmentBuffer} (h : b.Spaced) : b.addBoundary.Spaced := by
  unfold FragmentBuffer.addBoundary
  split
  · next hboundary =>
    have hstart : b.atBlockStart = false := by
      simp only [Bool.and_eq_true, Bool.not_eq_true'] at hboundary
      exact hboundary.2
    refine ⟨h.preserve, h.text.append (.singleton fun _ => rfl), ?_, ?_⟩
    · simp [addSeparator, hstart]
    · simp [addSeparator, Text.endsWith]
  · exact h

/-- The separators of a fragment stand well between the text and the fragment. -/
theorem Spaced.wellSpaced_addSpace {b : FragmentBuffer} (h : b.Spaced) {normal : Text}
    (hnormal : normal.WellSpaced) (hne : normal ≠ []) (isSeparate : Bool) :
    ((b.addSpace isSeparate normal).text ++ normal).WellSpaced := by
  unfold FragmentBuffer.addSpace
  split
  · next hspace =>
    simp only [Bool.and_eq_true, Bool.not_eq_true', bne_iff_ne] at hspace
    obtain ⟨⟨⟨⟨⟨-, hstart⟩, hfeed⟩, -⟩, -⟩, hhead⟩ := hspace
    have hfull : b.text ≠ [] := by
      rw [h.atBlockStart] at hstart
      exact List.isEmpty_eq_false_iff.mp hstart
    have hline : b.text.getLast? ≠ some '\n' := by
      intro hlast
      rw [h.afterNewline, Text.endsWith, hlast] at hfeed
      exact absurd hfeed (by decide)
    exact h.text.append_space hnormal (h.text.endsWith_isSolid hfull hline) hne hhead
  · exact h.text.append hnormal

theorem addSpace_preserve (isSeparate : Bool) (normal : Text) (b : FragmentBuffer) :
    (b.addSpace isSeparate normal).preserve = b.preserve := by
  unfold addSpace
  split
  · rfl
  · rfl

/-- A fragment sets the flags by its own end. -/
theorem spaced_addFragment {b : FragmentBuffer} (hpreserve : b.preserve = false) {normal : Text}
    (hne : normal ≠ []) (h : (b.text ++ normal).WellSpaced) : (b.addFragment normal).Spaced := by
  have hend : Text.endsWith (· == '\n') (b.text ++ normal) = (normal.getLast? == some '\n') := by
    rw [Spacing.endsWith_append _ hne, Text.endsWith, List.getLast?_eq_some_getLast hne]
    rfl
  refine ⟨hpreserve, h, ?_, hend.symm⟩
  simp [addFragment, hne]

theorem Spaced.append {b : FragmentBuffer} (h : b.Spaced) (fragment : Text) (isSeparate : Bool) :
    (b.append fragment isSeparate).Spaced := by
  unfold FragmentBuffer.append
  rw [h.preserve]
  have hnormal := wellSpaced_normalForm fragment
  generalize normalForm false fragment = normal at hnormal
  by_cases hempty : normal.isEmpty = true
  · rw [if_pos hempty]
    exact h
  · have hne : normal ≠ [] := by simpa using hempty
    rw [if_neg hempty]
    apply spaced_addFragment _ hne
    · exact h.addBoundary.wellSpaced_addSpace hnormal hne isSeparate
    · exact (addSpace_preserve isSeparate normal _).trans h.addBoundary.preserve

/-- Any step but trimming keeps the text well spaced. -/
theorem Spaced.step {b : FragmentBuffer} (h : b.Spaced) {s : Step} (hs : s ≠ .trimNewlines) :
    (s.apply b).Spaced := by
  cases s with
  | append fragment isSeparate => exact h.append fragment isSeparate
  | markBoundary =>
    show b.markBoundary.Spaced
    unfold markBoundary
    split
    · exact ⟨h.preserve, h.text, h.atBlockStart, h.afterNewline⟩
    · exact h
  | trimNewlines => exact absurd rfl hs
  | registerStyle i =>
    show (b.registerStyle i).Spaced
    unfold registerStyle
    split
    · exact h
    · exact ⟨h.preserve, h.text, h.atBlockStart, h.afterNewline⟩
  | registerStyles offset is =>
    show (b.registerStyles offset is).Spaced
    unfold registerStyles
    simp only
    split
    · exact h
    · exact ⟨h.preserve, h.text, h.atBlockStart, h.afterNewline⟩
  | flush => exact ⟨h.preserve, .nil, rfl, rfl⟩

theorem Spaced.run {b : FragmentBuffer} (h : b.Spaced) {steps : List Step}
    (hsteps : .trimNewlines ∉ steps) : (steps.foldl Step.apply b).Spaced := by
  induction steps generalizing b with
  | nil => exact h
  | cons s steps ih =>
    have hs : s ≠ .trimNewlines := by
      rintro rfl
      exact hsteps List.mem_cons_self
    exact ih (h.step hs) fun hmem => hsteps (List.mem_cons_of_mem s hmem)

/-- What a fragment in normal form is put behind: the text, and at most one separator. -/
theorem put_append (b : FragmentBuffer) (fragment : Text) (isSeparate : Bool) :
    let put := Step.put b (.append fragment isSeparate)
    put = [] ∨ put = [' '] ∨ put = ['\n'] := by
  unfold Step.put
  simp only
  split
  · exact Or.inl rfl
  · rcases (separates isSeparate (normalForm b.preserve fragment) b).shape with
      hnone | ⟨hfeed, -⟩ | ⟨hspace, -⟩
    · exact Or.inl hnone
    · exact Or.inr (Or.inr hfeed)
    · exact Or.inr (Or.inl hspace)

/--
After any steps on a new buffer that normalizes, trimming apart, the text is well spaced and its own
normal form. A further fragment is put behind it in normal form, with at most one separator between
them, and does not change the buffer at all if its normal form is empty.
-/
theorem wellSpaced_foldl_apply (startIndex : Int) {steps : List Step}
    (hsteps : .trimNewlines ∉ steps) :
    let b := steps.foldl Step.apply { startIndex := startIndex }
    b.text.WellSpaced ∧ normalForm false b.text = b.text ∧
      ∀ fragment isSeparate,
        (∃ put, (put = [] ∨ put = [' '] ∨ put = ['\n']) ∧
          (b.append fragment isSeparate).text = b.text ++ put ++ normalForm false fragment) ∧
        (normalForm false fragment = [] → b.append fragment isSeparate = b) := by
  intro b
  have hspaced : b.Spaced := (spaced_new startIndex).run hsteps
  refine ⟨hspaced.text, normalForm_of_wellSpaced hspaced.text, fun fragment isSeparate => ⟨?_, ?_⟩⟩
  · refine ⟨_, put_append b fragment isSeparate, ?_⟩
    have htext := (adds_append b fragment isSeparate).text
    rwa [hspaced.preserve] at htext
  · intro hempty
    unfold append
    rw [hspaced.preserve, hempty]
    rfl

/-- Fragments that begin and end with blanks and line feeds, with a boundary and a flush. -/
theorem wellSpaced_foldl_apply_boundary :
    let steps : List Step :=
      [.append ['x'] true, .flush, .append [' ', 'a', '\t', '\r', 'b', ' '] true,
        .append ['\n', ' ', 'c'] true, .markBoundary, .append [' ', '\x0c'] true,
        .append ['d'] false, .registerStyle ⟨0, 2, { bold := some true }⟩, .append ['e', ' '] true]
    let b := steps.foldl Step.apply { startIndex := 5 }
    .trimNewlines ∉ steps ∧
      b.text = ['a', ' ', 'b', '\n', 'c', '\n', 'd', ' ', 'e'] ∧ b.text.WellSpaced ∧
      normalForm false ['\t', ' '] = [] ∧ b.append ['\t', ' '] true = b := by
  intro steps b
  have hsteps : .trimNewlines ∉ steps := by decide
  obtain ⟨hspaced, -, happend⟩ := wellSpaced_foldl_apply 5 hsteps
  obtain ⟨-, hunchanged⟩ := happend ['\t', ' '] true
  have hempty : normalForm false ['\t', ' '] = [] := by decide
  exact ⟨hsteps, by decide, hspaced, hempty, hunchanged hempty⟩

end MarkupCompiler.FragmentBuffer
