import MarkupCompiler.Proofs.Text.Spacing
import Mathlib.Data.List.Chain

/-!
# Well-spaced text

The only whitespace of a well-spaced text are line feeds and spaces, and each space stands between
two solid characters. These are the texts that spacing makes, and the texts that it leaves as they
are. They can be put one behind another, and a space can be put between two of them where both
meet with solid characters.
-/

namespace MarkupCompiler

namespace Text

/-- Neither of two neighbours is a space beside whitespace. -/
def Apart (c d : Char) : Prop := (c = ' ' → isSpace d = false) ∧ (d = ' ' → isSpace c = false)

/-- The whitespace of the text is in normal form. -/
structure WellSpaced (t : Text) : Prop where
  plain : ∀ c ∈ t, isSpace c = true → c = ' ' ∨ c = '\n'
  head : t.head? ≠ some ' '
  last : t.getLast? ≠ some ' '
  chain : t.IsChain Apart

namespace WellSpaced

theorem nil : WellSpaced [] := by
  constructor
  · simp
  · simp
  · simp
  · exact .nil

theorem singleton {c : Char} (h : isSpace c = true → c = '\n') : WellSpaced [c] := by
  have hne : c ≠ ' ' := by
    rintro rfl
    exact absurd (h rfl) (by decide)
  constructor
  · intro d hd hspace
    obtain rfl := List.mem_singleton.mp hd
    exact Or.inr (h hspace)
  · simpa using hne
  · simpa using hne
  · exact .singleton c

/-- No space stands at the ends where two texts meet. -/
theorem append {s t : Text} (hs : WellSpaced s) (ht : WellSpaced t) : WellSpaced (s ++ t) := by
  constructor
  · intro c hc
    rcases List.mem_append.mp hc with hc | hc
    · exact hs.plain c hc
    · exact ht.plain c hc
  · cases s with
    | nil => exact ht.head
    | cons c s => exact hs.head
  · rcases List.eq_nil_or_concat' t with rfl | ⟨init, c, rfl⟩
    · rw [List.append_nil]
      exact hs.last
    · rw [← List.append_assoc, List.getLast?_concat, ← List.getLast?_concat (l := init)]
      exact ht.last
  · refine List.isChain_append.mpr ⟨hs.chain, ht.chain, fun c hc d hd => ⟨?_, ?_⟩⟩
    · rintro rfl
      exact absurd hc hs.last
    · rintro rfl
      exact absurd hd ht.head

theorem endsWith_isSolid {t : Text} (h : WellSpaced t) (hne : t ≠ [])
    (hline : t.getLast? ≠ some '\n') : endsWith isSolid t = true := by
  obtain ⟨init, c, rfl⟩ := (List.eq_nil_or_concat' t).resolve_left hne
  have hlast := h.last
  rw [List.getLast?_concat] at hline hlast
  rw [endsWith, List.getLast?_concat, Option.any_some, isSolid, Bool.not_eq_true']
  by_contra hspace
  rw [Bool.not_eq_false] at hspace
  rcases h.plain c (by simp) hspace with rfl | rfl
  · exact hlast rfl
  · exact hline rfl

/-- A space fits between a text with a solid end and one with a solid start. -/
theorem append_space {s t : Text} (hs : WellSpaced s) (ht : WellSpaced t)
    (hend : endsWith isSolid s = true) (hne : t ≠ []) (hline : t.head? ≠ some '\n') :
    WellSpaced (s ++ [' '] ++ t) := by
  obtain ⟨init, c, rfl⟩ := (List.eq_nil_or_concat' s).resolve_left (by rintro rfl; cases hend)
  obtain ⟨d, rest, rfl⟩ := List.exists_cons_of_ne_nil hne
  have hc : isSpace c = false := by simpa [endsWith, isSolid] using hend
  have hd : isSpace d = false := by
    by_contra hspace
    rw [Bool.not_eq_false] at hspace
    rcases ht.plain d List.mem_cons_self hspace with rfl | rfl
    · exact ht.head rfl
    · exact hline rfl
  constructor
  · intro e he
    rcases List.mem_append.mp he with he | he
    · rcases List.mem_append.mp he with he | he
      · exact hs.plain e he
      · exact fun _ => Or.inl (List.mem_singleton.mp he)
    · exact ht.plain e he
  · have hfront : init ++ [c] ≠ [] := by simp
    rw [List.append_assoc, List.head?_append_of_ne_nil _ hfront]
    exact hs.head
  · rw [List.getLast?_append_of_ne_nil _ hne]
    exact ht.last
  · have hspace : Apart c ' ' := ⟨fun h => absurd hc (by rw [h]; decide), fun _ => hc⟩
    have hback : Apart ' ' d := ⟨fun _ => hd, fun h => absurd hd (by rw [h]; decide)⟩
    rw [List.append_assoc]
    refine List.isChain_append.mpr ⟨hs.chain, List.isChain_cons_cons.mpr ⟨hback, ht.chain⟩, ?_⟩
    intro e he f hf
    rw [List.getLast?_concat, Option.mem_some] at he
    rw [List.singleton_append, List.head?_cons, Option.mem_some] at hf
    rwa [← he, ← hf]

end WellSpaced

end Text

namespace Spacing

open Text (WellSpaced)

theorem wellSpaced_step {s : Spacing} (h : WellSpaced s.text) (t : Token) :
    WellSpaced (s.step t).text := by
  cases t with
  | char c =>
    by_cases hc : Text.isSpace c = true
    · rw [step_space hc]
      exact h
    · have hsingle : WellSpaced [c] := .singleton fun hspace => absurd hspace hc
      rw [Bool.not_eq_true] at hc
      rw [step_solid hc, render, glue]
      cases hdue : s.due with
      | false =>
        rw [if_neg Bool.false_ne_true, List.append_nil]
        exact h.append hsingle
      | true =>
        obtain ⟨-, hend⟩ := Bool.and_eq_true_iff.mp hdue
        have hline : c ≠ '\n' := Text.ne_of_isSpace hc rfl
        exact h.append_space hsingle hend (by simp) (by simpa using hline)
  | lineBreak inner => exact h.append (.singleton fun _ => rfl)

theorem wellSpaced_run {s : Spacing} (h : WellSpaced s.text) (ts : List Token) :
    WellSpaced (s.run ts).text := by
  induction ts generalizing s with
  | nil => exact h
  | cons t ts ih => exact ih (wellSpaced_step h t)

theorem render_eq_text_of_getLast? {s : Spacing} (h : s.render.getLast? ≠ some ' ') :
    s.render = s.text := by
  apply render_eq_text
  by_contra hdue
  rw [Bool.not_eq_false] at hdue
  rw [render, glue, hdue, if_pos rfl, List.getLast?_concat] at h
  exact h rfl

theorem render_step_solid (s : Spacing) {c : Char} (h : Text.isSpace c = false) :
    (s.step (.char c)).render = s.render ++ [c] := by
  rw [step_solid h, render_eq_text (due_of_gap_eq_false rfl)]

theorem render_step_lineBreak {s : Spacing} (h : s.render.getLast? ≠ some ' ') (inner : Text) :
    (s.step (.lineBreak inner)).render = s.render ++ ['\n'] := by
  rw [step, render_eq_text (due_of_gap_eq_false rfl), render_eq_text_of_getLast? h]

/-- Behind a solid character a gap becomes a space. -/
theorem render_step_space {s : Spacing} (h : Text.endsWith Text.isSolid s.render = true) :
    (s.step (.char ' ')).render = s.render ++ [' '] := by
  have hlast : s.render.getLast? ≠ some ' ' := by
    intro hspace
    rw [Text.endsWith, hspace] at h
    cases h
  have htext : s.render = s.text := render_eq_text_of_getLast? hlast
  rw [htext] at h
  rw [step_space rfl, render, glue, due, h, htext]
  rfl

/-- A text that is well-spaced but for a space at its end is put down as it is. -/
theorem render_run_reread {t : Text} (hplain : ∀ c ∈ t, Text.isSpace c = true → c = ' ' ∨ c = '\n')
    (hhead : t.head? ≠ some ' ') (hchain : t.IsChain Text.Apart) :
    (run {} (reread t)).render = t := by
  induction t using List.reverseRecOn with
  | nil => rfl
  | append_singleton init c ih =>
    obtain ⟨hinit, -, hjoint⟩ := List.isChain_append.mp hchain
    have hfront : init.head? ≠ some ' ' := by
      intro hspace
      rw [List.head?_append, hspace] at hhead
      exact hhead rfl
    have hrender := ih (fun d hd => hplain d (List.mem_append_left _ hd)) hfront hinit
    rw [reread, List.map_append, List.map_singleton, run_append, run_cons, run_nil]
    change ((run {} (reread init)).step _).render = _
    generalize run {} (reread init) = s at hrender
    by_cases hc : Text.isSpace c = true
    · rcases hplain c (by simp) hc with rfl | rfl
      · -- The text before a space is not empty, and its last character is solid.
        obtain ⟨front, d, rfl⟩ := (List.eq_nil_or_concat' init).resolve_left (by
          rintro rfl
          exact hhead rfl)
        obtain ⟨-, hd⟩ := hjoint d (by simp) ' ' (by simp)
        have hend : Text.endsWith Text.isSolid s.render = true := by
          rw [hrender, Text.endsWith, List.getLast?_concat, Option.any_some, Text.isSolid, hd rfl]
          rfl
        exact (render_step_space hend).trans (congrArg (· ++ _) hrender)
      · have hlast : s.render.getLast? ≠ some ' ' := by
          intro hspace
          rw [hrender] at hspace
          obtain ⟨hnext, -⟩ := hjoint ' ' hspace '\n' (by simp)
          exact absurd (hnext rfl) (by decide)
        exact (render_step_lineBreak hlast []).trans (congrArg (· ++ _) hrender)
    · rw [Bool.not_eq_true] at hc
      have hline : (c == '\n') = false := beq_eq_false_iff_ne.mpr (Text.ne_of_isSpace hc rfl)
      rw [hline, if_neg Bool.false_ne_true, render_step_solid s hc, hrender]

/-- Well-spaced texts are those that spacing leaves as they are. -/
theorem wellSpaced_iff {t : Text} : WellSpaced t ↔ (run {} (reread t)).text = t := by
  constructor
  · intro h
    have hrender := render_run_reread h.plain h.head h.chain
    rw [← render_eq_text_of_getLast? (hrender.symm ▸ h.last)]
    exact hrender
  · intro h
    rw [← h]
    exact wellSpaced_run .nil _

end Spacing

end MarkupCompiler
