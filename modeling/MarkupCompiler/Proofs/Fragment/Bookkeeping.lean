import MarkupCompiler.Proofs.Fragment.Piece
import Mathlib.Data.List.Chain

/-!
# What trimming does to the offsets

A buffer is sound when its number of characters and its separators are those of its text, and each
separator stands between two characters of fragments. Trimming counts every line feed that it cuts
off as one of a fragment. That is wrong for a separator, and a separator is cut off when nothing but
line feeds come after a boundary. And a buffer that trimming has emptied does not take its next
fragment for the first one, so a separator can be put before it.

The buffer is sound after a run exactly if neither has happened since the last flush.
-/

namespace MarkupCompiler.FragmentBuffer

open Piece (offsetsFrom fragments)

namespace Piece

/-! ## Separators between fragments -/

/-- After a separator comes a character of a fragment, and after a space not a line feed. -/
def Follows (p q : Piece) : Prop :=
  p.isSeparator = true → q.isSeparator = false ∧ (q.char = '\n' → p.char = '\n')

/-- Each separator stands between two characters of fragments. -/
structure Framed (ps : List Piece) : Prop where
  head : ∀ p ∈ ps.head?, p.isSeparator = false
  last : ∀ p ∈ ps.getLast?, p.isSeparator = false
  chain : ps.IsChain Follows

theorem Framed.nil : Framed [] := by
  constructor
  · simp
  · simp
  · exact .nil

theorem isChain_ofFragment (t : Text) : (t.map ofFragment).IsChain Follows := by
  refine (List.pairwise_map.mpr ?_).isChain
  refine List.pairwise_of_forall fun c d hc => ?_
  exact absurd hc Bool.false_ne_true

/-- A fragment can be put behind pieces, with a separator if there are any. -/
theorem Framed.append {ps : List Piece} (h : Framed ps) {put normal : Text}
    (hput : put = [] ∨ ps ≠ [] ∧ ∃ c d rest, put = [c] ∧ normal = d :: rest ∧ (d = '\n' → c = '\n')) :
    Framed (ps ++ put.map separator ++ normal.map ofFragment) := by
  rcases hput with rfl | ⟨hne, c, d, rest, rfl, rfl, hcd⟩
  · rw [List.map_nil, List.append_nil]
    constructor
    · intro p hp
      rw [List.head?_append, Option.mem_def, Option.or_eq_some_iff] at hp
      rcases hp with hp | ⟨-, hp⟩
      · exact h.head p hp
      · exact isSeparator_of_mem_ofFragment (List.mem_of_mem_head? hp)
    · intro p hp
      rw [List.getLast?_append, Option.mem_def, Option.or_eq_some_iff] at hp
      rcases hp with hp | ⟨-, hp⟩
      · exact isSeparator_of_mem_ofFragment (List.mem_of_mem_getLast? hp)
      · exact h.last p hp
    · refine List.isChain_append.mpr ⟨h.chain, isChain_ofFragment normal, ?_⟩
      intro p hp q hq hsep
      exact absurd hsep (by simp [h.last p hp])
  · constructor
    · intro p hp
      rw [List.append_assoc, List.head?_append_of_ne_nil _ hne] at hp
      exact h.head p hp
    · intro p hp
      rw [List.getLast?_append_of_ne_nil _ (by simp)] at hp
      exact isSeparator_of_mem_ofFragment (List.mem_of_mem_getLast? hp)
    · rw [List.append_assoc]
      refine List.isChain_append.mpr ⟨h.chain, ?_, ?_⟩
      · show (separator c :: ofFragment d :: rest.map ofFragment).IsChain Follows
        refine List.isChain_cons_cons.mpr ⟨fun _ => ⟨rfl, hcd⟩, ?_⟩
        exact isChain_ofFragment (d :: rest)
      · intro p hp q hq hsep
        exact absurd hsep (by simp [h.last p hp])

/-- Line feeds of fragments can be cut off up to a character that is none. -/
theorem Framed.of_append {kept cut : List Piece} (h : Framed (kept ++ cut))
    (hkept : ∀ p ∈ kept.getLast?, p.char ≠ '\n') (hcut : ∀ p ∈ cut, p.char = '\n') :
    Framed kept := by
  obtain ⟨hchain, -, hlink⟩ := List.isChain_append.mp h.chain
  constructor
  · intro p hp
    refine h.head p ?_
    rw [List.head?_append, Option.mem_def.mp hp]
    rfl
  · intro p hp
    by_contra hsep
    rw [Bool.not_eq_false] at hsep
    cases cut with
    | nil =>
      rw [List.append_nil] at h
      exact absurd hsep (by simp [h.last p hp])
    | cons q cut =>
      -- A separator in front of the cut would be a space, and no line feed follows a space.
      obtain ⟨-, hspace⟩ := hlink p hp q rfl hsep
      exact hkept p hp (hspace (hcut q List.mem_cons_self))
  · exact hchain

/-- No two separators stand at the same offset. -/
theorem pairwise_offsetsFrom {ps : List Piece} (h : ps.IsChain Follows) (n : Int) :
    (offsetsFrom n ps).Pairwise (· < ·) := by
  induction ps generalizing n with
  | nil => exact .nil
  | cons p ps ih =>
    rw [offsetsFrom]
    by_cases hp : p.isSeparator = true
    · rw [if_pos hp]
      refine List.pairwise_cons.mpr ⟨?_, ih h.tail n⟩
      intro x hx
      cases ps with
      | nil => exact absurd hx List.not_mem_nil
      | cons q ps =>
        obtain ⟨hfollows, -⟩ := List.isChain_cons_cons.mp h
        obtain ⟨hq, -⟩ := hfollows hp
        have hlater : x ∈ offsetsFrom (n + 1) ps := by simpa [offsetsFrom, hq] using hx
        obtain ⟨hle, -⟩ := bounds_of_mem_offsetsFrom hlater
        omega
    · rw [if_neg hp]
      exact ih h.tail (n + 1)

theorem Framed.inside {ps : List Piece} (h : Framed ps) {n x : Int} (hx : x ∈ offsetsFrom n ps) :
    n < x ∧ x < n + (fragments ps).length := by
  rcases List.eq_nil_or_concat' ps with rfl | ⟨init, ⟨d, isSeparator⟩, hlast⟩
  · exact absurd hx List.not_mem_nil
  obtain rfl : isSeparator = false := h.last ⟨d, isSeparator⟩ (by simp [hlast])
  cases ps with
  | nil => exact absurd hx List.not_mem_nil
  | cons p mid =>
    obtain ⟨c, isSeparator⟩ := p
    obtain rfl : isSeparator = false := h.head ⟨c, isSeparator⟩ rfl
    exact inside_of_mem_offsetsFrom hlast hx

end Piece

/-! ## Steps -/

/-- A separator is put only before a character, and a space not before a line feed. -/
theorem Step.put_cases (b : FragmentBuffer) (s : Step) :
    s.put b = [] ∨ ∃ c d rest, s.put b = [c] ∧ s.appended b.preserve = d :: rest ∧
      (d = '\n' → c = '\n') := by
  cases s with
  | append fragment isSeparate =>
    cases hnormal : normalForm b.preserve fragment with
    | nil =>
      left
      simp only [put, hnormal, List.isEmpty_nil, if_true]
    | cons d rest =>
      have hput : put b (.append fragment isSeparate) = b.separatorsFor isSeparate (d :: rest) := by
        simp only [put, hnormal, List.isEmpty_cons, Bool.false_eq_true, if_false]
      rw [hput]
      rcases (separates isSeparate (d :: rest) b).shape with hnone | ⟨hfeed, -⟩ | ⟨hspace, -, hhead⟩
      · exact .inl hnone
      · exact .inr ⟨'\n', d, rest, hfeed, hnormal, fun _ => rfl⟩
      · exact .inr ⟨' ', d, rest, hspace, hnormal, fun hd => absurd (congrArg some hd) hhead⟩
  | _ => exact .inl rfl

namespace Traced

/-! ## Trimming -/

def cut (t : Traced) : List Piece := t.pieces.drop t.buffer.trimNewlines.text.length

theorem trimmed_append_cut (t : Traced) : (t.step .trimNewlines).pieces ++ t.cut = t.pieces :=
  List.take_append_drop ..

theorem text_cut (t : Traced) : (t.step .trimNewlines).buffer.text ++ Piece.text t.cut =
    t.buffer.text := by
  rw [← t.text_eq, ← (t.step .trimNewlines).text_eq, ← Piece.text_append, trimmed_append_cut]

theorem char_of_mem_cut {t : Traced} {p : Piece} (hp : p ∈ t.cut) : p.char = '\n' := by
  obtain ⟨feeds, hfeeds, hall⟩ := Text.exists_trimEnd (· == '\n') t.buffer.text
  have hcut : Piece.text t.cut = feeds := List.append_cancel_left (t.text_cut.trans hfeeds)
  have hmem : p.char ∈ feeds := by
    rw [← hcut]
    exact List.mem_map_of_mem hp
  exact eq_of_beq (hall _ hmem)

theorem char_of_last_trimmed {t : Traced} {p : Piece}
    (hp : p ∈ (t.step .trimNewlines).pieces.getLast?) : p.char ≠ '\n' := by
  have hlast : (t.step .trimNewlines).buffer.text.getLast? = some p.char := by
    rw [← (t.step .trimNewlines).text_eq, Piece.text, List.getLast?_map, Option.mem_def.mp hp]
    rfl
  have hne := Text.getLast?_trimEnd hlast
  exact ne_of_beq_false hne

/-- Each line feed that is cut off is taken for one of a fragment. -/
theorem localLength_trimmed (t : Traced) :
    (t.step .trimNewlines).buffer.localLength = t.buffer.localLength - t.cut.length := by
  have hlength := congrArg List.length t.text_cut
  rw [List.length_append, Piece.text, List.length_map] at hlength
  show t.buffer.localLength -
    (Int.ofNat t.buffer.text.length - Int.ofNat (t.step .trimNewlines).buffer.text.length) = _
  simp only [Int.ofNat_eq_natCast]
  omega

/-! ## Soundness -/

/-- What the buffer keeps beside its text agrees with it. -/
structure Sound (t : Traced) : Prop extends t.Recorded where
  ascending : t.buffer.separators.Pairwise (· < ·)
  between : ∀ x ∈ t.buffer.separators, 0 < x ∧ x < t.buffer.localLength
  length_eq : (t.buffer.text.length : Int) = t.buffer.localLength + t.buffer.separators.length

/-- The step cuts a separator off, or puts one before the first character of the buffer. -/
def Spoils (t : Traced) : Step → Prop
  | .trimNewlines => ∃ p ∈ t.cut, p.isSeparator = true
  | s => t.pieces = [] ∧ s.put t.buffer ≠ []

/-- One of the steps since the last flush spoils the buffer. -/
def IsSpoiled (t : Traced) (steps : List Step) : Prop :=
  ∃ before s after, steps = before ++ s :: after ∧ .flush ∉ after ∧ (t.run before).Spoils s

/-- The buffer is sound, and stays so until a step spoils it. -/
structure Kept (t : Traced) : Prop extends t.Recorded where
  framed : Piece.Framed t.pieces

/-- The buffer is unsound, and stays so until it is flushed. -/
def Broken (t : Traced) : Prop :=
  t.buffer.localLength < (fragments t.pieces).length ∨ ∃ x ∈ t.buffer.separators, x ≤ 0

theorem Kept.sound {t : Traced} (h : t.Kept) : t.Sound := by
  have hlength := Piece.length_eq 0 t.pieces
  have htext : t.buffer.text.length = t.pieces.length := by
    rw [← t.text_eq, Piece.text, List.length_map]
  refine ⟨h.toRecorded, ?_, ?_, ?_⟩
  · rw [h.separators]
    exact Piece.pairwise_offsetsFrom h.framed.chain 0
  · intro x hx
    rw [h.separators] at hx
    rw [h.localLength]
    obtain ⟨hlower, hupper⟩ := h.framed.inside hx
    omega
  · rw [htext, hlength, h.localLength, h.separators, Int.natCast_add]

theorem Broken.not_sound {t : Traced} (h : t.Broken) : ¬t.Sound := by
  intro hsound
  rcases h with hless | ⟨x, hx, hle⟩
  · have hcount := hsound.localLength
    omega
  · obtain ⟨hpos, -⟩ := hsound.between x hx
    omega

theorem kept_new (startIndex : Int) (preserve : Bool) : (new startIndex preserve).Kept :=
  ⟨recorded_new startIndex preserve, .nil⟩

theorem kept_flush (t : Traced) : (t.step .flush).Kept :=
  ⟨recorded_new t.buffer.endIndex t.buffer.preserve, .nil⟩

theorem spoils_of_isAddition {t : Traced} {s : Step} (hs : s.isAddition = true) :
    t.Spoils s ↔ t.pieces = [] ∧ s.put t.buffer ≠ [] := by
  cases s with
  | trimNewlines => exact absurd hs Bool.false_ne_true
  | _ => exact .rfl

theorem not_spoils_flush (t : Traced) : ¬t.Spoils .flush := fun h => h.2 rfl

/-! ## Steps that spoil the buffer -/

theorem Kept.trimmed {t : Traced} (h : t.Kept) (hs : ¬t.Spoils .trimNewlines) :
    (t.step .trimNewlines).Kept := by
  have hplain : ∀ p ∈ t.cut, p.isSeparator = false := by
    intro p hp
    by_contra hsep
    exact hs ⟨p, hp, by simpa using hsep⟩
  have hnone : ∀ n, offsetsFrom n t.cut = [] := fun _ => Piece.offsetsFrom_eq_nil_iff.mpr hplain
  have hall := Piece.length_eq 0 t.cut
  rw [hnone, List.length_nil, Nat.add_zero] at hall
  have hsplit := t.trimmed_append_cut
  have hcount := h.localLength
  have hoffsets := h.separators
  rw [← hsplit, Piece.fragments_append, List.length_append] at hcount
  rw [← hsplit, Piece.offsetsFrom_append, hnone, List.append_nil] at hoffsets
  refine ⟨⟨?_, hoffsets⟩, ?_⟩
  · rw [localLength_trimmed]
    omega
  · have hframed := h.framed
    rw [← hsplit] at hframed
    exact hframed.of_append (fun p => char_of_last_trimmed) fun p => char_of_mem_cut

theorem Kept.added {t : Traced} (h : t.Kept) {s : Step} (hs : s.isAddition = true)
    (hspoils : ¬t.Spoils s) : (t.step s).Kept := by
  refine ⟨h.toRecorded.step hs, ?_⟩
  show Piece.Framed (s.pieces t.buffer t.pieces)
  rw [Step.pieces_of_isAddition hs]
  apply h.framed.append
  rcases s.put_cases t.buffer with hnone | hone
  · exact .inl hnone
  · refine .inr ⟨?_, hone⟩
    intro hempty
    obtain ⟨c, d, rest, hput, -⟩ := hone
    exact hspoils ((spoils_of_isAddition hs).mpr ⟨hempty, by simp [hput]⟩)

theorem Kept.step {t : Traced} (h : t.Kept) {s : Step} (hspoils : ¬t.Spoils s) :
    (t.step s).Kept := by
  cases s with
  | trimNewlines => exact h.trimmed hspoils
  | flush => exact t.kept_flush
  | append | markBoundary | registerStyle | registerStyles => exact h.added rfl hspoils

/-- Fewer characters of fragments are cut off than are taken for such. -/
theorem length_fragments_trimmed (t : Traced) : (fragments t.pieces).length ≤
    (fragments (t.step .trimNewlines).pieces).length + t.cut.length := by
  have hall := Piece.length_eq 0 t.cut
  conv_lhs => rw [← t.trimmed_append_cut, Piece.fragments_append, List.length_append]
  omega

theorem Kept.broken {t : Traced} (h : t.Kept) {s : Step} (hspoils : t.Spoils s) :
    (t.step s).Broken := by
  by_cases hs : s.isAddition = true
  · obtain ⟨hempty, hput⟩ := (spoils_of_isAddition hs).mp hspoils
    obtain ⟨c, rest, hcons⟩ := List.exists_cons_of_ne_nil hput
    have hzero : t.buffer.localLength = 0 := by
      rw [h.localLength, hempty]
      rfl
    right
    refine ⟨t.buffer.localLength, ?_, Int.le_of_eq hzero⟩
    show t.buffer.localLength ∈ (s.apply t.buffer).separators
    rw [(adds_of_isAddition hs t.buffer).separators, hcons]
    exact List.mem_append_right _ List.mem_cons_self
  · cases s with
    | trimNewlines =>
      obtain ⟨p, hp, hsep⟩ := hspoils
      have hsome : offsetsFrom 0 t.cut ≠ [] := by
        intro hnone
        have hplain := Piece.offsetsFrom_eq_nil_iff.mp hnone p hp
        exact absurd hsep (by simp [hplain])
      have hpos := List.length_pos_iff.mpr hsome
      have hall := Piece.length_eq 0 t.cut
      have hcount := h.localLength
      rw [← t.trimmed_append_cut, Piece.fragments_append, List.length_append] at hcount
      left
      rw [localLength_trimmed]
      omega
    | flush => exact absurd hspoils t.not_spoils_flush
    | _ => exact absurd rfl hs

theorem Broken.step {t : Traced} (h : t.Broken) {s : Step} (hs : s ≠ .flush) :
    (t.step s).Broken := by
  by_cases haddition : s.isAddition = true
  · have hadds := adds_of_isAddition haddition t.buffer
    rcases h with hless | ⟨x, hx, hle⟩
    · left
      rw [fragments_step haddition, List.length_append]
      show (s.apply t.buffer).localLength < _
      rw [hadds.localLength]
      omega
    · right
      refine ⟨x, ?_, hle⟩
      show x ∈ (s.apply t.buffer).separators
      rw [hadds.separators]
      exact List.mem_append_left _ hx
  · cases s with
    | trimNewlines =>
      rcases h with hless | hsome
      · have hle := t.length_fragments_trimmed
        left
        rw [localLength_trimmed]
        omega
      · exact .inr hsome
    | flush => exact absurd rfl hs
    | _ => exact absurd rfl haddition

/-! ## Runs -/

theorem isSpoiled_concat {t : Traced} {steps : List Step} {s : Step} :
    t.IsSpoiled (steps ++ [s]) ↔ s ≠ .flush ∧ (t.IsSpoiled steps ∨ (t.run steps).Spoils s) := by
  constructor
  · rintro ⟨before, s', after, hsplit, hflush, hspoils⟩
    rcases List.eq_nil_or_concat' after with rfl | ⟨after, last, rfl⟩
    · obtain ⟨rfl, hsame⟩ := List.append_inj' hsplit rfl
      obtain rfl : s = s' := List.singleton_inj.mp hsame
      refine ⟨?_, .inr hspoils⟩
      rintro rfl
      exact not_spoils_flush _ hspoils
    · rw [← List.cons_append, ← List.append_assoc] at hsplit
      obtain ⟨rfl, hsame⟩ := List.append_inj' hsplit rfl
      obtain rfl : s = last := List.singleton_inj.mp hsame
      simp only [List.mem_append, List.mem_singleton, not_or] at hflush
      obtain ⟨hafter, hs⟩ := hflush
      exact ⟨Ne.symm hs, .inl ⟨before, s', after, rfl, hafter, hspoils⟩⟩
  · rintro ⟨hs, ⟨before, s', after, rfl, hflush, hspoils⟩ | hspoils⟩
    · refine ⟨before, s', after ++ [s], by simp, ?_, hspoils⟩
      simp only [List.mem_append, List.mem_singleton, not_or]
      exact ⟨hflush, Ne.symm hs⟩
    · exact ⟨steps, s, [], rfl, List.not_mem_nil, hspoils⟩

theorem kept_or_broken (startIndex : Int) (preserve : Bool) (steps : List Step) :
    let t := new startIndex preserve
    (t.run steps).Kept ∧ ¬t.IsSpoiled steps ∨ (t.run steps).Broken ∧ t.IsSpoiled steps := by
  intro t
  -- A flush starts over. Any other step leaves a broken buffer broken, and breaks a kept one
  -- exactly if it spoils it.
  induction steps using List.reverseRecOn with
  | nil =>
    refine .inl ⟨kept_new startIndex preserve, ?_⟩
    rintro ⟨before, s, after, hsplit, -⟩
    simp at hsplit
  | append_singleton steps s ih =>
    rw [run_concat, isSpoiled_concat]
    by_cases hs : s = .flush
    · rw [hs]
      exact .inl ⟨kept_flush _, fun h => h.1 rfl⟩
    rcases ih with ⟨hkept, hnot⟩ | ⟨hbroken, hspoiled⟩
    · by_cases hspoils : (t.run steps).Spoils s
      · exact .inr ⟨hkept.broken hspoils, hs, .inr hspoils⟩
      · refine .inl ⟨hkept.step hspoils, ?_⟩
        rintro ⟨-, hspoiled | hspoils'⟩
        · exact hnot hspoiled
        · exact hspoils hspoils'
    · exact .inr ⟨hbroken.step hs, hs, .inl hspoiled⟩

/-- A buffer is sound exactly if no step since its last flush has spoiled it. -/
theorem sound_run_iff (startIndex : Int) (preserve : Bool) (steps : List Step) :
    ((new startIndex preserve).run steps).Sound ↔
      ¬(new startIndex preserve).IsSpoiled steps := by
  rcases kept_or_broken startIndex preserve steps with ⟨hkept, hnot⟩ | ⟨hbroken, hspoiled⟩
  · exact ⟨fun _ => hnot, fun _ => hkept.sound⟩
  · exact ⟨fun h => absurd h hbroken.not_sound, fun h => absurd hspoiled h⟩

/--
Trimming a line feed behind a boundary takes the separator along, and its length off the number of
characters, which becomes negative the second time. A buffer that trimming has emptied puts a space
before its next fragment.
-/
theorem trimming_loses_count :
    let trimmed := (new 0 false).run
      [.append ['a'] true, .markBoundary, .append ['\n'] true, .trimNewlines]
    let refilled := (new 0 false).run [.append ['\n'] true, .trimNewlines, .append ['a'] true]
    trimmed.buffer.text = ['a'] ∧ trimmed.buffer.localLength = 0 ∧
      trimmed.buffer.separators = [1] ∧ ¬trimmed.Sound ∧
      (trimmed.run [.markBoundary, .append ['\n'] true, .trimNewlines]).buffer.localLength = -1 ∧
      refilled.buffer.text = [' ', 'a'] ∧ refilled.buffer.separators = [0] ∧ ¬refilled.Sound := by
  intro trimmed refilled
  have hcount : trimmed.buffer.localLength = 0 := by decide
  have hoffset : refilled.buffer.separators = [0] := by decide
  refine ⟨by decide, hcount, by decide, ?_, by decide, by decide, hoffset, ?_⟩
  · intro hsound
    have hpieces : (fragments trimmed.pieces).length = 1 := by decide
    have hwrong := hsound.localLength
    omega
  · intro hsound
    obtain ⟨hpos, -⟩ := hsound.between 0 (by rw [hoffset]; exact List.mem_singleton_self 0)
    omega

end Traced

end MarkupCompiler.FragmentBuffer
