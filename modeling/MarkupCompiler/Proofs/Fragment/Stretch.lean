import MarkupCompiler.Proofs.Fragment.Offset
import MarkupCompiler.Proofs.Fragment.Piece

/-!
# Local offsets in the buffer

As long as nothing is trimmed, the offsets that a buffer keeps are those of its separators. Then a
local offset is translated to the place of the character it counts, and a range of local offsets
to the stretch that begins and ends with the characters at its ends. Inside the stretch stand the
characters of the range and the separators between them. Later additions come behind the stretch
and do not change what its offsets are translated to.
-/

namespace MarkupCompiler.FragmentBuffer

open Piece (offsetsFrom fragments)

namespace Piece

/-- The pieces can be cut at each character of a fragment. -/
theorem exists_split {ps : List Piece} {k : Nat} (hk : k < (fragments ps).length) :
    ∃ before c after, ps = before ++ ofFragment c :: after ∧ (fragments before).length = k ∧
      (fragments ps)[k]? = some c := by
  induction ps generalizing k with
  | nil => exact absurd hk (Nat.not_lt_zero k)
  | cons p ps ih =>
    obtain ⟨c, isSeparator⟩ := p
    cases isSeparator with
    | true =>
      have hsame : ∀ qs, fragments (⟨c, true⟩ :: qs) = fragments qs := fun _ => rfl
      rw [hsame] at hk
      obtain ⟨before, d, after, hps, hlength, hget⟩ := ih hk
      refine ⟨⟨c, true⟩ :: before, d, after, ?_, ?_, ?_⟩
      · rw [hps]
        rfl
      · rw [hsame, hlength]
      · rw [hsame, hget]
    | false =>
      have hmore : ∀ qs, fragments (⟨c, false⟩ :: qs) = c :: fragments qs := fun _ => rfl
      cases k with
      | zero => exact ⟨[], c, ps, rfl, rfl, rfl⟩
      | succ k =>
        rw [hmore, List.length_cons] at hk
        obtain ⟨before, d, after, hps, hlength, hget⟩ := ih (Nat.lt_of_succ_lt_succ hk)
        refine ⟨⟨c, false⟩ :: before, d, after, ?_, ?_, ?_⟩
        · rw [hps]
          rfl
        · rw [hmore, List.length_cons, hlength]
        · rw [hmore, List.getElem?_cons_succ, hget]

end Piece

namespace Traced

/-! ## Translation at a character -/

section

variable {t : Traced} {before after : List Piece} {c : Char}

theorem separators_split (h : t.Recorded) (hsplit : t.pieces = before ++ Piece.ofFragment c :: after) :
    t.buffer.separators =
      offsetsFrom 0 before ++ offsetsFrom ((fragments before).length + 1) after := by
  rw [h.separators, hsplit, Piece.offsetsFrom_append, Int.zero_add]
  rfl

/-- The local offset of a character, as a start, is translated to its place. -/
theorem toBufferOffset_start (h : t.Recorded)
    (hsplit : t.pieces = before ++ Piece.ofFragment c :: after) :
    t.buffer.toBufferOffset (fragments before).length true = before.length := by
  have hlength := Piece.length_eq 0 before
  rw [toBufferOffset_append (separators_split h hsplit)]
  · omega
  · intro x hx
    obtain ⟨-, hle⟩ := Piece.bounds_of_mem_offsetsFrom hx
    exact Or.inr ⟨rfl, by omega⟩
  · intro x hx
    obtain ⟨hle, -⟩ := Piece.bounds_of_mem_offsetsFrom hx
    unfold Counts
    omega

/-- The local offset behind a character, as an end, is translated to just behind its place. -/
theorem toBufferOffset_stop (h : t.Recorded)
    (hsplit : t.pieces = before ++ Piece.ofFragment c :: after) :
    t.buffer.toBufferOffset ((fragments before).length + 1) false = before.length + 1 := by
  have hlength := Piece.length_eq 0 before
  rw [toBufferOffset_append (separators_split h hsplit)]
  · omega
  · intro x hx
    obtain ⟨-, hle⟩ := Piece.bounds_of_mem_offsetsFrom hx
    exact Or.inl (by omega)
  · intro x hx
    obtain ⟨hle, -⟩ := Piece.bounds_of_mem_offsetsFrom hx
    rintro (hlt | ⟨hfalse, -⟩)
    · omega
    · exact absurd hfalse Bool.false_ne_true

end

/-! ## Additions -/

/-- A buffer as it was made, or as a flush leaves it. -/
inductive Fresh : Traced → Prop where
  | new (startIndex : Int) (preserve : Bool) : Fresh (new startIndex preserve)
  | flushed (t : Traced) : Fresh (t.step .flush)

/-- The steps take nothing out of the buffer. -/
def Additions (steps : List Step) : Prop := ∀ s ∈ steps, s.isAddition = true

/-- The fragments that steps append, in normal form and one after another. -/
def appendedBy (preserve : Bool) (steps : List Step) : Text :=
  steps.flatMap (Step.appended preserve)

theorem Fresh.pieces_eq {t : Traced} (h : t.Fresh) : t.pieces = [] := by
  cases h with
  | new startIndex preserve => rfl
  | flushed t => rfl

theorem Fresh.recorded {t : Traced} (h : t.Fresh) : t.Recorded := by
  cases h with
  | new startIndex preserve => exact recorded_new startIndex preserve
  | flushed t => exact recorded_new t.buffer.endIndex t.buffer.preserve

/-- Additions are recorded, and put their characters behind all that is there. -/
theorem run_additions {t : Traced} (h : t.Recorded) {steps : List Step} (hsteps : Additions steps) :
    (t.run steps).Recorded ∧ t.pieces <+: (t.run steps).pieces ∧
      fragments (t.run steps).pieces =
        fragments t.pieces ++ appendedBy t.buffer.preserve steps := by
  induction steps generalizing t with
  | nil =>
    refine ⟨h, List.prefix_refl _, ?_⟩
    exact (List.append_nil _).symm
  | cons s steps ih =>
    obtain ⟨hs, hrest⟩ := List.forall_mem_cons.mp hsteps
    obtain ⟨hrecorded, hprefix, hfragments⟩ := ih (h.step hs) hrest
    have hpreserve : (t.step s).buffer.preserve = t.buffer.preserve :=
      (adds_of_isAddition hs t.buffer).preserve
    have hstep : t.pieces <+: (t.step s).pieces := by
      show t.pieces <+: s.pieces t.buffer t.pieces
      rw [Step.pieces_of_isAddition hs, List.append_assoc]
      exact List.prefix_append _ _
    refine ⟨hrecorded, hstep.trans hprefix, ?_⟩
    rw [fragments_step hs, hpreserve, List.append_assoc] at hfragments
    exact hfragments

/-! ## Stretches -/

/--
The stretch begins with the local character at `first` and ends with the one before `stop`. It holds
the characters from `first` up to `stop` and the separators that stand between them.
-/
structure Stretch (separators : List Int) (localText : Text) (first stop : Nat)
    (stretch : List Piece) : Prop where
  ne_nil : stretch ≠ []
  head : stretch.head? = localText[first]?.map Piece.ofFragment
  last : stretch.getLast? = localText[stop - 1]?.map Piece.ofFragment
  fragments : fragments stretch = (localText.drop first).take (stop - first)
  separators : offsetsFrom first stretch = separators.filter fun x => (first : Int) < x && x < stop

/-- The range of local offsets is translated to the place of a stretch, which the buffer holds. -/
structure Translates (t : Traced) (first stop : Nat) (before stretch : List Piece) : Prop where
  held : before ++ stretch <+: t.pieces
  start_eq : t.buffer.toBufferOffset first true = before.length
  stop_eq : t.buffer.toBufferOffset stop false = before.length + stretch.length
  text : (t.buffer.text.drop before.length).take stretch.length = Piece.text stretch

/-- A stretch between two characters of fragments is translated if the pieces begin with it. -/
theorem translates {t : Traced} (h : t.Recorded) {before mid init : List Piece} {c d : Char}
    (hends : Piece.ofFragment c :: mid = init ++ [Piece.ofFragment d])
    (hheld : before ++ Piece.ofFragment c :: mid <+: t.pieces) :
    t.Translates (fragments before).length ((fragments (before ++ init)).length + 1) before
      (Piece.ofFragment c :: mid) := by
  obtain ⟨after, hpieces⟩ := hheld
  have hfirst : t.pieces = before ++ Piece.ofFragment c :: (mid ++ after) := by
    rw [← hpieces, List.append_assoc, List.cons_append]
  have hlast : t.pieces = before ++ init ++ Piece.ofFragment d :: after := by
    rw [← hpieces, hends]
    simp
  have hlength : (Piece.ofFragment c :: mid).length = init.length + 1 := by
    rw [hends, List.length_append, List.length_singleton]
  constructor
  · exact ⟨after, hpieces⟩
  · exact toBufferOffset_start h hfirst
  · have hstop := toBufferOffset_stop h hlast
    rw [Int.natCast_add, Int.natCast_one, hstop, hlength, List.length_append, Int.natCast_add,
      Int.natCast_add, Int.natCast_one, Int.add_assoc]
  · rw [← t.text_eq, ← hpieces]
    unfold Piece.text
    rw [← List.map_drop, ← List.map_take, List.append_assoc, List.drop_left, List.take_left]

/-- Every range of local offsets that is not empty is the range of a stretch. -/
theorem exists_stretch {t : Traced} (h : t.Recorded) {first stop : Nat} (hlt : first < stop)
    (hstop : stop ≤ (fragments t.pieces).length) :
    ∃ before mid init c d, Piece.ofFragment c :: mid = init ++ [Piece.ofFragment d] ∧
      before ++ Piece.ofFragment c :: mid <+: t.pieces ∧ (fragments before).length = first ∧
      (fragments (before ++ init)).length + 1 = stop ∧
      Stretch t.buffer.separators (fragments t.pieces) first stop (Piece.ofFragment c :: mid) := by
  -- The pieces are cut behind the last character of the range, and the front before the first one.
  obtain ⟨front, d, after, hpieces, hfront, hd⟩ := Piece.exists_split (by omega :
    stop - 1 < (fragments t.pieces).length)
  have hwhole : (fragments (front ++ [Piece.ofFragment d])).length = stop := by
    rw [Piece.fragments_append, List.length_append, hfront]
    show stop - 1 + 1 = stop
    omega
  obtain ⟨before, c, mid, hcut, hbefore, hc⟩ := Piece.exists_split (by omega :
    first < (fragments (front ++ [Piece.ofFragment d])).length)
  obtain ⟨init, last, hends⟩ :=
    (List.eq_nil_or_concat' (Piece.ofFragment c :: mid)).resolve_left (by simp)
  rw [hends, ← List.append_assoc] at hcut
  obtain ⟨rfl, hd'⟩ := List.append_inj' hcut rfl
  obtain rfl : Piece.ofFragment d = last := by simpa using hd'
  have hstretch : t.pieces = before ++ (Piece.ofFragment c :: mid) ++ after := by
    rw [hpieces, hends]
    simp
  have hlocal : fragments t.pieces =
      fragments before ++ (fragments (Piece.ofFragment c :: mid) ++ fragments after) := by
    rw [hstretch, Piece.fragments_append, Piece.fragments_append, List.append_assoc]
  have hlength : (fragments (Piece.ofFragment c :: mid)).length = stop - first := by
    rw [List.append_assoc, ← hends, Piece.fragments_append, List.length_append, hbefore] at hwhole
    omega
  refine ⟨before, mid, init, c, d, hends, ⟨after, hstretch.symm⟩, hbefore, by omega, ?_⟩
  constructor
  · simp
  · have hget : (fragments t.pieces)[first]? = some c := by
      rw [hlocal, List.getElem?_append_right (Nat.le_of_eq hbefore), hbefore, Nat.sub_self]
      rfl
    rw [hget]
    rfl
  · rw [hends, List.getLast?_concat, hd]
    rfl
  · rw [hlocal, List.drop_left' hbefore, List.take_left' hlength]
  · have hseparators : t.buffer.separators =
        offsetsFrom 0 before ++ (offsetsFrom first (Piece.ofFragment c :: mid) ++
          offsetsFrom stop after) := by
      have hcount : (first : Int) + (stop - first : Nat) = stop := by omega
      rw [h.separators, hstretch, List.append_assoc, Piece.offsetsFrom_append,
        Piece.offsetsFrom_append, Int.zero_add, hbefore, hlength, hcount]
    have hbelow : (offsetsFrom 0 before).filter (fun x => (first : Int) < x && x < stop) = [] := by
      refine List.filter_eq_nil_iff.mpr fun x hx => ?_
      obtain ⟨-, hle⟩ := Piece.bounds_of_mem_offsetsFrom hx
      simp only [Bool.and_eq_true, decide_eq_true_eq]
      omega
    have habove : (offsetsFrom stop after).filter (fun x => (first : Int) < x && x < stop) = [] := by
      refine List.filter_eq_nil_iff.mpr fun x hx => ?_
      obtain ⟨hle, -⟩ := Piece.bounds_of_mem_offsetsFrom hx
      simp only [Bool.and_eq_true, decide_eq_true_eq]
      omega
    have hinside : (offsetsFrom first (Piece.ofFragment c :: mid)).filter
        (fun x => (first : Int) < x && x < stop) = offsetsFrom first (Piece.ofFragment c :: mid) := by
      refine List.filter_eq_self.mpr fun x hx => ?_
      obtain ⟨hlower, hupper⟩ := Piece.inside_of_mem_offsetsFrom hends hx
      simp only [Bool.and_eq_true, decide_eq_true_eq]
      omega
    rw [hseparators, List.filter_append, List.filter_append, hbelow, habove, hinside,
      List.nil_append, List.append_nil]

/-! ## Runs -/

/-- The local offset of a character is translated to its place. -/
theorem exists_place {t : Traced} (h : t.Recorded) {k : Nat} (hk : k < (fragments t.pieces).length) :
    ∃ i : Nat, t.buffer.toBufferOffset k true = i ∧
      t.pieces[i]? = (fragments t.pieces)[k]?.map Piece.ofFragment := by
  obtain ⟨before, c, after, hpieces, hbefore, hc⟩ := Piece.exists_split hk
  refine ⟨before.length, ?_, ?_⟩
  · rw [← hbefore]
    exact toBufferOffset_start h hpieces
  · rw [hc, hpieces, List.getElem?_append_right (Nat.le_refl _), Nat.sub_self]
    rfl

/--
After additions to a fresh buffer, what is left of it without its separators are the fragments in
normal form. Local offsets are translated to the places of their characters, and ranges of them to
the stretches of their characters, now and after further additions.
-/
theorem offsets_translated {t : Traced} (hfresh : t.Fresh) {steps : List Step}
    (hsteps : Additions steps) :
    let filled := t.run steps
    let localText := appendedBy t.buffer.preserve steps
    filled.buffer.localLength = localText.length ∧
      Piece.text filled.pieces = filled.buffer.text ∧ fragments filled.pieces = localText ∧
      (∀ k < localText.length, ∃ i : Nat, filled.buffer.toBufferOffset k true = i ∧
        filled.pieces[i]? = localText[k]?.map Piece.ofFragment ∧
        filled.buffer.text[i]? = localText[k]?) ∧
      ∀ first stop, first < stop → stop ≤ localText.length → ∃ before stretch,
        Stretch filled.buffer.separators localText first stop stretch ∧
        ∀ more, Additions more → Translates (t.run (steps ++ more)) first stop before stretch := by
  intro filled localText
  obtain ⟨hrecorded, -, hfragments⟩ := run_additions hfresh.recorded hsteps
  have hlocal : fragments filled.pieces = localText := by
    rw [hfresh.pieces_eq] at hfragments
    exact hfragments
  refine ⟨?_, filled.text_eq, hlocal, ?_, ?_⟩
  · rw [← hlocal]
    exact hrecorded.localLength
  · intro k hk
    rw [← hlocal] at hk
    obtain ⟨i, hoffset, hpiece⟩ := exists_place hrecorded hk
    rw [hlocal] at hpiece
    refine ⟨i, hoffset, hpiece, ?_⟩
    rw [← filled.text_eq, Piece.text, List.getElem?_map, hpiece, Option.map_map]
    exact Option.map_id'
  · intro first stop hlt hstop
    rw [← hlocal] at hstop
    obtain ⟨before, mid, init, c, d, hends, hheld, hfirst, hlast, hstretch⟩ :=
      exists_stretch hrecorded hlt hstop
    rw [hlocal] at hstretch
    refine ⟨before, _, hstretch, fun more hmore => ?_⟩
    obtain ⟨hrecorded', hprefix, -⟩ := run_additions hrecorded hmore
    rw [run_append]
    have htranslates := translates hrecorded' hends (hheld.trans hprefix)
    rwa [hfirst, hlast] at htranslates

/-- A space and a line feed in the range, in a buffer that was flushed, and a fragment behind it. -/
theorem offsets_translated_separated :
    let t := (new 3 false).step .flush
    let steps : List Step :=
      [.append ['a', 'b'] true, .append ['c'] true, .markBoundary, .append ['d'] true]
    let more : List Step := [.registerStyle ⟨0, 4, { bold := some true }⟩, .append ['e'] true]
    t.Fresh ∧ Additions steps ∧ Additions more ∧ (t.run steps).buffer.localLength = 4 ∧
      (t.run steps).buffer.text = ['a', 'b', ' ', 'c', '\n', 'd'] ∧
      ∃ before stretch, Piece.text stretch = ['b', ' ', 'c', '\n', 'd'] ∧
        Translates (t.run (steps ++ more)) 1 4 before stretch := by
  intro t steps more
  have hfresh : t.Fresh := .flushed _
  have hsteps : Additions steps := by unfold Additions; decide
  have hmore : Additions more := by unfold Additions; decide
  obtain ⟨-, -, -, -, hranges⟩ := offsets_translated hfresh hsteps
  obtain ⟨before, stretch, -, htranslates⟩ := hranges 1 4 (by decide) (by decide)
  have hlater := htranslates more hmore
  have hfrom : (t.run (steps ++ more)).buffer.toBufferOffset (1 : Nat) true = 1 := by decide
  have hto : (t.run (steps ++ more)).buffer.toBufferOffset (4 : Nat) false = 6 := by decide
  have hstart := hlater.start_eq.symm.trans hfrom
  have hstop := hlater.stop_eq.symm.trans hto
  have hbefore : before.length = 1 := by omega
  have hlength : stretch.length = 5 := by omega
  refine ⟨hfresh, hsteps, hmore, by decide, by decide, before, stretch, ?_, hlater⟩
  rw [← hlater.text, hbefore, hlength]
  decide

end Traced

end MarkupCompiler.FragmentBuffer
