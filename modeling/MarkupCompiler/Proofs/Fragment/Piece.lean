import MarkupCompiler.FragmentBuffer
import MarkupCompiler.Proofs.Text.Solid

/-!
# Buffers character by character

Each character of a buffer is a separator or comes from a fragment. A traced buffer keeps this
origin beside the buffer: what is put in before a fragment are separators, and trimming takes
characters of either origin off the end. The buffer itself keeps only a number of characters and
a list of offsets; whether these agree with the origins is a question about the steps taken.
-/

namespace MarkupCompiler.FragmentBuffer

def separatorsFor (isSeparate : Bool) (normal : Text) (b : FragmentBuffer) : Text :=
  (b.addBoundary.addSpace isSeparate normal).text.drop b.text.length

/-- The buffer `b'` is `b` with the separators `put` at its end, ready for a fragment. -/
structure Separates (b b' : FragmentBuffer) (normal put : Text) : Prop where
  text : b'.text = b.text ++ put
  separators : b'.separators = b.separators ++ put.map fun _ => b.localLength
  localLength : b'.localLength = b.localLength
  preserve : b'.preserve = b.preserve
  shape : put = [] ∨ put = ['\n'] ∧ b.atBlockStart = false ∨
    put = [' '] ∧ b.atBlockStart = false ∧ normal.head? ≠ some '\n'

theorem Separates.eq {b b' : FragmentBuffer} {normal put : Text}
    (h : Separates b b' normal put) : put = b'.text.drop b.text.length := by
  rw [h.text, List.drop_left]

/-- At most one separator is put in: a line feed if a boundary is due, else a space if one is. -/
theorem exists_separates (isSeparate : Bool) (normal : Text) (b : FragmentBuffer) :
    ∃ put, Separates b (b.addBoundary.addSpace isSeparate normal) normal put := by
  by_cases hboundary : (b.needsBoundary && !b.atBlockStart) = true
  · have hstart : b.atBlockStart = false := by
      simp only [Bool.and_eq_true, Bool.not_eq_true'] at hboundary
      exact hboundary.2
    refine ⟨['\n'], ?_⟩
    unfold addBoundary addSpace
    rw [if_pos hboundary]
    simp only [Bool.and_false, Bool.false_and, Bool.false_eq_true, if_false]
    exact ⟨rfl, rfl, rfl, rfl, Or.inr (Or.inl ⟨rfl, hstart⟩)⟩
  · unfold addBoundary addSpace
    rw [if_neg hboundary]
    split
    · next hspace =>
      simp only [Bool.and_eq_true, Bool.not_eq_true', bne_iff_ne] at hspace
      obtain ⟨⟨⟨⟨⟨-, hstart⟩, -⟩, -⟩, -⟩, hhead⟩ := hspace
      exact ⟨[' '], rfl, rfl, rfl, rfl, Or.inr (Or.inr ⟨rfl, hstart, hhead⟩)⟩
    · exact ⟨[], by simp, by simp, rfl, rfl, Or.inl rfl⟩

theorem separates (isSeparate : Bool) (normal : Text) (b : FragmentBuffer) :
    Separates b (b.addBoundary.addSpace isSeparate normal) normal
      (b.separatorsFor isSeparate normal) := by
  obtain ⟨put, h⟩ := exists_separates isSeparate normal b
  unfold separatorsFor
  rwa [← h.eq]

/-- An operation on a buffer. -/
inductive Step where
  | append (fragment : Text) (isSeparate : Bool)
  | markBoundary
  | trimNewlines
  | registerStyle (interval : StyleInterval)
  | registerStyles (offset : Int) (intervals : List StyleInterval)
  | flush
  deriving Repr, DecidableEq

/-- A character of a buffer, and whether it is a separator. -/
structure Piece where
  char : Char
  isSeparator : Bool
  deriving Repr, DecidableEq

namespace Piece

def separator (c : Char) : Piece := ⟨c, true⟩

def ofFragment (c : Char) : Piece := ⟨c, false⟩

/-- The text that pieces make up. -/
def text (ps : List Piece) : Text := ps.map char

def fragments (ps : List Piece) : Text := (ps.filter fun p => !p.isSeparator).map char

/-- The offsets of the separators, counting the characters of fragments from `n` on. -/
def offsetsFrom : Int → List Piece → List Int
  | _, [] => []
  | n, p :: ps => if p.isSeparator then n :: offsetsFrom n ps else offsetsFrom (n + 1) ps

@[simp] theorem text_append (ps qs : List Piece) : text (ps ++ qs) = text ps ++ text qs :=
  List.map_append

@[simp] theorem text_separators (t : Text) : text (t.map separator) = t := by
  unfold text
  rw [List.map_map]
  exact List.map_id t

@[simp] theorem text_ofFragment (t : Text) : text (t.map ofFragment) = t := by
  unfold text
  rw [List.map_map]
  exact List.map_id t

@[simp] theorem fragments_append (ps qs : List Piece) :
    fragments (ps ++ qs) = fragments ps ++ fragments qs := by
  simp [fragments]

@[simp] theorem fragments_separators (t : Text) : fragments (t.map separator) = [] := by
  unfold fragments
  rw [List.map_eq_nil_iff, List.filter_eq_nil_iff]
  intro p hp
  obtain ⟨c, -, rfl⟩ := List.mem_map.mp hp
  exact Bool.false_ne_true

theorem isSeparator_of_mem_ofFragment {t : Text} {p : Piece} (hp : p ∈ t.map ofFragment) :
    p.isSeparator = false := by
  obtain ⟨c, -, rfl⟩ := List.mem_map.mp hp
  rfl

@[simp] theorem fragments_ofFragment (t : Text) : fragments (t.map ofFragment) = t := by
  have hall : (t.map ofFragment).filter (fun p => !p.isSeparator) = t.map ofFragment := by
    refine List.filter_eq_self.mpr fun p hp => ?_
    rw [isSeparator_of_mem_ofFragment hp]
    rfl
  unfold fragments
  rw [hall]
  exact text_ofFragment t

theorem offsetsFrom_append (n : Int) (ps qs : List Piece) :
    offsetsFrom n (ps ++ qs) = offsetsFrom n ps ++ offsetsFrom (n + (fragments ps).length) qs := by
  induction ps generalizing n with
  | nil => simp [offsetsFrom, fragments]
  | cons p ps ih =>
    rw [List.cons_append, offsetsFrom, offsetsFrom, ih, ih]
    by_cases hp : p.isSeparator = true
    · simp [hp, fragments]
    · rw [Bool.not_eq_true] at hp
      simp [hp, fragments, Int.add_assoc, Int.add_comm 1]

theorem offsetsFrom_separators (n : Int) (t : Text) :
    offsetsFrom n (t.map separator) = t.map fun _ => n := by
  induction t with
  | nil => rfl
  | cons c t ih =>
    rw [List.map_cons, offsetsFrom, ih]
    rfl

theorem offsetsFrom_eq_nil_iff {n : Int} {ps : List Piece} :
    offsetsFrom n ps = [] ↔ ∀ p ∈ ps, p.isSeparator = false := by
  induction ps generalizing n with
  | nil => simp [offsetsFrom]
  | cons p ps ih =>
    rw [offsetsFrom, List.forall_mem_cons]
    by_cases hp : p.isSeparator = true
    · simp [hp]
    · rw [Bool.not_eq_true] at hp
      simp [hp, ih]

/-- Every character is a separator or one of a fragment. -/
theorem length_eq (n : Int) (ps : List Piece) :
    ps.length = (fragments ps).length + (offsetsFrom n ps).length := by
  induction ps generalizing n with
  | nil => rfl
  | cons p ps ih =>
    rw [List.length_cons, offsetsFrom]
    by_cases hp : p.isSeparator = true
    · have hrest := ih n
      simp only [hp, if_true, fragments, List.filter_cons, Bool.not_true, Bool.false_eq_true,
        if_false, List.length_cons] at hrest ⊢
      omega
    · rw [Bool.not_eq_true] at hp
      have hrest := ih (n + 1)
      simp only [hp, Bool.false_eq_true, if_false, fragments, List.filter_cons, Bool.not_false,
        if_true, List.map_cons, List.length_cons] at hrest ⊢
      omega

theorem bounds_of_mem_offsetsFrom {n x : Int} {ps : List Piece} (h : x ∈ offsetsFrom n ps) :
    n ≤ x ∧ x ≤ n + (fragments ps).length := by
  induction ps generalizing n with
  | nil => exact absurd h (by simp [offsetsFrom])
  | cons p ps ih =>
    rw [offsetsFrom] at h
    by_cases hp : p.isSeparator = true
    · rw [if_pos hp] at h
      have hsame : fragments (p :: ps) = fragments ps := by simp [fragments, hp]
      rw [hsame]
      rcases List.mem_cons.mp h with rfl | h
      · omega
      · exact ih h
    · rw [if_neg hp] at h
      have hmore : (fragments (p :: ps)).length = (fragments ps).length + 1 := by
        simp [fragments, hp]
      have hrest := ih h
      omega

/--
Pieces that begin and end with characters of fragments have no separator before the first character
and none behind the last one.
-/
theorem inside_of_mem_offsetsFrom {n x : Int} {mid init : List Piece} {c d : Char}
    (hends : ofFragment c :: mid = init ++ [ofFragment d])
    (hx : x ∈ offsetsFrom n (ofFragment c :: mid)) :
    n < x ∧ x < n + (fragments (ofFragment c :: mid)).length := by
  have hlower : n + 1 ≤ x := (bounds_of_mem_offsetsFrom (show x ∈ offsetsFrom (n + 1) mid from hx)).1
  have hupper : x ≤ n + (fragments init).length := by
    rw [hends, offsetsFrom_append] at hx
    have hlast : offsetsFrom (n + (fragments init).length) [ofFragment d] = [] := rfl
    rw [hlast, List.append_nil] at hx
    exact (bounds_of_mem_offsetsFrom hx).2
  have hlength : (fragments (ofFragment c :: mid)).length = (fragments init).length + 1 := by
    rw [hends, fragments_append, List.length_append]
    rfl
  omega

end Piece

open Piece (offsetsFrom fragments)

namespace Step

def apply (b : FragmentBuffer) : Step → FragmentBuffer
  | .append fragment isSeparate => b.append fragment isSeparate
  | .markBoundary => b.markBoundary
  | .trimNewlines => b.trimNewlines
  | .registerStyle interval => b.registerStyle interval
  | .registerStyles offset intervals => b.registerStyles offset intervals
  | .flush => b.flush.2

def appended (preserve : Bool) : Step → Text
  | .append fragment _ => normalForm preserve fragment
  | _ => []

/-- The separators that a step puts before them. -/
def put (b : FragmentBuffer) : Step → Text
  | .append fragment isSeparate =>
    let normal := normalForm b.preserve fragment
    if normal.isEmpty then [] else b.separatorsFor isSeparate normal
  | _ => []

/-- The pieces of a buffer after a step, from those before it. -/
def pieces (b : FragmentBuffer) (ps : List Piece) : Step → List Piece
  | .trimNewlines => ps.take b.trimNewlines.text.length
  | .flush => []
  | s => ps ++ (s.put b).map .separator ++ (s.appended b.preserve).map .ofFragment

/-- The step takes nothing out of the buffer. -/
def isAddition : Step → Bool
  | .trimNewlines | .flush => false
  | _ => true

end Step

/-- The buffer `b'` is `b` with the separators `put` and the characters `normal` at its end. -/
structure Adds (b b' : FragmentBuffer) (put normal : Text) : Prop where
  text : b'.text = b.text ++ put ++ normal
  separators : b'.separators = b.separators ++ put.map fun _ => b.localLength
  localLength : b'.localLength = b.localLength + normal.length
  preserve : b'.preserve = b.preserve

theorem Adds.refl (b : FragmentBuffer) : Adds b b [] [] := by
  constructor
  · simp
  · simp
  · simp
  · rfl

theorem adds_append (b : FragmentBuffer) (fragment : Text) (isSeparate : Bool) :
    Adds b (b.append fragment isSeparate) (Step.put b (.append fragment isSeparate))
      (normalForm b.preserve fragment) := by
  unfold append Step.put
  cases hempty : (normalForm b.preserve fragment).isEmpty with
  | true =>
    have hnil : normalForm b.preserve fragment = [] := List.isEmpty_iff.mp hempty
    simp only [hnil]
    exact Adds.refl b
  | false =>
    have hseparates := separates isSeparate (normalForm b.preserve fragment) b
    simp only [hempty, Bool.false_eq_true, if_false]
    constructor
    · exact congrArg (· ++ _) hseparates.text
    · exact hseparates.separators
    · exact congrArg (· + _) hseparates.localLength
    · exact hseparates.preserve

/-- Marking a boundary changes a flag, and registering changes the ranges. -/
theorem adds_of_isAddition {s : Step} (hs : s.isAddition = true) (b : FragmentBuffer) :
    Adds b (s.apply b) (s.put b) (s.appended b.preserve) := by
  have hrefl := Adds.refl b
  cases s with
  | append fragment isSeparate => exact adds_append b fragment isSeparate
  | markBoundary =>
    show Adds b b.markBoundary [] []
    unfold markBoundary
    split
    · exact ⟨hrefl.text, hrefl.separators, hrefl.localLength, rfl⟩
    · exact hrefl
  | registerStyle i =>
    show Adds b (b.registerStyle i) [] []
    unfold registerStyle
    split
    · exact hrefl
    · exact ⟨hrefl.text, hrefl.separators, hrefl.localLength, rfl⟩
  | registerStyles offset is =>
    show Adds b (b.registerStyles offset is) [] []
    unfold registerStyles
    simp only
    split
    · exact hrefl
    · exact ⟨hrefl.text, hrefl.separators, hrefl.localLength, rfl⟩
  | trimNewlines => exact absurd hs Bool.false_ne_true
  | flush => exact absurd hs Bool.false_ne_true

theorem Step.pieces_of_isAddition {s : Step} (hs : s.isAddition = true) (b : FragmentBuffer)
    (ps : List Piece) :
    s.pieces b ps =
      ps ++ (s.put b).map Piece.separator ++ (s.appended b.preserve).map Piece.ofFragment := by
  cases s with
  | trimNewlines => exact absurd hs Bool.false_ne_true
  | flush => exact absurd hs Bool.false_ne_true
  | _ => rfl

theorem Step.text_pieces {b : FragmentBuffer} {ps : List Piece} (h : Piece.text ps = b.text)
    (s : Step) : Piece.text (s.pieces b ps) = (s.apply b).text := by
  by_cases hs : s.isAddition = true
  · rw [pieces_of_isAddition hs, (adds_of_isAddition hs b).text, Piece.text_append,
      Piece.text_append, Piece.text_separators, Piece.text_ofFragment, h]
  · cases s with
    | trimNewlines =>
      obtain ⟨cut, hcut, -⟩ := Text.exists_trimEnd (· == '\n') b.text
      show (ps.take (Text.trimEnd (· == '\n') b.text).length).map Piece.char =
        Text.trimEnd (· == '\n') b.text
      rw [List.map_take]
      change (Piece.text ps).take _ = _
      rw [h]
      nth_rewrite 2 [hcut]
      exact List.take_left
    | flush => rfl
    | _ => exact absurd rfl hs

/-- A buffer, and where each character of its text comes from. -/
structure Traced where
  buffer : FragmentBuffer
  pieces : List Piece
  text_eq : Piece.text pieces = buffer.text

namespace Traced

def new (startIndex : Int) (preserve : Bool) : Traced where
  buffer := { startIndex := startIndex, preserve := preserve }
  pieces := []
  text_eq := rfl

def step (t : Traced) (s : Step) : Traced where
  buffer := s.apply t.buffer
  pieces := s.pieces t.buffer t.pieces
  text_eq := s.text_pieces t.text_eq

/-- Steps one after another. -/
def run (t : Traced) (steps : List Step) : Traced := steps.foldl step t

theorem run_append (t : Traced) (before after : List Step) :
    t.run (before ++ after) = (t.run before).run after := List.foldl_append

theorem run_concat (t : Traced) (steps : List Step) (s : Step) :
    t.run (steps ++ [s]) = (t.run steps).step s := List.foldl_concat ..

/-- The number and the offsets that the buffer keeps are those of its pieces. -/
structure Recorded (t : Traced) : Prop where
  localLength : t.buffer.localLength = (fragments t.pieces).length
  separators : t.buffer.separators = offsetsFrom 0 t.pieces

theorem recorded_new (startIndex : Int) (preserve : Bool) : (new startIndex preserve).Recorded :=
  ⟨rfl, rfl⟩

theorem fragments_step {t : Traced} {s : Step} (hs : s.isAddition = true) :
    fragments (t.step s).pieces = fragments t.pieces ++ s.appended t.buffer.preserve := by
  show fragments (s.pieces t.buffer t.pieces) = _
  rw [Step.pieces_of_isAddition hs, Piece.fragments_append, Piece.fragments_append,
    Piece.fragments_separators, Piece.fragments_ofFragment, List.append_nil]

/-- An addition is recorded: its separators stand at the offset that the buffer has reached. -/
theorem Recorded.step {t : Traced} (h : t.Recorded) {s : Step} (hs : s.isAddition = true) :
    (t.step s).Recorded := by
  have hadds := adds_of_isAddition hs t.buffer
  constructor
  · rw [fragments_step hs, List.length_append, Int.natCast_add, ← h.localLength]
    exact hadds.localLength
  · have hplain : ∀ p ∈ (s.appended t.buffer.preserve).map Piece.ofFragment,
        p.isSeparator = false := fun p => Piece.isSeparator_of_mem_ofFragment
    show (s.apply t.buffer).separators = offsetsFrom 0 (s.pieces t.buffer t.pieces)
    rw [hadds.separators, h.separators, Step.pieces_of_isAddition hs, Piece.offsetsFrom_append,
      Piece.offsetsFrom_append, Piece.offsetsFrom_separators, Piece.offsetsFrom_eq_nil_iff.mpr hplain,
      List.append_nil, Int.zero_add, ← h.localLength]

end Traced

end MarkupCompiler.FragmentBuffer
