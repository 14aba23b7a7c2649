import MarkupCompiler.Request.Generator

/-!
# Blocks in their places

Blocks that are inserted one after another, each with its separator, form a stream. A block's place
in the stream is its number and the position of its first character. The ranges of placed blocks
adjoin: none overlaps another, and together they are the stream.
-/

namespace MarkupCompiler

namespace Block

/-- What a block adds to the stream. -/
def inserted (b : Block) : Text := b.text ++ separator

def stream (blocks : List Block) : Text := blocks.flatMap inserted

theorem extent_eq (b : Block) : b.extent = b.inserted.length := by
  simp [extent, inserted, separator]

theorem extent_pos (b : Block) : 0 < b.extent := by
  rw [extent]
  omega

@[simp] theorem stream_nil : stream [] = [] := rfl

@[simp] theorem stream_cons (b : Block) (blocks : List Block) :
    stream (b :: blocks) = b.inserted ++ stream blocks := rfl

@[simp] theorem stream_append (before after : List Block) :
    stream (before ++ after) = stream before ++ stream after := List.flatMap_append

end Block

/-- A block, its number, and the position of its first character. -/
structure PlacedBlock where
  index : Nat
  start : Int
  block : Block

namespace PlacedBlock

/-- Where the text ends and the separator stands. -/
def textStop (p : PlacedBlock) : Int := p.start + p.block.text.length

/-- Where the separator ends. -/
def stop (p : PlacedBlock) : Int := p.start + p.block.extent

theorem stop_eq (p : PlacedBlock) : p.stop = p.textStop + 1 := by
  unfold stop textStop Block.extent
  omega

theorem start_le_textStop (p : PlacedBlock) : p.start ≤ p.textStop := by
  unfold textStop
  omega

/-- Blocks placed one after another, numbered from `index` on. -/
def place (index : Nat) (start : Int) : List Block → List PlacedBlock
  | [] => []
  | b :: blocks => ⟨index, start, b⟩ :: place (index + 1) (start + b.extent) blocks

theorem place_append (index : Nat) (start : Int) (before after : List Block) :
    place index start (before ++ after) =
      place index start before ++
        place (index + before.length) (start + (Block.stream before).length) after := by
  induction before generalizing index start with
  | nil => simp [place]
  | cons b before ih =>
    have hindex : index + 1 + before.length = index + (b :: before).length := by
      simp only [List.length_cons]
      omega
    have hstart : start + b.extent + (Block.stream before).length =
        start + (Block.stream (b :: before)).length := by
      rw [Block.extent_eq, Block.stream_cons, List.length_append]
      omega
    rw [List.cons_append, place, ih, hindex, hstart]
    rfl

@[simp] theorem map_block_place (index : Nat) (start : Int) (blocks : List Block) :
    (place index start blocks).map block = blocks := by
  induction blocks generalizing index start with
  | nil => rfl
  | cons b blocks ih => rw [place, List.map_cons, ih]

@[simp] theorem length_place (index : Nat) (start : Int) (blocks : List Block) :
    (place index start blocks).length = blocks.length := by
  rw [← List.length_map (f := block), map_block_place]

/-- A cut between placed blocks is a cut between the blocks. -/
theorem exists_of_append_eq_place {ps qs : List PlacedBlock} {index : Nat} {start : Int}
    {blocks : List Block} (h : ps ++ qs = place index start blocks) :
    ∃ before after, blocks = before ++ after ∧ ps = place index start before ∧
      qs = place (index + before.length) (start + (Block.stream before).length) after := by
  have hblocks := congrArg (List.map block) h
  rw [map_block_place, List.map_append] at hblocks
  refine ⟨ps.map block, qs.map block, hblocks.symm, ?_⟩
  rw [← hblocks, place_append] at h
  exact List.append_inj h (by simp)

/-- A block starts where the stream of the blocks before it ends. -/
theorem getElem?_place (index : Nat) (start : Int) (blocks : List Block) (k : Nat) :
    (place index start blocks)[k]? =
      blocks[k]?.map fun b => ⟨index + k, start + (Block.stream (blocks.take k)).length, b⟩ := by
  induction blocks generalizing index start k with
  | nil => rfl
  | cons b blocks ih =>
    cases k with
    | zero => simp [place]
    | succ k =>
      have hindex : index + 1 + k = index + (k + 1) := by omega
      have hstart : start + b.extent + (Block.stream (blocks.take k)).length =
          start + (Block.stream ((b :: blocks).take (k + 1))).length := by
        rw [Block.extent_eq, List.take_succ_cons, Block.stream_cons, List.length_append]
        omega
      rw [place, List.getElem?_cons_succ, List.getElem?_cons_succ, ih, hindex, hstart]

/-- A placed block lies within the stream, and behind the blocks that were placed before it. -/
theorem bounds_of_mem_place {index : Nat} {start : Int} {blocks : List Block} {p : PlacedBlock}
    (h : p ∈ place index start blocks) :
    index ≤ p.index ∧ start ≤ p.start ∧ p.stop ≤ start + (Block.stream blocks).length := by
  induction blocks generalizing index start with
  | nil => exact absurd h List.not_mem_nil
  | cons b blocks ih =>
    have hpos := b.extent_pos
    have hlength : (Block.stream (b :: blocks)).length =
        b.extent + (Block.stream blocks).length := by
      rw [Block.extent_eq, Block.stream_cons, List.length_append]
      omega
    rcases List.mem_cons.mp h with rfl | h
    · unfold stop
      refine ⟨?_, ?_, ?_⟩ <;> simp only <;> omega
    · obtain ⟨hindex, hstart, hstop⟩ := ih h
      refine ⟨?_, ?_, ?_⟩ <;> omega

theorem pairwise_place (index : Nat) (start : Int) (blocks : List Block) :
    (place index start blocks).Pairwise fun p q => p.index < q.index ∧ p.stop ≤ q.start := by
  induction blocks generalizing index start with
  | nil => exact List.Pairwise.nil
  | cons b blocks ih =>
    refine List.pairwise_cons.mpr ⟨fun q hq => ?_, ih _ _⟩
    obtain ⟨hindex, hstart, -⟩ := bounds_of_mem_place hq
    exact ⟨hindex, hstart⟩

/-- Two numbers whose placed blocks share a position are the same. -/
theorem index_unique {index : Nat} {start : Int} {blocks : List Block} {j k : Nat}
    {p q : PlacedBlock} (hp : (place index start blocks)[j]? = some p)
    (hq : (place index start blocks)[k]? = some q) {a : Int} (hpa : p.start ≤ a ∧ a < p.stop)
    (hqa : q.start ≤ a ∧ a < q.stop) : j = k := by
  have horder := List.pairwise_iff_getElem.mp (pairwise_place index start blocks)
  obtain ⟨hj, rfl⟩ := List.getElem?_eq_some_iff.mp hp
  obtain ⟨hk, rfl⟩ := List.getElem?_eq_some_iff.mp hq
  rcases Nat.lt_trichotomy j k with hlt | heq | hgt
  · have hbefore := (horder j k hj hk hlt).2
    omega
  · exact heq
  · have hbefore := (horder k j hk hj hgt).2
    omega

end PlacedBlock

end MarkupCompiler
