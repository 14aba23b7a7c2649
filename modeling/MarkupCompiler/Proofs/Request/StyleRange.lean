import MarkupCompiler.Proofs.Request.AppendOnly
import MarkupCompiler.Proofs.Style.Mask

/-!
# Ranges of styles

A request that sets a text style stays inside the text of one block, whatever the block's intervals
were, and no range of text is styled twice. A request that sets a paragraph style covers one block
with its separator. No style is empty, so that every field mask names something.
-/

namespace MarkupCompiler

namespace Request

/-- The style object and the field mask of a request that sets a style. -/
def update? : Request → Option (Json × String)
  | .setParagraphStyle _ _ style => some (style.toJson, style.fields)
  | .setTextStyle _ _ style => some (style.toJson, style.fields)
  | _ => none

end Request

open PlacedBlock (place listRuns listRequests arrange)

namespace PlacedBlock

variable {config : Config} {regions : List TableRegion} {own : PlacedBlock → List Request}
  {index : Nat} {position : Int} {blocks : List Block}

/-- A request that concerns placed blocks: one of them makes it, or a list of them does. -/
inductive Concerns (ps : List PlacedBlock) : Request → Prop
  | block {p : PlacedBlock} {r : Request} (hp : p ∈ ps) (hmakes : p.Makes r) : Concerns ps r
  | bullets {first last : PlacedBlock} (hfirst : first ∈ ps) (hlast : last ∈ ps)
    (isOrdered : Bool) : Concerns ps (.setListBullet first.start last.textStop isOrdered)
  | indent {p : PlacedBlock} (hp : p ∈ ps) (config : Config) (level : Int) :
    Concerns ps (.setParagraphStyle p.start p.stop (config.levelIndent level))

theorem concerns_of_mem_arrange
    (hown : ∀ p ∈ place index position blocks, p.requests config regions = .ok (own p))
    {r : Request} (h : r ∈ arrange config own [] (listRuns (place index position blocks))) :
    Concerns (place index position blocks) r := by
  have hflatten := flatten_listRuns (place index position blocks)
  rcases mem_arrange h with h | ⟨p, hp, h⟩ | ⟨run, hrun, h⟩
  · exact absurd h List.not_mem_nil
  · rw [hflatten] at hp
    exact .block hp (makes_of_mem_own (hown p hp) h)
  · have hmem : ∀ p ∈ run, p ∈ place index position blocks := by
      intro p hp
      rw [← hflatten]
      exact List.mem_flatten.mpr ⟨run, hrun, hp⟩
    rcases mem_listRequests h with
      ⟨first, hfirst, last, hlast, isOrdered, -, rfl⟩ | ⟨p, hp, level, rfl⟩
    · exact .bullets (hmem first hfirst) (hmem last hlast) isOrdered
    · exact .indent (hmem p hp) config level

/-- A property of placed blocks that pins down a position holds of one block at most. -/
theorem existsUnique_of_mem_place {P : PlacedBlock → Prop} {p : PlacedBlock} {a : Int}
    (hp : p ∈ place index position blocks) (hP : P p)
    (hcovers : ∀ q, P q → q.start ≤ a ∧ a < q.stop) :
    ∃! k : Nat, ∃ q : PlacedBlock, (place index position blocks)[k]? = some q ∧ P q := by
  obtain ⟨k, hk⟩ := List.mem_iff_getElem?.mp hp
  refine ⟨k, ⟨p, hk, hP⟩, ?_⟩
  rintro j ⟨q, hq, hQ⟩
  exact index_unique hq hk (hcovers q hQ) (hcovers p hP)

theorem nodup_arrange
    (hown : ∀ p ∈ place index position blocks, p.requests config regions = .ok (own p)) :
    (((arrange config own [] (listRuns (place index position blocks))).filterMap
      Request.textInterval?).map StyleInterval.range).Nodup := by
  have hlist := filterMap_listRequests (f := Request.textInterval?) config (fun _ _ _ => rfl)
    fun _ _ _ => rfl
  rw [filterMap_arrange hlist rfl, flatten_listRuns, List.map_flatMap]
  have hmember : ∀ p ∈ place index position blocks, ∀ range ∈
      ((own p).filterMap Request.textInterval?).map StyleInterval.range,
        p.start ≤ range.1 ∧ range.1 < p.stop := by
    intro p hp range hrange
    obtain ⟨i, hi, rfl⟩ := List.mem_map.mp hrange
    obtain ⟨r, hr, hri⟩ := List.mem_filterMap.mp hi
    cases makes_of_mem_own (hown p hp) hr with
    | text hstyle hlow hne hhigh =>
      obtain rfl := Option.some.inj hri
      have hstop := p.stop_eq
      simp only [StyleInterval.range]
      omega
    | table => exact absurd hri (by simp [Request.textInterval?])
    | insertion => exact absurd hri (by simp [Request.textInterval?])
    | paragraph => exact absurd hri (by simp [Request.textInterval?])
  refine List.nodup_flatMap.mpr ⟨fun p hp => ?_, ?_⟩
  · obtain ⟨paragraph, text, hparts⟩ := Block.exists_parts (hown p hp)
    rw [hparts.own_eq, List.filterMap_append,
      Block.filterMap_tableRequests _ fun _ _ _ => rfl, List.filterMap_cons_none rfl,
      List.filterMap_append, Block.filterMap_paragraphRequests hparts.paragraph_eq fun _ _ _ => rfl]
    exact Block.nodup_textRequests hparts.text_eq
  · refine (pairwise_place index position blocks).imp_of_mem fun {p q} hp hq hbefore => ?_
    intro range hrange hrange'
    have hpRange := hmember p hp range hrange
    have hqRange := hmember q hq range hrange'
    omega

end PlacedBlock

namespace Config

theorem levelIndent_isEmpty (config : Config) (level : Int) :
    (config.levelIndent level).isEmpty = false := rfl

end Config

namespace Generator

/-- Style requests that fit the blocks, when these are inserted one after another. -/
structure StylesFit (start : Int) (blocks : List Block) (requests : List Request) : Prop where
  /-- The blocks are inserted in their places. -/
  insertions : requests.filterMap Request.insertion? =
    (place 0 start blocks).map fun p => (p.start, p.block.text ++ ['\n'])
  /-- A styled range of text is not empty and lies inside the text of exactly one block. -/
  text_style : ∀ a z style, .setTextStyle a z style ∈ requests → a < z ∧
    ∃! k : Nat, ∃ p : PlacedBlock, (place 0 start blocks)[k]? = some p ∧ p.start ≤ a ∧
      z ≤ p.start + p.block.text.length
  /-- No range of text is styled twice. -/
  text_ranges : ((requests.filterMap Request.textInterval?).map StyleInterval.range).Nodup
  /-- A paragraph style covers exactly one block with its separator. -/
  paragraph_style : ∀ a z style, .setParagraphStyle a z style ∈ requests →
    ∃! k : Nat, ∃ p : PlacedBlock, (place 0 start blocks)[k]? = some p ∧ a = p.start ∧
      z = p.start + p.block.text.length + 1
  /-- The mask of a style names the members of its object, and there are some. -/
  present : ∀ r ∈ requests, ∀ style mask, r.update? = some (style, mask) →
    ∃ members, style = .obj members ∧ Masks mask members

/-- A call that succeeds sets styles of blocks only, and no empty ones. -/
theorem generate_styles_fit {blocks : List Block} {start : Int} {g g' : Generator}
    {requests : List Request} (h : generate blocks (.int start) g = (.ok requests, g')) :
    StylesFit start blocks requests := by
  obtain ⟨own, hown, hrequests, -⟩ := exists_arranged h
  have hconcerns : ∀ r ∈ requests, PlacedBlock.Concerns (place 0 start blocks) r := by
    intro r hr
    rw [hrequests] at hr
    exact PlacedBlock.concerns_of_mem_arrange hown hr
  constructor
  · rw [hrequests]
    exact PlacedBlock.insertions_arrange hown
  · intro a z style hr
    cases hconcerns _ hr with
    | block hp hmakes =>
      cases hmakes with
      | text hstyle hlow hne hhigh =>
        have hcovers : ∀ q : PlacedBlock,
            q.start ≤ a ∧ z ≤ q.start + q.block.text.length → q.start ≤ a ∧ a < q.stop := by
          intro q hq
          have hstop := q.stop_eq
          unfold PlacedBlock.textStop at hstop
          omega
        exact ⟨hne, PlacedBlock.existsUnique_of_mem_place hp ⟨hlow, hhigh⟩ hcovers⟩
  · rw [hrequests]
    exact PlacedBlock.nodup_arrange hown
  · intro a z style hr
    have hcovers : ∀ q : PlacedBlock,
        a = q.start ∧ z = q.start + q.block.text.length + 1 → q.start ≤ a ∧ a < q.stop := by
      intro q hq
      have hstop := q.stop_eq
      unfold PlacedBlock.textStop at hstop
      omega
    cases hconcerns _ hr with
    | block hp hmakes =>
      cases hmakes with
      | paragraph hstyle =>
        exact PlacedBlock.existsUnique_of_mem_place hp ⟨rfl, PlacedBlock.stop_eq _⟩ hcovers
    | indent hp config level =>
      exact PlacedBlock.existsUnique_of_mem_place hp ⟨rfl, PlacedBlock.stop_eq _⟩ hcovers
  · intro r hr object mask hupdate
    cases hconcerns r hr with
    | block hp hmakes =>
      cases hmakes with
      | table => exact absurd hupdate (by simp [Request.update?])
      | insertion => exact absurd hupdate (by simp [Request.update?])
      | paragraph hstyle =>
        obtain ⟨rfl, rfl⟩ := Prod.mk.inj (Option.some.inj hupdate)
        exact ⟨_, rfl, ParagraphStyle.masks_fields hstyle⟩
      | text hstyle =>
        obtain ⟨rfl, rfl⟩ := Prod.mk.inj (Option.some.inj hupdate)
        exact ⟨_, rfl, TextStyle.masks_fields hstyle⟩
    | bullets => exact absurd hupdate (by simp [Request.update?])
    | indent hp config level =>
      obtain ⟨rfl, rfl⟩ := Prod.mk.inj (Option.some.inj hupdate)
      exact ⟨_, rfl, ParagraphStyle.masks_fields (Config.levelIndent_isEmpty config level)⟩

/-- Intervals that begin before the text, end behind it, are reversed or lie behind the text. -/
theorem generate_styles_fit_clamped :
    let bold : TextStyle := { bold := some true }
    let italic : TextStyle := { italic := some true }
    let block : Block :=
      { text := ['a', 'b'],
        intervals := [⟨-3, 1, bold⟩, ⟨2, 1, bold⟩, ⟨0, 1, italic⟩, ⟨1, 9, italic⟩, ⟨5, 7, bold⟩] }
    let requests : List Request :=
      [.insertText 1 ['\n'], .setParagraphStyle 1 2 .normal, .insertText 2 ['a', 'b', '\n'],
        .setParagraphStyle 2 5 .normal, .setTextStyle 2 3 (bold.merged italic),
        .setTextStyle 3 4 italic]
    generate [{ text := [] }, block] (.int 1) {} = (.ok requests, { cursor := 5 }) ∧
      StylesFit 1 [{ text := [] }, block] requests := by
  intro bold italic block requests
  have hgenerate : generate [{ text := [] }, block] (.int 1) {} =
      (.ok requests, { cursor := 5 }) := generate_of_run (by decide) (by decide +kernel)
  exact ⟨hgenerate, generate_styles_fit hgenerate⟩

end Generator

end MarkupCompiler
