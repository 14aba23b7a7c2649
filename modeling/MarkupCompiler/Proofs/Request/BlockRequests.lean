import MarkupCompiler.Proofs.Interval.Ranges
import MarkupCompiler.Proofs.Request.Arrangement
import MarkupCompiler.Proofs.Request.Painting
import Mathlib.Data.List.Nodup

/-!
# The requests of one block

The requests of a block are the table that begins with it, its insertion, the style of its
paragraph and the styles of its text, in this order. Style requests are left out where the style is
empty. A list adds bullets and indents, and these only set styles of ranges.
-/

namespace MarkupCompiler

namespace Block

variable {config : Config} {start : Int} {b : Block}

structure Parts (config : Config) (region? : Option TableRegion) (start : Int) (b : Block)
    (own paragraph text : List Request) : Prop where
  own_eq : own = tableRequests start region? ++ .insertText start b.inserted :: (paragraph ++ text)
  paragraph_eq : b.paragraphRequests config start = .ok paragraph
  text_eq : b.textRequests config start = .ok text

theorem exists_parts {region? : Option TableRegion} {own : List Request}
    (h : b.requestsAt config region? start = .ok own) :
    ∃ paragraph text, Parts config region? start b own paragraph text := by
  obtain ⟨paragraph, text, hparagraph, htext, -, rfl⟩ := requestsAt_eq_ok_iff.mp h
  refine ⟨paragraph, text, ?_, hparagraph, htext⟩
  simp [inserted]

theorem mem_tableRequests {region? : Option TableRegion} {r : Request}
    (h : r ∈ tableRequests start region?) :
    ∃ rows columns, r = .createTable start rows columns := by
  cases region? with
  | none => exact absurd h List.not_mem_nil
  | some region => exact ⟨region.rows, region.columns, List.mem_singleton.mp h⟩

theorem mem_paragraphRequests {paragraph : List Request} {r : Request}
    (h : b.paragraphRequests config start = .ok paragraph) (hr : r ∈ paragraph) :
    ∃ style, config.paragraphStyleFor b.paragraphStyle = .ok style ∧ style.isEmpty = false ∧
      r = .setParagraphStyle start (start + b.extent) style := by
  rw [paragraphRequests] at h
  cases hstyle : config.paragraphStyleFor b.paragraphStyle with
  | error fault => rw [hstyle] at h; exact absurd h (by simp [Except.map])
  | ok style =>
    rw [hstyle] at h
    have hparagraph := Except.ok.inj h
    cases hempty : style.isEmpty with
    | true => simp [← hparagraph, hempty] at hr
    | false => exact ⟨style, rfl, hempty, by simpa [← hparagraph, hempty] using hr⟩

theorem textRequestsOf_cons {i : StyleInterval} {is : List StyleInterval} {text : List Request}
    (h : textRequestsOf config start (i :: is) = .ok text) :
    ∃ style rest, config.textStyleFor i.style = .ok style ∧
      textRequestsOf config start is = .ok rest ∧
      text = if style.isEmpty then rest
        else .setTextStyle (start + i.start) (start + i.stop) style :: rest := by
  rw [textRequestsOf] at h
  cases hstyle : config.textStyleFor i.style with
  | error fault => rw [hstyle] at h; exact absurd h (by simp)
  | ok style =>
    cases hrest : textRequestsOf config start is with
    | error fault => rw [hstyle, hrest] at h; exact absurd h (by simp [Except.map])
    | ok rest =>
      rw [hstyle, hrest] at h
      exact ⟨style, rest, rfl, rfl, (Except.ok.inj h).symm⟩

theorem mem_textRequestsOf {is : List StyleInterval} {text : List Request} {r : Request}
    (h : textRequestsOf config start is = .ok text) (hr : r ∈ text) :
    ∃ i ∈ is, ∃ style : TextStyle, style.isEmpty = false ∧
      r = .setTextStyle (start + i.start) (start + i.stop) style := by
  induction is generalizing text with
  | nil =>
    obtain rfl := Except.ok.inj h
    exact absurd hr List.not_mem_nil
  | cons i is ih =>
    obtain ⟨style, rest, -, hrest, rfl⟩ := textRequestsOf_cons h
    have hmore : r ∈ rest → ∃ j ∈ i :: is, ∃ style : TextStyle, style.isEmpty = false ∧
        r = .setTextStyle (start + j.start) (start + j.stop) style := by
      intro hr
      obtain ⟨j, hj, hset⟩ := ih hrest hr
      exact ⟨j, List.mem_cons_of_mem i hj, hset⟩
    split at hr
    · exact hmore hr
    · next hempty =>
      rcases List.mem_cons.mp hr with rfl | hr
      · exact ⟨i, List.mem_cons_self, style, Bool.eq_false_iff.mpr hempty, rfl⟩
      · exact hmore hr

theorem ranges_textRequestsOf {is : List StyleInterval} {text : List Request}
    (h : textRequestsOf config start is = .ok text) :
    ((text.filterMap Request.textInterval?).map StyleInterval.range).Sublist
      (is.map fun i => (start + i.start, start + i.stop)) := by
  induction is generalizing text with
  | nil =>
    obtain rfl := Except.ok.inj h
    exact List.Sublist.refl _
  | cons i is ih =>
    obtain ⟨style, rest, -, hrest, rfl⟩ := textRequestsOf_cons h
    have hsub := ih hrest
    split
    · exact hsub.cons _
    · exact hsub.cons_cons _

/-- The styles of a block's text stay inside the text. -/
theorem mem_textRequests {text : List Request} {r : Request}
    (h : b.textRequests config start = .ok text) (hr : r ∈ text) :
    ∃ a z style, r = .setTextStyle a z style ∧ style.isEmpty = false ∧
      start ≤ a ∧ a < z ∧ z ≤ start + b.text.length := by
  obtain ⟨i, hi, style, hstyle, rfl⟩ := mem_textRequestsOf h hr
  have hrange := ((StyleInterval.ranges_coalesce _).2 i.range).mp (List.mem_map_of_mem hi)
  obtain ⟨j, hj, hji⟩ := List.mem_map.mp hrange
  obtain ⟨hstart, hstop⟩ := Prod.mk.inj hji
  have hfits := StyleInterval.fits_of_mem_clampAll hj
  have hlow := hfits.start_nonneg
  have hne := hfits.start_lt_stop
  have hhigh := hfits.stop_le
  exact ⟨_, _, style, rfl, hstyle, by omega, by omega, by omega⟩

theorem nodup_textRequests {text : List Request} (h : b.textRequests config start = .ok text) :
    ((text.filterMap Request.textInterval?).map StyleInterval.range).Nodup := by
  have hsub := ranges_textRequestsOf h
  have hnodup := (StyleInterval.ranges_coalesce
    (StyleInterval.clampAll b.text.length b.intervals)).1
  have hinjective : Function.Injective fun a : Int × Int => (start + a.1, start + a.2) := by
    rintro ⟨a, z⟩ ⟨a', z'⟩ heq
    obtain ⟨ha, hz⟩ := Prod.mk.inj heq
    exact Prod.ext (by omega) (by omega)
  have hshifted := hnodup.map hinjective
  rw [List.map_map] at hshifted
  exact hsub.nodup hshifted

end Block

namespace Block

variable {config : Config} {start : Int} {b : Block} {β : Type} {f : Request → Option β}

theorem filterMap_tableRequests (region? : Option TableRegion)
    (hf : ∀ position rows columns, f (.createTable position rows columns) = none) :
    (tableRequests start region?).filterMap f = [] := by
  refine List.filterMap_eq_nil_iff.mpr fun r hr => ?_
  obtain ⟨rows, columns, rfl⟩ := mem_tableRequests hr
  exact hf _ _ _

theorem filterMap_paragraphRequests {paragraph : List Request}
    (h : b.paragraphRequests config start = .ok paragraph)
    (hf : ∀ a z style, f (.setParagraphStyle a z style) = none) : paragraph.filterMap f = [] := by
  refine List.filterMap_eq_nil_iff.mpr fun r hr => ?_
  obtain ⟨style, -, -, rfl⟩ := mem_paragraphRequests h hr
  exact hf _ _ _

theorem filterMap_textRequests {text : List Request} (h : b.textRequests config start = .ok text)
    (hf : ∀ a z style, f (.setTextStyle a z style) = none) : text.filterMap f = [] := by
  refine List.filterMap_eq_nil_iff.mpr fun r hr => ?_
  obtain ⟨a, z, style, rfl, -⟩ := mem_textRequests h hr
  exact hf _ _ _

/-- What no style has is found in the table and the insertion alone. -/
theorem filterMap_parts {region? : Option TableRegion} {own paragraph text : List Request}
    (h : Parts config region? start b own paragraph text)
    (hparagraph : ∀ a z style, f (.setParagraphStyle a z style) = none)
    (htext : ∀ a z style, f (.setTextStyle a z style) = none) :
    own.filterMap f =
      (tableRequests start region?).filterMap f ++ (f (.insertText start b.inserted)).toList := by
  rw [h.own_eq, List.filterMap_append, List.filterMap_cons, List.filterMap_append,
    filterMap_paragraphRequests h.paragraph_eq hparagraph, filterMap_textRequests h.text_eq htext]
  cases f (.insertText start b.inserted) with
  | none => rfl
  | some value => rfl

end Block

namespace PlacedBlock

inductive Makes (p : PlacedBlock) : Request → Prop
  | table (rows columns : Int) : Makes p (.createTable p.start rows columns)
  | insertion : Makes p (.insertText p.start p.block.inserted)
  | paragraph {style : ParagraphStyle} (hstyle : style.isEmpty = false) :
    Makes p (.setParagraphStyle p.start p.stop style)
  | text {a z : Int} {style : TextStyle} (hstyle : style.isEmpty = false) (hlow : p.start ≤ a)
    (hne : a < z) (hhigh : z ≤ p.textStop) : Makes p (.setTextStyle a z style)

theorem makes_of_mem_own {config : Config} {regions : List TableRegion} {p : PlacedBlock}
    {own : List Request} (hown : p.requests config regions = .ok own) {r : Request} (h : r ∈ own) :
    p.Makes r := by
  obtain ⟨paragraph, text, hparts⟩ := Block.exists_parts hown
  rw [hparts.own_eq] at h
  rcases List.mem_append.mp h with h | h
  · obtain ⟨rows, columns, rfl⟩ := Block.mem_tableRequests h
    exact .table rows columns
  rcases List.mem_cons.mp h with rfl | h
  · exact .insertion
  rcases List.mem_append.mp h with h | h
  · obtain ⟨style, -, hstyle, rfl⟩ := Block.mem_paragraphRequests hparts.paragraph_eq h
    exact .paragraph hstyle
  · obtain ⟨a, z, style, rfl, hstyle, hlow, hne, hhigh⟩ := Block.mem_textRequests hparts.text_eq h
    exact .text hstyle hlow hne hhigh

theorem mem_bullets {run : List PlacedBlock} {r : Request} (h : r ∈ bullets run) :
    ∃ first ∈ run, ∃ last ∈ run, ∃ isOrdered, first.listKind? = some isOrdered ∧
      first.start < last.textStop ∧ r = .setListBullet first.start last.textStop isOrdered := by
  cases run with
  | nil => exact absurd h List.not_mem_nil
  | cons first rest =>
    rw [bullets] at h
    cases hkind : first.listKind? with
    | none => rw [hkind] at h; exact absurd h List.not_mem_nil
    | some isOrdered =>
      rw [hkind] at h
      by_cases hne : first.start < (rest.getLastD first).textStop
      · simp only [if_pos hne, List.mem_singleton] at h
        exact ⟨first, List.mem_cons_self, _, List.getLastD_mem_cons .., isOrdered, hkind, hne, h⟩
      · simp only [if_neg hne] at h
        exact absurd h List.not_mem_nil

theorem indent?_eq_some {config : Config} {p : PlacedBlock} {r : Request}
    (h : p.indent? config = some r) :
    ∃ list, p.block.list? = some list ∧ list.nestingLevel ≠ 0 ∧
      r = .setParagraphStyle p.start p.stop (config.levelIndent list.nestingLevel) := by
  rw [indent?] at h
  cases hlist : p.block.list? with
  | none => rw [hlist] at h; exact absurd h (by simp)
  | some list =>
    rw [hlist] at h
    by_cases hlevel : list.nestingLevel = 0
    · simp only [if_pos hlevel] at h
      exact absurd h (by simp)
    · simp only [if_neg hlevel] at h
      exact ⟨list, rfl, hlevel, (Option.some.inj h).symm⟩

/-- A request for a list is its bullets or the indent of one of its items. -/
theorem mem_listRequests {config : Config} {run : List PlacedBlock} {r : Request}
    (h : r ∈ listRequests config run) :
    (∃ first ∈ run, ∃ last ∈ run, ∃ isOrdered, first.start < last.textStop ∧
      r = .setListBullet first.start last.textStop isOrdered) ∨
    ∃ p ∈ run, ∃ level, r = .setParagraphStyle p.start p.stop (config.levelIndent level) := by
  rcases List.mem_append.mp h with h | h
  · obtain ⟨first, hfirst, last, hlast, isOrdered, -, hne, hr⟩ := mem_bullets h
    exact Or.inl ⟨first, hfirst, last, hlast, isOrdered, hne, hr⟩
  · obtain ⟨p, hp, hindent⟩ := List.mem_filterMap.mp h
    obtain ⟨list, -, -, hr⟩ := indent?_eq_some hindent
    exact Or.inr ⟨p, hp, list.nestingLevel, hr⟩

theorem filterMap_listRequests {β : Type} {f : Request → Option β} (config : Config)
    (hbullet : ∀ a z isOrdered, f (.setListBullet a z isOrdered) = none)
    (hstyle : ∀ a z style, f (.setParagraphStyle a z style) = none) (run : List PlacedBlock) :
    (listRequests config run).filterMap f = [] := by
  refine List.filterMap_eq_nil_iff.mpr fun r hr => ?_
  rcases mem_listRequests hr with ⟨-, -, -, -, -, -, rfl⟩ | ⟨-, -, -, rfl⟩
  · exact hbullet _ _ _
  · exact hstyle _ _ _

variable {config : Config} {own : PlacedBlock → List Request}

theorem mem_arrange {pending : List Request} {runs : List (List PlacedBlock)} {r : Request}
    (h : r ∈ arrange config own pending runs) :
    r ∈ pending ∨ (∃ p ∈ runs.flatten, r ∈ own p) ∨
      ∃ run ∈ runs, r ∈ listRequests config run := by
  induction runs generalizing pending with
  | nil => exact Or.inl h
  | cons run runs ih =>
    cases run with
    | nil =>
      rw [arrange] at h
      rcases ih h with h | h | ⟨run, hrun, h⟩
      · exact Or.inl h
      · exact Or.inr (Or.inl h)
      · exact Or.inr (Or.inr ⟨run, List.mem_cons_of_mem _ hrun, h⟩)
    | cons first rest =>
      rw [arrange, List.append_assoc] at h
      rcases List.mem_append.mp h with h | h
      · have hfirst : r ∈ pending ∨ r ∈ own first := by
          split at h
          · exact (List.mem_append.mp h).symm
          · exact List.mem_append.mp h
        rcases hfirst with h | h
        · exact Or.inl h
        · exact Or.inr (Or.inl ⟨first, by simp, h⟩)
      · rcases List.mem_append.mp h with h | h
        · obtain ⟨p, hp, h⟩ := List.mem_flatMap.mp h
          exact Or.inr (Or.inl ⟨p, by simp [hp], h⟩)
        · rcases ih h with h | ⟨p, hp, h⟩ | ⟨run, hrun, h⟩
          · exact Or.inr (Or.inr ⟨_, List.mem_cons_self, h⟩)
          · refine Or.inr (Or.inl ⟨p, ?_, h⟩)
            rw [List.flatten_cons]
            exact List.mem_append_right _ hp
          · exact Or.inr (Or.inr ⟨run, List.mem_cons_of_mem _ hrun, h⟩)

theorem filterMap_first (own : PlacedBlock → List Request) {β : Type} {f : Request → Option β}
    {pending : List Request} (hpending : pending.filterMap f = []) (first : PlacedBlock) :
    (if first.block.isListItem then own first ++ pending
      else pending ++ own first).filterMap f = (own first).filterMap f := by
  split
  · rw [List.filterMap_append, hpending, List.append_nil]
  · rw [List.filterMap_append, hpending, List.nil_append]

/-- What only the blocks' own requests have occurs in the order of the blocks. -/
theorem filterMap_arrange {β : Type} {f : Request → Option β}
    (hlist : ∀ run, (listRequests config run).filterMap f = []) {pending : List Request}
    (hpending : pending.filterMap f = []) (runs : List (List PlacedBlock)) :
    (arrange config own pending runs).filterMap f =
      runs.flatten.flatMap fun p => (own p).filterMap f := by
  induction runs generalizing pending with
  | nil => simpa [arrange] using hpending
  | cons run runs ih =>
    cases run with
    | nil =>
      rw [arrange, ih hpending]
      rfl
    | cons first rest =>
      rw [arrange, List.filterMap_append, List.filterMap_append, filterMap_first own hpending,
        ih (hlist _), List.filterMap_flatMap, List.flatten_cons, List.flatMap_append,
        List.flatMap_cons]

theorem split_of_append_eq {α : Type} {as bs before after : List α} {a : α}
    (h : as ++ bs = before ++ a :: after) :
    (∃ more, before = as ++ more ∧ bs = more ++ a :: after) ∨ ∃ more, as = before ++ a :: more := by
  rcases List.append_eq_append_iff.mp h with ⟨more, hbefore, hbs⟩ | ⟨more, has, hmore⟩
  · exact Or.inl ⟨more, hbefore, hbs⟩
  · cases more with
    | nil => exact Or.inl ⟨[], by simpa using has.symm, hmore.symm⟩
    | cons b more =>
      obtain ⟨rfl, -⟩ := List.cons.inj hmore
      exact Or.inr ⟨more, has⟩

/-- A block's own requests stand together, behind what the blocks before it have. -/
theorem exists_arrange_own (own : PlacedBlock → List Request) {β : Type} {f : Request → Option β}
    (hlist : ∀ run, (listRequests config run).filterMap f = []) {pending : List Request}
    (hpending : pending.filterMap f = []) {runs : List (List PlacedBlock)}
    {before after : List PlacedBlock} {p : PlacedBlock} (h : runs.flatten = before ++ p :: after) :
    ∃ earlier later, arrange config own pending runs = earlier ++ own p ++ later ∧
      earlier.filterMap f = before.flatMap fun q => (own q).filterMap f := by
  induction runs generalizing pending before with
  | nil => exact absurd h (by simp)
  | cons run runs ih =>
    cases run with
    | nil => exact ih hpending h
    | cons first rest =>
      have hfirst := filterMap_first own hpending first
      rw [List.flatten_cons, List.cons_append] at h
      rw [arrange]
      cases before with
      | nil =>
        obtain ⟨rfl, -⟩ := List.cons.inj h
        split
        · exact ⟨[], _, by simp only [List.nil_append, List.append_assoc]; rfl, rfl⟩
        · exact ⟨pending, _, by simp only [List.append_assoc]; rfl, hpending⟩
      | cons q before =>
        obtain ⟨rfl, hrest⟩ := List.cons.inj h
        generalize (if first.block.isListItem then own first ++ pending
          else pending ++ own first) = opening at hfirst ⊢
        rcases split_of_append_eq hrest with ⟨more, rfl, hmore⟩ | ⟨more, rfl⟩
        · -- The block stands in a later run.
          obtain ⟨earlier, later, hlater, hearlier⟩ := ih (hlist (first :: rest)) hmore
          refine ⟨opening ++ rest.flatMap own ++ earlier, later, ?_, ?_⟩
          · rw [hlater]
            simp only [List.append_assoc]
          · rw [List.filterMap_append, List.filterMap_append, hfirst, hearlier,
              List.filterMap_flatMap, List.flatMap_cons, List.flatMap_append, List.append_assoc]
        · refine ⟨opening ++ before.flatMap own, more.flatMap own ++
            arrange config own (listRequests config (first :: (before ++ p :: more))) runs, ?_, ?_⟩
          · rw [List.flatMap_append, List.flatMap_cons]
            simp only [List.append_assoc]
          · rw [List.filterMap_append, hfirst, List.filterMap_flatMap, List.flatMap_cons]

/-- What only lists have occurs in the order of the runs. -/
theorem filterMap_arrange_lists {β : Type} {f : Request → Option β}
    {runs : List (List PlacedBlock)}
    (hown : ∀ p ∈ runs.flatten, (own p).filterMap f = []) (pending : List Request) :
    (arrange config own pending runs).filterMap f =
      pending.filterMap f ++ runs.flatMap fun run => (listRequests config run).filterMap f := by
  induction runs generalizing pending with
  | nil => simp [arrange]
  | cons run runs ih =>
    rw [List.flatten_cons] at hown
    have hmore := ih fun p hp => hown p (List.mem_append_right _ hp)
    cases run with
    | nil =>
      rw [arrange, hmore]
      rfl
    | cons first rest =>
      have hfirst := hown first (by simp)
      have hrest : (rest.flatMap own).filterMap f = [] := by
        rw [List.filterMap_flatMap, List.flatMap_eq_nil_iff]
        exact fun p hp => hown p (by simp [hp])
      have hpending : (if first.block.isListItem then own first ++ pending
          else pending ++ own first).filterMap f = pending.filterMap f := by
        split
        · rw [List.filterMap_append, hfirst, List.nil_append]
        · rw [List.filterMap_append, hfirst, List.append_nil]
      rw [arrange, List.filterMap_append, List.filterMap_append, hpending, hrest, hmore,
        List.flatMap_cons, List.append_nil]

end PlacedBlock

end MarkupCompiler
