import MarkupCompiler.Proofs.Block.Segment
import MarkupCompiler.Proofs.Collected.Stream
import MarkupCompiler.Proofs.Interval.Ranges

/-!
# Styles of loose elements

A loose element is collected with its intervals and then joined to the loose content around it. The
intervals move along with the text that was collected, but joining puts the text into normal form once
more. So the styles stay on their text exactly if the intervals select the same of the normal form with
what follows it as of the collected text. That is so for every element that keeps no whitespace.
-/

namespace MarkupCompiler

namespace StyleInterval

def selected (t : Text) (i : StyleInterval) : Text :=
  Text.solids ((t.take i.stop.toNat).drop i.start.toNat)

def SelectSame (t t' : Text) (is js : List StyleInterval) : Prop :=
  List.Forall₂ (fun i j => j.style = i.style ∧ selected t' j = selected t i) is js

theorem selected_append {t : Text} {i : StyleInterval} (h : i.Fits t.length) (more : Text) :
    selected (t ++ more) i = selected t i := by
  have hle : i.stop.toNat ≤ t.length := by
    have hstop := h.stop_le
    omega
  rw [selected, selected, List.take_append_of_le_length hle]

theorem selected_ne_nil {t : Text} {i : StyleInterval} (h : i.Fits t.length) {c : Char}
    (hc : t[i.start.toNat]? = some c) (hsolid : Text.isSolid c = true) : selected t i ≠ [] := by
  obtain ⟨hstart, hlt, -⟩ := h
  have hfirst : ((t.take i.stop.toNat).drop i.start.toNat)[0]? = some c := by
    rw [List.getElem?_drop, Nat.add_zero, List.getElem?_take_of_lt (by omega), hc]
  exact List.ne_nil_of_mem (List.mem_filter.mpr ⟨List.mem_of_getElem? hfirst, hsolid⟩)

theorem selected_of_isEmpty {i : StyleInterval} (h : i.isEmpty = true) (t : Text) :
    selected t i = [] := by
  have hle : i.stop ≤ i.start := by simpa [isEmpty] using h
  rw [selected, List.drop_eq_nil_of_le (by rw [List.length_take]; omega), Text.solids_nil]

/-- A moved and clamped interval selects what the interval selects of the text it was moved with. -/
theorem selected_clamped_shifted (front t more : Text) {i : StyleInterval} (hstart : 0 ≤ i.start)
    (hle : i.start ≤ i.stop) :
    selected (front ++ t ++ more) ((i.shifted front.length).clamped (front ++ t).length) =
      selected t i := by
  have hfirst : ((i.shifted front.length).clamped (front ++ t).length).start.toNat =
      front.length + min i.start.toNat t.length := by
    simp only [clamped, shifted, List.length_append]
    omega
  have hlast : ((i.shifted front.length).clamped (front ++ t).length).stop.toNat =
      front.length + min i.stop.toNat t.length := by
    simp only [clamped, shifted, List.length_append]
    omega
  have htake : (t ++ more).take (min i.stop.toNat t.length) = t.take i.stop.toNat := by
    rw [List.take_append_of_le_length (Nat.min_le_right _ _), ← List.take_eq_take_min]
  have hdrop : (t.take i.stop.toNat).drop (min i.start.toNat t.length) =
      (t.take i.stop.toNat).drop i.start.toNat := by
    rcases Nat.le_total i.start.toNat t.length with hin | hout
    · rw [Nat.min_eq_left hin]
    · rw [List.drop_eq_nil_of_le (by simp; omega), List.drop_eq_nil_of_le (by simp; omega)]
  rw [selected, selected, hfirst, hlast, List.append_assoc, List.take_length_add_append,
    List.drop_length_add_append, htake, hdrop]

theorem clampAll_append (length : Int) (is js : List StyleInterval) :
    clampAll length (is ++ js) = clampAll length is ++ clampAll length js := by
  rw [clampAll, List.map_append, List.filter_append]
  rfl

theorem clampAll_perm (length : Int) {is js : List StyleInterval} (h : is.Perm js) :
    (clampAll length is).Perm (clampAll length js) :=
  (h.map _).filter _

/-- Moved intervals keep what they select exactly if the text they moved with lets them. -/
theorem selectSame_iff {collected : CollectedText} (hsound : collected.Sound)
    (front t more : Text) :
    SelectSame collected.text (front ++ t ++ more) collected.intervals
        (clampAll (front ++ t).length (collected.intervals.map (shifted front.length))) ↔
      ∀ i ∈ collected.intervals, selected t i = selected collected.text i := by
  have hmoved : ∀ i ∈ collected.intervals,
      selected (front ++ t ++ more) ((i.shifted front.length).clamped (front ++ t).length) =
        selected t i := by
    intro i hi
    obtain ⟨hstart, hlt, -⟩ := hsound.fits i hi
    exact selected_clamped_shifted front t more hstart (Int.le_of_lt hlt)
  have hall : SelectSame collected.text (front ++ t ++ more) collected.intervals
      ((collected.intervals.map (shifted front.length)).map fun i => i.clamped (front ++ t).length) ↔
        ∀ i ∈ collected.intervals, selected t i = selected collected.text i := by
    rw [SelectSame, List.map_map, List.forall₂_map_right_iff, List.forall₂_same]
    refine forall₂_congr fun i hi => ?_
    rw [Function.comp_apply, hmoved i hi]
    exact and_iff_right rfl
  constructor
  · intro h
    -- As many intervals are left as there were, so clamping dropped none.
    have hlength := h.length_eq
    rw [clampAll] at h hlength
    have hkept := List.length_filter_eq_length_iff.mp (hlength.symm.trans (by simp))
    rw [List.filter_eq_self.mpr hkept] at h
    exact hall.mp h
  · intro h
    rw [clampAll, List.filter_eq_self.mpr]
    · exact hall.mpr h
    · intro j hj
      obtain ⟨i', hi', rfl⟩ := List.mem_map.mp hj
      obtain ⟨i, hi, rfl⟩ := List.mem_map.mp hi'
      obtain ⟨c, hc, hsolid⟩ := hsound.starts_solid i hi
      have hne := selected_ne_nil (hsound.fits i hi) hc hsolid
      rw [← h i hi, ← hmoved i hi] at hne
      by_contra hempty
      rw [Bool.not_eq_true, Bool.not_eq_false'] at hempty
      exact hne (selected_of_isEmpty hempty _)

end StyleInterval

/-- Whether the node keeps whitespace, or an element in it does. -/
def Site.keepsSpace (site : Site) : Bool :=
  Tags.preserving.contains (Text.lowerName site.node.tag) ||
    Node.keepsSpaceAny false site.node.children

/-- The text of a piece as it is joined to others. -/
def Site.joinedText (site : Site) : Text := FragmentBuffer.normalForm false site.collected.text

/-- A node that keeps no whitespace is joined as it is collected. -/
theorem Site.joinedText_eq {site : Site} (h : site.keepsSpace = false) :
    site.joinedText = site.collected.text := by
  obtain ⟨around, index, node⟩ := site
  cases node with
  | text content =>
    simp only [joinedText, collected, Spacing.normalize_eq_run]
    exact FragmentBuffer.normalForm_text_run _
  | special kind content => rfl
  | element tag attributes children =>
    obtain ⟨htag, hchildren⟩ := Bool.or_eq_false_iff.mp h
    have htext : (CollectedText.ofElement false false tag attributes children).text = _ :=
      CollectedText.ofElement_text_run htag hchildren attributes
    rw [joinedText, collected, htext]
    exact FragmentBuffer.normalForm_text_run _

theorem CollectedText.Sound.intervals_eq_nil {collected : CollectedText} (h : collected.Sound)
    (htext : collected.text = []) : collected.intervals = [] := by
  refine List.eq_nil_iff_forall_not_mem.mpr fun i hi => ?_
  obtain ⟨hstart, hlt, hle⟩ := h.fits i hi
  rw [htext, List.length_nil] at hle
  omega

/-- A piece with text waits until it is flushed, and is in a loose run then. -/
theorem Event.exists_run_of_loose {events : List Event} {site : Site} (past : List Event)
    {pieces : List Site} (around : Way)
    (h : site ∈ pieces ∨ .loose site ∈ events ∧ site.collected.text ≠ []) :
    ∃ (way : Way) (run : List Site),
      .loose way run ∈ originsOf past pieces (events ++ [.flush around]) ∧ site ∈ run := by
  induction events generalizing past pieces with
  | nil =>
    have hsite := h.resolve_right fun hnone => absurd hnone.1 List.not_mem_nil
    have hne : pieces.isEmpty = false := by
      simpa using List.ne_nil_of_mem hsite
    refine ⟨around, pieces, ?_, hsite⟩
    simp [originsOf, Event.origins, hne]
  | cons event events ih =>
    have hnext : site ∈ event.pending pieces ∨ .loose site ∈ events ∧ site.collected.text ≠ [] →
        ∃ (way : Way) (run : List Site), .loose way run ∈
          originsOf past pieces (event :: events ++ [.flush around]) ∧ site ∈ run := by
      intro hlater
      obtain ⟨way, run, hrun, hsite⟩ := ih (past ++ [event]) hlater
      exact ⟨way, run, List.mem_append_right _ hrun, hsite⟩
    rcases h with hsite | ⟨hmem, htext⟩
    · cases event with
      | loose other =>
        refine hnext (Or.inl ?_)
        rw [pending]
        split
        · exact hsite
        · exact List.mem_append_left _ hsite
      | flush way =>
        have hne : pieces.isEmpty = false := by
          simpa using List.ne_nil_of_mem hsite
        exact ⟨way, pieces, by simp [originsOf, Event.origins, hne], hsite⟩
      | _ => exact hnext (Or.inl hsite)
    · rcases List.mem_cons.mp hmem with rfl | hmem
      · refine hnext (Or.inl ?_)
        rw [pending, if_neg (by simpa using htext)]
        exact List.mem_append_right _ (List.mem_singleton.mpr rfl)
      · exact hnext (Or.inr ⟨hmem, htext⟩)

/--
The block carries the intervals of a piece, moved to where the piece stands. They select the same as in
the collected text exactly if the text that stands there lets them, and always if the piece keeps no
whitespace.
-/
def Block.Carries (block : Block) (piece : Site) : Prop :=
  ∃ (front rest breaks : Text) (others : List StyleInterval),
    let joined := front ++ (piece.joinedText ++ rest)
    let intervals := piece.collected.intervals
    let carried := StyleInterval.clampAll joined.length
      (intervals.map (StyleInterval.shifted front.length))
    block.text = joined ++ breaks ∧ Text.solids breaks = [] ∧
      block.intervals.Perm (carried ++ others) ∧
      (StyleInterval.SelectSame piece.collected.text block.text intervals carried ↔
        ∀ i ∈ intervals, i.selected (piece.joinedText ++ rest) = i.selected piece.collected.text) ∧
      (piece.keepsSpace = false →
        StyleInterval.SelectSame piece.collected.text block.text intervals carried)

/-- A loose run is made of pieces of the tree, and its block carries the intervals of each. -/
def Origin.Styles (nodes : List Node) (block : Block) : Origin → Prop
  | .loose _ pieces => pieces ≠ [] ∧ ∀ piece ∈ pieces,
      piece.IsIn nodes ∧ piece.node.isLoose = true ∧ block.Carries piece
  | _ => True

theorem Origin.Makes.carries {place : TextKind} {around : Way} {pieces : List Site}
    {made block : Block} (h : Makes place (.loose around pieces) made)
    (hlengthens : made.Lengthens block) {piece : Site} (hpiece : piece ∈ pieces) :
    block.Carries piece := by
  obtain ⟨k, rfl⟩ := hlengthens
  obtain ⟨before, after, rfl⟩ := List.append_of_mem hpiece
  cases h with
  | @loose _ _ t is ranges hjoined hperm hsorted =>
    rw [List.map_append, List.map_cons] at hjoined
    obtain ⟨front, rest, others, more, htext, rfl⟩ := hjoined.split
    rw [List.append_assoc] at htext
    subst htext
    have hiff := StyleInterval.selectSame_iff piece.sound_collected front
      (piece.joinedText ++ rest) (List.replicate k '\n')
    have hbreaks : Text.solids (List.replicate k '\n') = [] :=
      Text.solids_eq_nil_iff.mpr fun c hc => by rw [List.eq_of_mem_replicate hc]; rfl
    have hclamped :=
      StyleInterval.clampAll_perm (front ++ (piece.joinedText ++ rest)).length hperm
    rw [StyleInterval.clampAll_append, StyleInterval.clampAll_append, List.append_assoc] at hclamped
    refine ⟨front, rest, List.replicate k '\n', _, rfl, hbreaks,
      hclamped.trans (List.perm_append_comm_assoc _ _ _), hiff, fun hspace => hiff.mpr ?_⟩
    rw [Site.joinedText_eq hspace]
    exact fun i hi => StyleInterval.selected_append (piece.sound_collected.fits i hi) rest

theorem Root.exists_run_of_loose {root : Root} {site : Site} (h : .loose site ∈ root.events)
    (htext : site.collected.text ≠ []) :
    ∃ (way : Way) (run : List Site), .loose way run ∈ root.origins ∧ site ∈ run := by
  cases root with
  | document children =>
    have hmem : .loose site ∈ Node.eventsAll [] 0 children := by
      simpa [events] using h
    exact Event.exists_run_of_loose [] [] (Or.inr ⟨hmem, htext⟩)
  | element place tag attributes children =>
    have hmem : .loose site ∈ Node.events [] 0 (.element tag attributes children) := by
      simpa [events] using h
    exact Event.exists_run_of_loose [] [] (Or.inr ⟨hmem, htext⟩)

/--
Each loose node with text is a piece of a loose run, and the block of the run carries its intervals. A
piece that keeps no whitespace keeps its styles on its text; any other piece keeps them exactly if the
intervals select the same of the normal form of its text, with what follows, as of the text itself.
-/
theorem Block.styles_ofRoot (root : Root) :
    List.Forall₂
        (fun origin block => origin.Gives root.place block ∧ origin.Styles root.nodes block)
        root.origins (ofRoot root) ∧
      ∀ site : Site, .loose site ∈ root.events →
        if site.collected.text = [] then site.collected.intervals = []
        else ∃ (way : Way) (run : List Site), .loose way run ∈ root.origins ∧ site ∈ run := by
  constructor
  · have hall := (List.forall₂_and_left _ _).mpr ⟨root.isIn_origins, gives_ofRoot root⟩
    refine hall.imp ?_
    rintro origin block ⟨hin, made, hmakes, hlengthens⟩
    refine ⟨⟨made, hmakes, hlengthens⟩, ?_⟩
    cases origin with
    | loose around pieces =>
      refine ⟨hin.1, fun piece hpiece => ?_⟩
      obtain ⟨hpiecein, hloose⟩ := hin.2 piece hpiece
      exact ⟨hpiecein, hloose, hmakes.carries hlengthens hpiece⟩
    | paragraph site => trivial
    | item site ordered level past => trivial
    | cell table own => trivial
  · intro site hsite
    split
    · next htext => exact site.sound_collected.intervals_eq_nil htext
    · next htext => exact Root.exists_run_of_loose hsite htext

/-- Whitespace that is kept in an element is lost when it is joined, and its style moves on. -/
theorem Block.kept_space_moves_style :
    let bold : TextStyle := { bold := some true }
    let element : Node := .element "listing" [] [.text [' ', ' '], .element "b" [] [.text ['x']]]
    let site : Site := ⟨[], 0, element⟩
    let root : Root := .document [element, .text ['y', 'z']]
    let interval : StyleInterval := ⟨2, 3, bold⟩
    site.collected = ⟨[' ', ' ', 'x'], [interval]⟩ ∧
      ofRoot root = [{ text := ['x', 'y', 'z'], intervals := [interval] }] ∧
      interval.selected [' ', ' ', 'x'] = ['x'] ∧ interval.selected ['x', 'y', 'z'] = ['z'] := by
  intro bold element site root interval
  refine ⟨?_, ?_, rfl, rfl⟩
  · decide +kernel
  · decide +kernel

end MarkupCompiler
