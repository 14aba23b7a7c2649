import MarkupCompiler.Proofs.Interval.Components
import Mathlib.Data.Nat.Find

/-!
# The last word in a registered range

A new interval puts its style over those of the ranges that it touches, and these are merged from left
to right. So the later one of two intervals has the last word if it joined the range of the earlier one
itself. If a third interval bridged their ranges, the one whose range was further right has it, even
if it came first.
-/

namespace MarkupCompiler.StyleInterval

/-- When `t` intervals are registered, the one at place `n` of the list is among them and lies in `r`. -/
structure Held (is : List StyleInterval) (t n : Nat) (r : StyleInterval) : Prop where
  range_mem : r ∈ registerAll (is.take t)
  within : ∃ i, (is.take t)[n]? = some i ∧ i.Within r

/-- The interval at place `n` has the last word over the one at place `m`. -/
inductive Prevails (is : List StyleInterval) (m n : Nat) : Prop
  /-- It is registered over the range of the other one. -/
  | joined {i r : StyleInterval} (new : is[n]? = some i) (range : Held is n m r)
      (touches : r.overlaps i = true)
  /-- A third interval bridges their ranges, and its own range is further right. -/
  | bridged {t : Nat} {i r s : StyleInterval} (new : is[t]? = some i) (left : Held is t m r)
      (right : Held is t n s) (touches_left : r.overlaps i = true)
      (touches_right : s.overlaps i = true) (before : r.start < s.start)

def Sets (is : List StyleInterval) (k : Slot) (r : StyleInterval) (n : Nat) : Prop :=
  ∃ i, is[n]? = some i ∧ i.Within r ∧ (i.style.slot k).isSome = true

def valueAt (is : List StyleInterval) (k : Slot) (n : Nat) : Option SlotValue :=
  is[n]?.bind fun i => i.style.slot k

/-- Of the intervals in `r` that have the slot, the one at place `n` was registered last. -/
structure IsLatest (is : List StyleInterval) (k : Slot) (r : StyleInterval) (n : Nat) : Prop where
  sets : Sets is k r n
  latest : ∀ m, Sets is k r m → m ≤ n

/-- Of the intervals in `r` that have the slot, the one at place `n` prevails over all others. -/
structure Decides (is : List StyleInterval) (k : Slot) (r : StyleInterval) (n : Nat) : Prop where
  sets : Sets is k r n
  prevails : ∀ m, Sets is k r m → m ≠ n → Prevails is m n

variable {is : List StyleInterval} {i r s new : StyleInterval} {k : Slot} {m n t u : Nat}

/-! ## One interval more -/

theorem getElem?_concat_eq_some :
    (is ++ [new])[n]? = some i ↔ is[n]? = some i ∨ n = is.length ∧ new = i := by
  rcases Nat.lt_trichotomy n is.length with hlt | rfl | hlt
  · rw [List.getElem?_append_left hlt]
    simp [hlt.ne]
  · simp
  · have hnone : (is ++ [new])[n]? = none := List.getElem?_eq_none (by simp; omega)
    have hold : is[n]? = none := List.getElem?_eq_none hlt.le
    simp [hnone, hold, hlt.ne']

theorem Held.concat (h : Held is t n r) (ht : t ≤ is.length) : Held (is ++ [new]) t n r := by
  have htake : (is ++ [new]).take t = is.take t := List.take_append_of_le_length ht
  obtain ⟨hr, hwithin⟩ := h
  exact ⟨htake ▸ hr, htake ▸ hwithin⟩

theorem Prevails.concat (h : Prevails is m n) : Prevails (is ++ [new]) m n := by
  have hold : ∀ {t i}, is[t]? = some i → t < is.length ∧ (is ++ [new])[t]? = some i := by
    intro t i hi
    exact ⟨(List.getElem?_eq_some_iff.mp hi).1, getElem?_concat_eq_some.mpr (Or.inl hi)⟩
  cases h with
  | joined hnew hrange htouches =>
    obtain ⟨hlt, hnew⟩ := hold hnew
    exact .joined hnew (hrange.concat hlt.le) htouches
  | bridged hnew hleft hright htouchesLeft htouchesRight hbefore =>
    obtain ⟨hlt, hnew⟩ := hold hnew
    exact .bridged hnew (hleft.concat hlt.le) (hright.concat hlt.le) htouchesLeft htouchesRight hbefore

theorem sets_concat_iff :
    Sets (is ++ [new]) k r n ↔
      Sets is k r n ∨ n = is.length ∧ new.Within r ∧ (new.style.slot k).isSome = true := by
  unfold Sets
  constructor
  · rintro ⟨i, hi, hwithin, hslot⟩
    rcases getElem?_concat_eq_some.mp hi with hi | ⟨hn, rfl⟩
    · exact Or.inl ⟨i, hi, hwithin, hslot⟩
    · exact Or.inr ⟨hn, hwithin, hslot⟩
  · rintro (⟨i, hi, hwithin, hslot⟩ | ⟨hn, hwithin, hslot⟩)
    · exact ⟨i, getElem?_concat_eq_some.mpr (Or.inl hi), hwithin, hslot⟩
    · exact ⟨new, getElem?_concat_eq_some.mpr (Or.inr ⟨hn, rfl⟩), hwithin, hslot⟩

theorem valueAt_concat (h : Sets is k r n) : valueAt (is ++ [new]) k n = valueAt is k n := by
  obtain ⟨i, hi, -⟩ := h
  rw [valueAt, valueAt, hi, getElem?_concat_eq_some.mpr (Or.inl hi)]

theorem Sets.isSome_valueAt (h : Sets is k r n) : (valueAt is k n).isSome = true := by
  obtain ⟨i, hi, -, hslot⟩ := h
  simpa [valueAt, hi] using hslot

theorem held_length (hr : r ∈ registerAll is) (hi : is[n]? = some i) (hwithin : i.Within r) :
    Held is is.length n r := by
  have htake : is.take is.length = is := List.take_length
  exact ⟨htake.symm ▸ hr, i, htake.symm ▸ hi, hwithin⟩

/-! ## Who decides -/

def SlotDecided (is : List StyleInterval) (k : Slot) (r : StyleInterval) : Prop :=
  ((∀ n, ¬Sets is k r n) ∧ r.style.slot k = none) ∨
    ∃ n, Decides is k r n ∧ r.style.slot k = valueAt is k n

namespace SlotDecided

theorem isSome (h : SlotDecided is k r) (hn : Sets is k r n) : (r.style.slot k).isSome = true := by
  rcases h with ⟨hnone, -⟩ | ⟨d, hd, hslot⟩
  · exact absurd hn (hnone n)
  · rw [hslot]
    exact hd.sets.isSome_valueAt

/-- Nothing changes for a range that the new interval does not join. -/
theorem kept (h : SlotDecided is k r) (hkept : ¬new.Within r) : SlotDecided (is ++ [new]) k r := by
  have hsets : ∀ n, Sets (is ++ [new]) k r n ↔ Sets is k r n := by
    intro n
    rw [sets_concat_iff, or_iff_left]
    exact fun hnew => hkept hnew.2.1
  rcases h with ⟨hnone, hslot⟩ | ⟨n, hn, hslot⟩
  · exact Or.inl ⟨fun n hn => hnone n ((hsets n).mp hn), hslot⟩
  · refine Or.inr ⟨n, ⟨(hsets n).mpr hn.sets, fun m hm hne => ?_⟩, ?_⟩
    · exact (hn.prevails m ((hsets m).mp hm) hne).concat
    · rw [hslot, valueAt_concat hn.sets]

end SlotDecided

def newRange (is : List StyleInterval) (new : StyleInterval) : StyleInterval :=
  span (touchedBy new (registerAll is)) new

theorem within_newRange (is : List StyleInterval) (new : StyleInterval) :
    new.Within (newRange is new) := within_span (Or.inl rfl)

theorem touched_within_newRange (h : r ∈ touchedBy new (registerAll is)) :
    r.Within (newRange is new) := within_span (Or.inr h)

theorem mem_registerAll_concat :
    r ∈ registerAll (is ++ [new]) ↔ (r ∈ registerAll is ∧ Apart r new) ∨ r = newRange is new := by
  rw [registerAll_concat]
  exact mem_register

theorem slot_newRange (is : List StyleInterval) (new : StyleInterval) (k : Slot) :
    (newRange is new).style.slot k =
      (new.style.slot k).or ((mergedStyle (touchedBy new (registerAll is))).slot k) :=
  TextStyle.slot_merged ..

/-- All but the new interval that set a slot in the new range are in ranges that it touches. -/
theorem exists_sets_touched (hpos : ∀ i ∈ is, i.start < i.stop) (hnew : new.start < new.stop)
    (hm : Sets (is ++ [new]) k (newRange is new) m)
    (hold : ¬(m = is.length ∧ (new.style.slot k).isSome = true)) :
    ∃ r ∈ touchedBy new (registerAll is), Sets is k r m ∧ Held is is.length m r := by
  obtain ⟨i, hi, hwithin, hslot⟩ := (sets_concat_iff.mp hm).resolve_right fun h => hold ⟨h.1, h.2.2⟩
  obtain ⟨r, hr, hir⟩ := (components_registerAll hpos).exists_touched hpos hnew
    (List.mem_of_getElem? hi) hwithin
  exact ⟨r, hr, ⟨i, hi, hir, hslot⟩, held_length (mem_touchedBy.mp hr).1 hi hir⟩

theorem touchedBy_pairwise_start_lt (hpos : ∀ i ∈ is, i.start < i.stop) (new : StyleInterval) :
    (touchedBy new (registerAll is)).Pairwise fun r s => r.start < s.start :=
  (List.pairwise_map.mp (components_registerAll hpos).pairwise_start_lt).sublist
    List.filter_sublist

/-- Of the touched ranges that set the slot, the one furthest right decides for the new range. -/
theorem Decides.bridged (hpos : ∀ i ∈ is, i.start < i.stop) (hnew : new.start < new.stop)
    (hslot : new.style.slot k = none) {before behind : List StyleInterval}
    (hsplit : touchedBy new (registerAll is) = before ++ s :: behind)
    (hbehind : ∀ r ∈ behind, ∀ m, ¬Sets is k r m) (hn : Decides is k s n) :
    Decides (is ++ [new]) k (newRange is new) n := by
  have hlast : (is ++ [new])[is.length]? = some new := List.getElem?_concat_length
  have hmem : s ∈ touchedBy new (registerAll is) := by simp [hsplit]
  obtain ⟨hrange, htouches⟩ := mem_touchedBy.mp hmem
  obtain ⟨⟨j, hj, hjs, hjslot⟩, hprevails⟩ := hn
  refine ⟨sets_concat_iff.mpr (Or.inl ⟨j, hj, hjs.trans (touched_within_newRange hmem), hjslot⟩), ?_⟩
  intro m hm hne
  obtain ⟨r, hr, hmr, hheld⟩ := exists_sets_touched hpos hnew hm (by simp [hslot])
  have hsorted := touchedBy_pairwise_start_lt hpos new
  rw [hsplit] at hr hsorted
  rcases List.mem_append.mp hr with hr | hr
  · have hlt := (List.pairwise_append.mp hsorted).2.2 r hr s List.mem_cons_self
    have htouched : r ∈ touchedBy new (registerAll is) := by simp [hsplit, hr]
    exact .bridged hlast (hheld.concat (Nat.le_refl _))
      ((held_length hrange hj hjs).concat (Nat.le_refl _)) (mem_touchedBy.mp htouched).2 htouches hlt
  · obtain rfl := (List.mem_cons.mp hr).resolve_right fun hr => hbehind r hr m hmr
    exact (hprevails m hmr hne).concat

namespace SlotDecided

/-- A new interval that has the slot decides for the range that it makes. -/
theorem of_new (hpos : ∀ i ∈ is, i.start < i.stop) (hnew : new.start < new.stop)
    (hslot : (new.style.slot k).isSome = true) :
    SlotDecided (is ++ [new]) k (newRange is new) := by
  have hlast : (is ++ [new])[is.length]? = some new := List.getElem?_concat_length
  refine Or.inr ⟨is.length, ⟨⟨new, hlast, within_newRange is new, hslot⟩, fun m hm hne => ?_⟩, ?_⟩
  · obtain ⟨r, hr, -, hheld⟩ := exists_sets_touched hpos hnew hm fun h => hne h.1
    exact .joined hlast (hheld.concat (Nat.le_refl _)) (mem_touchedBy.mp hr).2
  · obtain ⟨value, hvalue⟩ := Option.isSome_iff_exists.mp hslot
    rw [slot_newRange, valueAt, hlast, hvalue, Option.bind_some, hvalue]
    rfl

/-- Otherwise it is decided as for the range furthest right of those touched that have the slot. -/
theorem of_touched (hpos : ∀ i ∈ is, i.start < i.stop) (hnew : new.start < new.stop)
    (hranges : ∀ r ∈ touchedBy new (registerAll is), SlotDecided is k r)
    (hslot : new.style.slot k = none) : SlotDecided (is ++ [new]) k (newRange is new) := by
  have hmerged : (newRange is new).style.slot k =
      (mergedStyle (touchedBy new (registerAll is))).slot k := by
    rw [slot_newRange, hslot, Option.none_or]
  by_cases hsome : ∃ r ∈ touchedBy new (registerAll is), (r.style.slot k).isSome = true
  · obtain ⟨before, s, behind, hsplit, hs, hbehind⟩ := exists_last hsome
    have hranges' : ∀ r ∈ before ++ s :: behind, SlotDecided is k r := hsplit ▸ hranges
    obtain ⟨n, hn, hvalue⟩ := (hranges' s (by simp)).resolve_left fun h => by
      rw [h.2] at hs
      exact absurd hs (by decide)
    have hnone : ∀ r ∈ behind, ∀ m, ¬Sets is k r m := fun r hr m hm =>
      hbehind r hr ((hranges' r (by simp [hr])).isSome hm)
    refine Or.inr ⟨n, hn.bridged hpos hnew hslot hsplit hnone, ?_⟩
    rw [hmerged, hsplit, slot_mergedStyle_of_last hs hbehind, hvalue, valueAt_concat hn.sets]
  · refine Or.inl ⟨fun m hm => ?_, ?_⟩
    · obtain ⟨r, hr, hmr, -⟩ := exists_sets_touched hpos hnew hm (by simp [hslot])
      exact hsome ⟨r, hr, (hranges r hr).isSome hmr⟩
    · rw [hmerged]
      exact slot_mergedStyle_eq_none fun r hr h => hsome ⟨r, hr, h⟩

end SlotDecided

theorem slotDecided_registerAll (hpos : ∀ i ∈ is, i.start < i.stop) (k : Slot) :
    ∀ r ∈ registerAll is, SlotDecided is k r := by
  induction is using List.reverseRecOn with
  | nil => simp [registerAll]
  | append_singleton is new ih =>
    have hold : ∀ i ∈ is, i.start < i.stop := fun i hi => hpos i (List.mem_append_left _ hi)
    have hnew : new.start < new.stop := hpos new (by simp)
    intro r hr
    -- The last interval leaves a range as it was, or it makes it.
    rcases mem_registerAll_concat.mp hr with ⟨hr, hkept⟩ | rfl
    · refine (ih hold r hr).kept fun hwithin => ?_
      have hfirst := covers_start hnew
      exact hkept.not_covers (hwithin.covers hfirst) hfirst
    · cases hslot : new.style.slot k with
      | none =>
        exact SlotDecided.of_touched hold hnew
          (fun s hs => ih hold s (mem_touchedBy.mp hs).1) hslot
      | some value => exact SlotDecided.of_new hold hnew (by rw [hslot]; rfl)

/-! ## Of two intervals, one prevails at most -/

theorem getElem?_take_eq_some : (is.take t)[n]? = some i ↔ n < t ∧ is[n]? = some i := by
  rw [List.getElem?_take]
  split <;> simp [*]

theorem take_concat (hnew : is[t]? = some new) : is.take (t + 1) = is.take t ++ [new] := by
  rw [List.take_add_one, hnew]
  rfl

theorem components_take (hpos : ∀ i ∈ is, i.start < i.stop) (t : Nat) :
    Components (is.take t) (registerAll (is.take t)) :=
  components_registerAll fun i hi => hpos i (List.mem_of_mem_take hi)

namespace Held

theorem lt (h : Held is t n r) : n < t := by
  obtain ⟨i, hi, -⟩ := h.within
  exact (getElem?_take_eq_some.mp hi).1

theorem unique (hpos : ∀ i ∈ is, i.start < i.stop) (hr : Held is t n r) (hs : Held is t n s) :
    r = s := by
  obtain ⟨hrmem, i, hi, hir⟩ := hr
  obtain ⟨hsmem, j, hj, hjs⟩ := hs
  obtain rfl : i = j := Option.some.inj (hi.symm.trans hj)
  have hfirst := covers_start (hpos i (List.mem_of_mem_take (List.mem_of_getElem? hi)))
  exact eq_of_apart (components_take hpos t).apart hrmem hsmem (hir.covers hfirst)
    (hjs.covers hfirst)

/-- Intervals that are in one range stay in one range. -/
theorem stays (hpos : ∀ i ∈ is, i.start < i.stop) {q : StyleInterval} (hm : Held is t m q)
    (hn : Held is t n q) (htu : t ≤ u) (hr : Held is u m r) (hs : Held is u n s) : r = s := by
  have hlater : ∀ {l : Nat} {j}, (is.take t)[l]? = some j → (is.take u)[l]? = some j := by
    intro l j hj
    obtain ⟨hlt, hj⟩ := getElem?_take_eq_some.mp hj
    exact getElem?_take_eq_some.mpr ⟨hlt.trans_le htu, hj⟩
  obtain ⟨hq, i, hi, hiq⟩ := hm
  obtain ⟨-, j, hj, hjq⟩ := hn
  have hlinked : Linked (is.take t) i j :=
    ((components_take hpos t).linked_iff i (List.mem_of_getElem? hi) j
      (List.mem_of_getElem? hj)).mp ⟨q, hq, hiq, hjq⟩
  obtain ⟨p, hp, hip, hjp⟩ := ((components_take hpos u).linked_iff i
    (List.mem_of_getElem? (hlater hi)) j (List.mem_of_getElem? (hlater hj))).mpr
      (hlinked.mono (List.take_subset_take_left is htu))
  exact (hr.unique hpos ⟨hp, i, hlater hi, hip⟩).trans (hs.unique hpos ⟨hp, j, hlater hj, hjp⟩).symm

theorem not_start_lt (hpos : ∀ i ∈ is, i.start < i.stop) {q : StyleInterval} (hm : Held is t m q)
    (hn : Held is t n q) (htu : t ≤ u) (hr : Held is u m r) (hs : Held is u n s) :
    ¬r.start < s.start := by
  rw [hm.stays hpos hn htu hr hs]
  exact Int.lt_irrefl _

theorem of_new (hnew : is[t]? = some new) : Held is (t + 1) t (newRange (is.take t) new) := by
  refine ⟨?_, new, getElem?_take_eq_some.mpr ⟨Nat.lt_succ_self t, hnew⟩, within_newRange _ _⟩
  rw [take_concat hnew]
  exact mem_registerAll_concat.mpr (Or.inr rfl)

/-- What a new interval touches is in the range that it makes. -/
theorem touched (h : Held is t n r) (hnew : is[t]? = some new) (htouches : r.overlaps new = true) :
    Held is (t + 1) n (newRange (is.take t) new) := by
  obtain ⟨hr, i, hi, hir⟩ := h
  obtain ⟨hlt, hget⟩ := getElem?_take_eq_some.mp hi
  have hmem := mem_touchedBy.mpr ⟨hr, htouches⟩
  refine ⟨(of_new hnew).range_mem, i, ?_, hir.trans (touched_within_newRange hmem)⟩
  exact getElem?_take_eq_some.mpr ⟨hlt.trans (Nat.lt_succ_self t), hget⟩

end Held

theorem Prevails.asymm (hpos : ∀ i ∈ is, i.start < i.stop) (h : Prevails is m n) :
    ¬Prevails is n m := by
  intro h'
  cases h with
  | joined hnew hrange htouches =>
    have hm := hrange.touched hnew htouches
    cases h' with
    | joined hnew' hrange' htouches' =>
      exact absurd hrange.lt (Nat.not_lt.mpr hrange'.lt.le)
    | bridged hnew' hleft' hright' htouchesLeft' htouchesRight' hbefore' =>
      exact (Held.of_new hnew).not_start_lt hpos hm hleft'.lt hleft' hright' hbefore'
  | @bridged t _ _ _ hnew hleft hright htouchesLeft htouchesRight hbefore =>
    have hm := hleft.touched hnew htouchesLeft
    have hn := hright.touched hnew htouchesRight
    cases h' with
    | joined hnew' hrange' htouches' =>
      have hn' := hrange'.touched hnew' htouches'
      exact (Held.of_new hnew').not_start_lt hpos hn' hleft.lt hleft hright hbefore
    | @bridged u _ _ _ hnew' hleft' hright' htouchesLeft' htouchesRight' hbefore' =>
      -- The interval that bridges first puts both into one range, where they stay.
      rcases Nat.lt_trichotomy t u with hlt | rfl | hlt
      · exact hn.not_start_lt hpos hm hlt hleft' hright' hbefore'
      · rw [hleft.unique hpos hright', hright.unique hpos hleft'] at hbefore
        exact absurd hbefore (Int.not_lt.mpr hbefore'.le)
      · have hm' := hright'.touched hnew' htouchesRight'
        have hn' := hleft'.touched hnew' htouchesLeft'
        exact hm'.not_start_lt hpos hn' hlt hleft hright hbefore

/-! ## The latest interval -/

theorem exists_isLatest (h : Sets is k r n) : ∃ l, IsLatest is k r l := by
  classical
  have hbound : ∀ m, Sets is k r m → m ≤ is.length := by
    rintro m ⟨i, hi, -⟩
    exact (List.getElem?_eq_some_iff.mp hi).1.le
  refine ⟨Nat.findGreatest (Sets is k r) is.length, ?_, fun m hm => ?_⟩
  · exact Nat.findGreatest_spec (hbound n h) h
  · exact Nat.le_findGreatest (hbound m hm) hm

theorem Decides.unique (hpos : ∀ i ∈ is, i.start < i.stop) (hm : Decides is k r m)
    (hn : Decides is k r n) : m = n := by
  by_contra hne
  exact (hm.prevails n hn.sets (Ne.symm hne)).asymm hpos (hn.prevails m hm.sets hne)

/--
A registered range has a slot from the interval that prevails over all others in the range that have
the slot, and lacks it if there are none. So the latest of them decides exactly if it prevails, and the
range has its value exactly if it agrees with the one that decides.
-/
theorem slot_registerAll (hpos : ∀ i ∈ is, i.start < i.stop) (hr : r ∈ registerAll is) (k : Slot) :
    ((∀ n, ¬Sets is k r n) ∧ r.style.slot k = none) ∨
      ∃ n l, Decides is k r n ∧ IsLatest is k r l ∧ r.style.slot k = valueAt is k n ∧
        (n = l ↔ ∀ m, Sets is k r m → m ≠ l → Prevails is m l) ∧
        (r.style.slot k = valueAt is k l ↔ valueAt is k n = valueAt is k l) := by
  rcases slotDecided_registerAll hpos k r hr with hnone | ⟨n, hn, hslot⟩
  · exact Or.inl hnone
  · obtain ⟨l, hl⟩ := exists_isLatest hn.sets
    refine Or.inr ⟨n, l, hn, hl, hslot, ⟨?_, fun hprevails => ?_⟩, by rw [hslot]⟩
    · rintro rfl
      exact hn.prevails
    · exact hn.unique hpos ⟨hl.sets, hprevails⟩

/-- The range furthest left is registered last, and then a third interval bridges all three. -/
theorem slot_registerAll_bridged :
    let arial : TextStyle := { fontFamily := some "Arial" }
    let courier : TextStyle := { fontFamily := some "Courier" }
    let is : List StyleInterval := [⟨4, 6, arial⟩, ⟨0, 2, courier⟩, ⟨1, 5, { italic := some true }⟩]
    let r : StyleInterval := ⟨0, 6, { italic := some true, fontFamily := some "Arial" }⟩
    (∀ i ∈ is, i.start < i.stop) ∧ r ∈ registerAll is ∧
      ∃ n l, Decides is .fontFamily r n ∧ IsLatest is .fontFamily r l ∧
        r.style.slot .fontFamily = valueAt is .fontFamily n ∧
        (n = l ↔ ∀ m, Sets is .fontFamily r m → m ≠ l → Prevails is m l) ∧
        (r.style.slot .fontFamily = valueAt is .fontFamily l ↔
          valueAt is .fontFamily n = valueAt is .fontFamily l) := by
  intro arial courier is r
  have hpos : ∀ i ∈ is, i.start < i.stop := by decide
  have hr : r ∈ registerAll is := by decide
  refine ⟨hpos, hr, (slot_registerAll hpos hr .fontFamily).resolve_left fun h => ?_⟩
  exact absurd h.2 (by decide)

/-- An interval that bridges two ranges forgets which of them was registered last. -/
theorem bridge_forgets_order :
    let arial : TextStyle := { fontFamily := some "Arial" }
    let courier : TextStyle := { fontFamily := some "Courier" }
    let is : List StyleInterval := [⟨4, 6, arial⟩, ⟨0, 2, courier⟩, ⟨1, 5, { italic := some true }⟩]
    let r : StyleInterval := ⟨0, 6, { italic := some true, fontFamily := some "Arial" }⟩
    (∀ i ∈ is, i.start < i.stop) ∧ registerAll is = [r] ∧ IsLatest is .fontFamily r 1 ∧
      valueAt is .fontFamily 1 = some (.name "Courier") ∧
      r.style.slot .fontFamily = some (.name "Arial") := by
  intro arial courier is r
  refine ⟨by decide, by decide, ⟨⟨⟨0, 2, courier⟩, rfl, ⟨by decide, by decide⟩, rfl⟩, ?_⟩,
    rfl, rfl⟩
  rintro m ⟨i, hi, -, hslot⟩
  match m with
  | 0 | 1 => omega
  | 2 =>
    obtain rfl := Option.some.inj hi
    exact absurd hslot (by decide)
  | m + 3 => exact absurd hi (by simp [is])

end MarkupCompiler.StyleInterval
