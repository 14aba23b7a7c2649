import MarkupCompiler.Proofs.Sequence.Runs

/-!
# Longest runs within a sequence

A run is longest if it goes on neither in front of it nor behind it. The longest runs of a sequence
are the run that it begins with and those of the rest, so that they can be found one by one.
-/

namespace MarkupCompiler.Runs

variable {α κ : Type}

/-- A stretch with one key that goes on neither in front of it nor behind it. -/
structure Maximal (key : α → κ) (k : κ) (before run after : List α) : Prop where
  ne_nil : run ≠ []
  same : ∀ a ∈ run, key a = k
  left : ∀ a ∈ before.getLast?, key a ≠ k
  right : ∀ a ∈ after.head?, key a ≠ k

variable {key : α → κ} {k j : κ} {run rest before mid after : List α}

theorem Leads.maximal (h : Leads key k run rest) (hne : run ≠ []) : Maximal key k [] run rest :=
  ⟨hne, h.same, by simp, h.differ⟩

/-- A longest run that shares an element with the leading run is the leading run. -/
theorem Leads.eq_of_overlap (h : Leads key k run rest) {shared : List α} (hne : shared ≠ [])
    (hrun : run = before ++ shared) (htail : mid ++ after = shared ++ rest)
    (hmid : Maximal key j before mid after) : before = [] ∧ mid = run ∧ after = rest ∧ j = k := by
  obtain ⟨a, shared, rfl⟩ := List.exists_cons_of_ne_nil hne
  obtain ⟨b, mid, rfl⟩ := List.exists_cons_of_ne_nil hmid.ne_nil
  obtain ⟨rfl, htail⟩ := List.cons.inj htail
  have hkey : key b = k := h.same b (by simp [hrun])
  obtain rfl : j = k := (hmid.same b List.mem_cons_self).symm.trans hkey
  have hbefore : before = [] := by
    by_contra hbefore
    have hlast := List.getLast_mem hbefore
    refine hmid.left _ (List.getLast?_eq_some_getLast hbefore) (h.same _ ?_)
    rw [hrun]
    exact List.mem_append_left _ hlast
  subst hbefore
  -- Neither run goes on behind the end of the other.
  obtain ⟨more, hshared, hafter⟩ | ⟨more, hmore, hrest⟩ := List.append_eq_append_iff.mp htail
  · cases more with
    | nil =>
      rw [List.append_nil] at hshared
      exact ⟨rfl, by rw [hrun, hshared, List.nil_append], hafter, rfl⟩
    | cons c more =>
      refine absurd (h.same c (by simp [hrun, hshared])) (hmid.right c ?_)
      rw [hafter]
      rfl
  · cases more with
    | nil =>
      rw [List.append_nil] at hmore
      exact ⟨rfl, by rw [hrun, hmore, List.nil_append], hrest.symm, rfl⟩
    | cons c more =>
      refine absurd (hmid.same c (by simp [hmore])) (h.differ c ?_)
      rw [hrest]
      rfl

/-- The longest runs of a sequence are its leading run and those of the rest. -/
theorem Leads.maximal_iff (h : Leads key k run rest) (hne : run ≠ []) :
    (run ++ rest = before ++ (mid ++ after) ∧ Maximal key j before mid after) ↔
      (before = [] ∧ mid = run ∧ after = rest ∧ j = k) ∨
        ∃ front, before = run ++ front ∧ rest = front ++ (mid ++ after) ∧
          Maximal key j front mid after := by
  constructor
  · rintro ⟨hsplit, hmid⟩
    obtain ⟨front, rfl, hrest⟩ | ⟨shared, hrun, htail⟩ := List.append_eq_append_iff.mp hsplit
    · refine .inr ⟨front, rfl, hrest, hmid.ne_nil, hmid.same, fun a ha => ?_, hmid.right⟩
      refine hmid.left a ?_
      rw [List.getLast?_append, Option.mem_def.mp ha]
      rfl
    · by_cases hshared : shared = []
      · subst hshared
        rw [List.append_nil] at hrun
        rw [List.nil_append] at htail
        refine .inr ⟨[], by rw [List.append_nil, hrun], htail.symm, hmid.ne_nil, hmid.same, ?_,
          hmid.right⟩
        simp
      · exact .inl (h.eq_of_overlap hshared hrun htail hmid)
  · rintro (⟨rfl, rfl, rfl, rfl⟩ | ⟨front, rfl, rfl, hmid⟩)
    · exact ⟨rfl, h.maximal hne⟩
    · refine ⟨(List.append_assoc ..).symm, hmid.ne_nil, hmid.same, fun a ha => ?_, hmid.right⟩
      cases front with
      | nil =>
        -- The last element in front of the run is one of the leading run.
        rw [List.append_nil] at ha
        obtain ⟨b, mid, rfl⟩ := List.exists_cons_of_ne_nil hmid.ne_nil
        have hother := h.differ b rfl
        rw [hmid.same b List.mem_cons_self] at hother
        rw [h.same a (List.mem_of_mem_getLast? ha)]
        exact hother.symm
      | cons c front =>
        refine hmid.left a ?_
        rw [List.getLast?_append_of_ne_nil _ (List.cons_ne_nil c front)] at ha
        exact ha

end MarkupCompiler.Runs
