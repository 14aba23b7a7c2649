import Mathlib.Data.List.SplitBy
import Mathlib.Data.List.TakeWhile

/-!
# Runs of a sequence

The runs of a sequence under a key are its longest stretches of neighbours with equal keys. A run
at the front can be taken off: it reaches up to the first element with another key.
-/

namespace MarkupCompiler.Runs

variable {α κ : Type} [DecidableEq κ]

/-- The longest stretches of neighbours with equal keys, in order. -/
def split (key : α → κ) (l : List α) : List (List α) := l.splitBy fun a b => key a == key b

@[simp] theorem flatten_split (key : α → κ) (l : List α) : (split key l).flatten = l :=
  List.flatten_splitBy ..

theorem ne_nil_of_mem_split {key : α → κ} {l run : List α} (h : run ∈ split key l) : run ≠ [] :=
  List.ne_nil_of_mem_splitBy h

theorem same_of_mem_split {key : α → κ} {l run : List α} (h : run ∈ split key l) :
    ∀ a ∈ run, ∀ b ∈ run, key a = key b := by
  have hchain : run.IsChain fun a b => key a = key b :=
    (List.isChain_of_mem_splitBy h).imp fun a b hab => eq_of_beq hab
  have : Std.Symm fun a b : α => key a = key b := ⟨fun _ _ hab => hab.symm⟩
  have hall := List.Pairwise.forall_of_forall (R := fun a b : α => key a = key b) (fun _ _ => rfl)
    (List.isChain_iff_pairwise.mp hchain)
  exact fun a ha b hb => hall ha hb

/-- Neighbouring runs have different keys where they meet. -/
theorem isChain_split (key : α → κ) (l : List α) :
    (split key l).IsChain fun run next =>
      ∀ a ∈ run.getLast?, ∀ b ∈ next.head?, key a ≠ key b := by
  refine (List.isChain_getLast_head_splitBy _ l).imp fun run next hends a ha b hb => ?_
  obtain ⟨hrun, hnext, hne⟩ := hends
  rw [List.getLast?_eq_some_getLast hrun, Option.mem_some_iff] at ha
  rw [List.head?_eq_some_head hnext, Option.mem_some_iff] at hb
  rw [← ha, ← hb]
  exact beq_eq_false_iff_ne.mp hne

/-- A list in which all keys are equal, followed by one that starts with another key. -/
structure Leads (key : α → κ) (k : κ) (run rest : List α) : Prop where
  same : ∀ a ∈ run, key a = k
  differ : ∀ a ∈ rest.head?, key a ≠ k

theorem isChain_of_same {key : α → κ} {k : κ} {run : List α} (h : ∀ a ∈ run, key a = k) :
    run.IsChain fun a b => (key a == key b) = true := by
  induction run with
  | nil => exact List.isChain_nil
  | cons a run ih =>
    have hrun := ih fun b hb => h b (List.mem_cons_of_mem a hb)
    refine List.isChain_cons.mpr ⟨fun b hb => ?_, hrun⟩
    have ha := h a List.mem_cons_self
    have hb := h b (List.mem_cons_of_mem a (List.mem_of_mem_head? hb))
    rw [ha, hb]
    exact beq_self_eq_true k

/-- A leading run is the first one. -/
theorem split_append {key : α → κ} {k : κ} {run rest : List α} (hne : run ≠ [])
    (h : Leads key k run rest) : split key (run ++ rest) = run :: split key rest := by
  have hone : run.splitBy (fun a b => key a == key b) = [run] :=
    List.splitBy_of_isChain hne (isChain_of_same h.same)
  have happend := List.splitBy_append (r := fun a b => key a == key b) (l := run) (m := rest) (by
    intro a ha b hb
    have hkey := h.same a (List.mem_of_mem_getLast? ha)
    have hother := h.differ b hb
    rw [hkey]
    exact beq_eq_false_iff_ne.mpr (Ne.symm hother))
  rw [split, happend, hone]
  rfl

theorem exists_leads (key : α → κ) (a : α) (l : List α) :
    ∃ run rest, a :: l = (a :: run) ++ rest ∧ Leads key (key a) (a :: run) rest := by
  refine ⟨l.takeWhile fun b => key b = key a, l.dropWhile fun b => key b = key a, ?_, ?_, ?_⟩
  · rw [List.cons_append, List.takeWhile_append_dropWhile]
  · intro b hb
    rcases List.mem_cons.mp hb with rfl | hb
    · rfl
    · have hkey := List.mem_takeWhile_imp (p := fun b => decide (key b = key a)) hb
      exact of_decide_eq_true hkey
  · intro b hb hkey
    have hstop := List.head?_dropWhile_not (fun b => decide (key b = key a)) l
    rw [Option.mem_def.mp hb] at hstop
    simp [hkey] at hstop

/-- Induction that takes off one run after another. -/
theorem run_induction (key : α → κ) {motive : List α → Prop} (nil : motive [])
    (run : ∀ a run rest, Leads key (key a) (a :: run) rest → motive rest →
      motive ((a :: run) ++ rest)) (l : List α) : motive l := by
  induction hlength : l.length using Nat.strong_induction_on generalizing l with
  | _ n ih =>
    cases l with
    | nil => exact nil
    | cons a l =>
      obtain ⟨first, rest, hl, hleads⟩ := exists_leads key a l
      have hshorter : rest.length < n := by
        have hsum := congrArg List.length hl
        simp only [List.length_append, List.length_cons] at hsum hlength
        omega
      rw [hl]
      exact run a first rest hleads (ih rest.length hshorter rest rfl)

end MarkupCompiler.Runs
