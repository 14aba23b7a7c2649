import MarkupCompiler.Delivery.Attempt
import Mathlib.Data.ENat.Lattice
import Mathlib.Tactic.IntervalCases

/-!
# How often an operation calls the service

An operation goes through its passes until one of them decides the answer. A pass leaves it
undecided only if the connection was lost, the operation reads, and another call is allowed; so the
last pass always decides it. Hence an operation that writes makes one call, and one that reads
makes one more call than it lost connections, up to three.
-/

namespace MarkupCompiler

/-- The connection was lost during the call. -/
def Outcome.isLost : Outcome → Bool
  | .connectionLost _ => true
  | _ => false

/-! ## Lost connections -/

/-- The number of calls that lose the connection before the first one that does not, if any does. -/
noncomputable def leadingLosses (outcome : Nat → Outcome) : ℕ∞ :=
  ⨅ (n : ℕ) (_ : (outcome n).isLost = false), (n : ℕ∞)

theorem leadingLosses_le {outcome : Nat → Outcome} {n : ℕ} (h : (outcome n).isLost = false) :
    leadingLosses outcome ≤ n := iInf₂_le n h

theorem le_leadingLosses {outcome : Nat → Outcome} {n : ℕ}
    (h : ∀ k < n, (outcome k).isLost = true) : (n : ℕ∞) ≤ leadingLosses outcome := by
  refine le_iInf₂ fun k hk => ?_
  rw [Nat.cast_le]
  by_contra hlt
  have hlost := h k (by omega)
  rw [hk] at hlost
  exact Bool.false_ne_true hlost

/-- The call that ends a run of at most three comes after all leading losses, or is the third. -/
theorem calls_eq_min {outcome : Nat → Outcome} {n : ℕ} (hn : n < 3)
    (hlost : ∀ k < n, (outcome k).isLost = true)
    (hlast : (outcome n).isLost = true → n + 1 = 3) :
    ((n + 1 : ℕ) : ℕ∞) = min 3 (1 + leadingLosses outcome) := by
  have hle : (n : ℕ∞) ≤ leadingLosses outcome := le_leadingLosses hlost
  by_cases hthird : n + 1 = 3
  · obtain rfl : n = 2 := by omega
    have hthree : (3 : ℕ∞) = 1 + (2 : ℕ) := by norm_num
    rw [min_eq_left]
    · norm_num
    · rw [hthree]
      gcongr
  · have hkept : (outcome n).isLost = false := by
      by_contra h
      exact hthird (hlast (by simpa using h))
    rw [le_antisymm (leadingLosses_le hkept) hle, min_eq_right]
    · rw [Nat.cast_add, Nat.cast_one, add_comm]
    · norm_cast
      omega

namespace Operation

/-! ## Single calls -/

/-- What a call that keeps the connection makes of the operation. -/
inductive Settles (op : Operation) : Outcome → Except Raised Json → Prop
  | returned (value : Json) : Settles op (.returned value) (.ok value)
  | failed (error : CompilerError) : Settles op (.failed error) (.error (.family error))
  | refused {status : Option Int} {text : String} {refusal : Refusal} {code : Option Int}
    {message : String}
    (h : refusalError status text op.document = .service refusal code message) :
    Settles op (.refused status text)
      (.error (.family (.service refusal code s!"API error in {op.name}: {message}")))
  | crashed (reason : String) :
    Settles op (.crashed reason)
      (.error (.family
        (.service .other none s!"An unexpected error occurred in {op.name}: {reason}")))

variable {op : Operation} {outcome : Nat → Outcome}

theorem settles_of_answer? {o : Outcome} {answer : Except Raised Json}
    (h : op.answer? o = some answer) : op.Settles o answer := by
  cases o with
  | returned value =>
    obtain rfl := Option.some.inj h
    exact .returned value
  | connectionLost reason => cases h
  | refused status text =>
    obtain rfl := Option.some.inj h
    exact .refused rfl
  | failed error =>
    obtain rfl := Option.some.inj h
    exact .failed error
  | crashed reason =>
    obtain rfl := Option.some.inj h
    exact .crashed reason

theorem answer?_eq_none_iff {o : Outcome} : op.answer? o = none ↔ o.isLost = true := by
  cases o <;> simp [answer?, Outcome.isLost]

/-! ## Passes -/

/-- Calls that lost the connection, each with the pause after it. -/
def waits (n : Nat) : List Action :=
  (List.range n).flatMap fun k => [.call, .pause (pauseAfter k)]

theorem waits_succ (n : Nat) : waits (n + 1) = waits n ++ [.call, .pause (pauseAfter n)] := by
  simp [waits, List.range_succ]

theorem count_waits (n : Nat) : (waits n).count .call = n := by
  induction n with
  | zero => rfl
  | succ n ih =>
    rw [waits_succ, List.count_append, ih]
    rfl

/-- The operation is undecided after `n` passes, and another call is allowed. -/
structure Waiting (op : Operation) (outcome : Nat → Outcome) (n : Nat) (done : Attempts) : Prop where
  undecided : done.answer? = none
  actions : done.actions = waits n
  lost : ∀ k < n, (outcome k).isLost = true
  isReadOnly : 0 < n → op.isReadOnly = true
  bound : n < maxCalls

/-- The answer after the call with the number `n`, all before it having lost the connection. -/
def EndsWith (op : Operation) (outcome : Nat → Outcome) (n : Nat)
    (answer : Except Raised Json) : Prop :=
  op.Settles (outcome n) answer ∧ (outcome n).isLost = false ∨
    (outcome n).isLost = true ∧ (op.isReadOnly = true → n + 1 = maxCalls) ∧
      answer = .error (.family (op.connectionError (n + 1)))

/-- The pass with the number `n` decided the operation. -/
structure Finished (op : Operation) (outcome : Nat → Outcome) (n : Nat) (done : Attempts) :
    Prop where
  decided : ∃ answer, done.answer? = some answer ∧ op.EndsWith outcome n answer
  actions : done.actions = waits n ++ [.call]
  lost : ∀ k < n, (outcome k).isLost = true
  isReadOnly : 0 < n → op.isReadOnly = true

theorem waiting_start : op.Waiting outcome 0 {} := by
  refine ⟨rfl, rfl, fun k hk => ?_, fun hpos => ?_, by decide⟩
  · exact absurd hk (Nat.not_lt_zero k)
  · exact absurd hpos (Nat.lt_irrefl 0)

/-- A pass decides the operation, or leaves it undecided with another call allowed. -/
theorem Waiting.pass {n : Nat} {done : Attempts} (h : op.Waiting outcome n done) :
    op.Finished outcome n (op.pass outcome done n) ∨
      op.Waiting outcome (n + 1) (op.pass outcome done n) := by
  have hbound := h.bound
  unfold Operation.pass
  rw [h.undecided]
  cases hanswer : op.answer? (outcome n) with
  | some answer =>
    have hkept : (outcome n).isLost = false := by
      by_contra hlost
      rw [answer?_eq_none_iff.mpr (by simpa using hlost)] at hanswer
      cases hanswer
    refine Or.inl ⟨⟨answer, rfl, Or.inl ⟨settles_of_answer? hanswer, hkept⟩⟩, ?_, h.lost,
      h.isReadOnly⟩
    exact congrArg (· ++ _) h.actions
  | none =>
    have hlost : (outcome n).isLost = true := answer?_eq_none_iff.mp hanswer
    by_cases hagain : (op.isReadOnly && decide (n < maxCalls - 1)) = true
    · obtain ⟨hread, hmore⟩ := Bool.and_eq_true_iff.mp hagain
      have hnext : n < maxCalls - 1 := of_decide_eq_true hmore
      right
      dsimp only
      rw [if_pos hagain]
      refine ⟨rfl, ?_, fun k hk => ?_, fun _ => hread, by omega⟩
      · simp [h.actions, waits_succ]
      · rcases Nat.lt_succ_iff_lt_or_eq.mp hk with hk | rfl
        · exact h.lost k hk
        · exact hlost
    · left
      dsimp only
      rw [if_neg hagain]
      refine ⟨⟨_, rfl, Or.inr ⟨hlost, fun hread => ?_, rfl⟩⟩, ?_, h.lost, h.isReadOnly⟩
      · have hlast : ¬n < maxCalls - 1 := by simpa [hread] using hagain
        omega
      · exact congrArg (· ++ _) h.actions

theorem pass_of_decided {done : Attempts} {answer : Except Raised Json}
    (h : done.answer? = some answer) (index : Nat) : op.pass outcome done index = done := by
  unfold pass
  rw [h]

/-! ## All passes -/

theorem waiting_or_finished (op : Operation) (outcome : Nat → Outcome) (n : Nat) :
    op.Waiting outcome n ((List.range n).foldl (op.pass outcome) {}) ∨
      ∃ m < maxCalls, op.Finished outcome m ((List.range n).foldl (op.pass outcome) {}) := by
  induction n with
  | zero => exact Or.inl waiting_start
  | succ n ih =>
    rw [List.range_succ, List.foldl_concat]
    rcases ih with hwaiting | ⟨m, hm, hfinished⟩
    · rcases hwaiting.pass with hfinished | hnext
      · exact Or.inr ⟨n, hwaiting.bound, hfinished⟩
      · exact Or.inl hnext
    · obtain ⟨answer, hanswer, -⟩ := hfinished.decided
      rw [pass_of_decided hanswer]
      exact Or.inr ⟨m, hm, hfinished⟩

/-- No operation goes through all passes undecided. -/
theorem exists_finished (op : Operation) (outcome : Nat → Outcome) :
    ∃ n < maxCalls, op.Finished outcome n (op.attempt outcome) := by
  rcases waiting_or_finished op outcome maxCalls with hwaiting | hfinished
  · exact absurd hwaiting.bound (Nat.lt_irrefl maxCalls)
  · exact hfinished

theorem Finished.calls_eq {n : Nat} {done : Attempts} (h : op.Finished outcome n done) :
    done.calls = n + 1 := by
  rw [Attempts.calls, h.actions, List.count_append, count_waits]
  rfl

/-- The answer of so many calls: the first of them that keeps the connection decides it, and if none
does, it is an error of the network that names their number. -/
inductive Decides (op : Operation) (outcome : Nat → Outcome) (calls : Nat) :
    Except Raised Json → Prop
  | settled {n : Nat} {answer : Except Raised Json} (hn : n < calls)
    (hlost : ∀ k < n, (outcome k).isLost = true) (h : op.Settles (outcome n) answer) :
    Decides op outcome calls answer
  | lost (h : ∀ k < calls, (outcome k).isLost = true) :
    Decides op outcome calls (.error (.family (.network
      (s!"A transient SSL error occurred in '{op.name}' after {calls} attempt(s). " ++
        "This is likely a temporary network or certificate issue. Please try again shortly."))))

theorem Settles.ne_foreign {o : Outcome} {answer : Except Raised Json} (h : op.Settles o answer)
    (text : String) : answer ≠ .error (.foreign text) := by
  cases h <;> simp

/-- Nothing foreign to the family decides the answer. -/
theorem Decides.ne_foreign {calls : Nat} {answer : Except Raised Json}
    (h : op.Decides outcome calls answer) (text : String) : answer ≠ .error (.foreign text) := by
  cases h with
  | settled _ _ hsettles => exact hsettles.ne_foreign text
  | lost => simp

theorem Finished.decides {n : Nat} {done : Attempts} (h : op.Finished outcome n done) :
    ∃ answer, done.answer? = some answer ∧ op.Decides outcome (n + 1) answer := by
  obtain ⟨answer, hanswer, ⟨hsettles, -⟩ | ⟨hlost, -, rfl⟩⟩ := h.decided
  · exact ⟨answer, hanswer, .settled (Nat.lt_succ_self n) h.lost hsettles⟩
  · refine ⟨_, hanswer, .lost fun k hk => ?_⟩
    rcases Nat.lt_succ_iff_lt_or_eq.mp hk with hk | rfl
    · exact h.lost k hk
    · exact hlost

/-- An operation that writes makes one call, whatever comes of it. -/
theorem attempt_of_write (op : Operation) (h : op.isReadOnly = false) (outcome : Nat → Outcome) :
    (op.attempt outcome).calls = 1 ∧ op.Decides outcome 1 (op.attempt outcome).answer := by
  obtain ⟨n, -, hfinished⟩ := exists_finished op outcome
  obtain rfl : n = 0 := by
    by_contra hne
    rw [hfinished.isReadOnly (Nat.pos_of_ne_zero hne)] at h
    exact Bool.false_ne_true h.symm
  obtain ⟨answer, hanswer, hdecides⟩ := hfinished.decides
  refine ⟨hfinished.calls_eq, ?_⟩
  rw [Attempts.answer, hanswer]
  exact hdecides

/--
An operation that writes makes one call. One that reads makes one more call than it loses connections
at the start, but no more than three; it pauses for one second before the second call, for two before
the third, and at no other time. There always is an answer: the first call that keeps the connection
decides it, and if none does, it is an error of the network that names the number of calls. Nothing
foreign to the family of errors is raised.
-/
theorem attempt_decided (op : Operation) (outcome : Nat → Outcome) :
    let done := op.attempt outcome
    (done.calls : ℕ∞) = (if op.isReadOnly then min 3 (1 + leadingLosses outcome) else 1) ∧
      done.actions = [Action.call, .pause 1, .call, .pause 2, .call].take (2 * done.calls - 1) ∧
      done.pauses = [1, 2].take (done.calls - 1) ∧
      ∃ answer, done.answer? = some answer ∧ op.Decides outcome done.calls answer ∧
        ∀ text, answer ≠ .error (.foreign text) := by
  intro done
  obtain ⟨n, hn, hfinished⟩ := exists_finished op outcome
  obtain ⟨answer, hanswer, hdecides⟩ := hfinished.decides
  have hcalls : done.calls = n + 1 := hfinished.calls_eq
  have hactions : done.actions = waits n ++ [.call] := hfinished.actions
  unfold maxCalls at hn
  rw [Attempts.pauses, hcalls, hactions]
  refine ⟨?_, ?_, ?_, answer, hanswer, hdecides, fun text => hdecides.ne_foreign text⟩
  · split
    · next hread =>
      refine calls_eq_min hn hfinished.lost fun hlost => ?_
      obtain ⟨-, -, ⟨-, hkept⟩ | ⟨-, hlast, -⟩⟩ := hfinished.decided
      · rw [hkept] at hlost
        exact absurd hlost Bool.false_ne_true
      · exact hlast hread
    · next hwrite =>
      have hzero : n = 0 := by
        by_contra hne
        exact hwrite (hfinished.isReadOnly (Nat.pos_of_ne_zero hne))
      rw [hzero]
      rfl
  · interval_cases n <;> rfl
  · interval_cases n <;> rfl

end Operation

end MarkupCompiler
