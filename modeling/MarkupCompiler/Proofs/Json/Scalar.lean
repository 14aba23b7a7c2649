import MarkupCompiler.Proofs.Json.Fraction
import MarkupCompiler.Proofs.Json.Text

/-!
# Words, numbers and blanks

No number begins like one of the words, so a number is never taken for a word. Fractions that are not
finite are written as words, which only the extended dialect knows.
-/

namespace MarkupCompiler.Json

variable {dialect : Dialect} {rest : Text}

/-- No number begins with a word whose first two characters are not digits. -/
theorem afterWord?_of_isDigit {a b d : Char} (ha : a.isDigit = false) (hb : b.isDigit = false)
    (hd : d.isDigit = true) (word tail : Text) (negative : Bool) :
    afterWord? (a :: b :: word) (Numeral.sign negative ++ d :: tail) = none := by
  have hne : ∀ c, c.isDigit = false → ¬(c == d) = true := by
    rintro c hc heq
    rw [eq_of_beq heq, hd] at hc
    exact Bool.noConfusion hc
  cases negative with
  | false =>
    show afterWord? (a :: b :: word) (d :: tail) = none
    rw [afterWord?, if_neg (hne a ha)]
  | true =>
    show afterWord? (a :: b :: word) ('-' :: d :: tail) = none
    rw [afterWord?, afterWord?, if_neg (hne b hb), ite_self]

theorem exists_letters {word : String} {v : Json} (h : (word, v) ∈ dialect.words) :
    ∃ a b letters, word.toList = a :: b :: letters ∧ a.isDigit = false ∧ b.isDigit = false := by
  have hall : ∀ entry ∈ dialect.words, ∃ a b letters,
      entry.1.toList = a :: b :: letters ∧ a.isDigit = false ∧ b.isDigit = false := by
    cases dialect <;> simp [Dialect.words]
  exact hall _ h

theorem scalar?_numeral {n : Numeral} (h : n.WellFormed) (hrest : Ends rest) :
    scalar? dialect (n.text ++ rest) = n.value?.map fun v => (v, rest) := by
  obtain ⟨d, whole, hwhole⟩ := List.exists_cons_of_ne_nil h.whole_ne
  have hdigit : d.isDigit = true := h.whole_digits d (by rw [hwhole]; exact List.mem_cons_self)
  obtain ⟨tail, htail⟩ : ∃ tail, n.text ++ rest = Numeral.sign n.negative ++ d :: tail := by
    refine ⟨whole ++ Numeral.pointText n.part ++ Numeral.exponentText n.exponent? ++ rest, ?_⟩
    simp [Numeral.text, hwhole]
  rw [scalar?, List.findSome?_eq_none_iff.mpr]
  · exact Numeral.number?_text h hrest
  · rintro ⟨word, v⟩ hentry
    obtain ⟨a, b, letters, hletters, ha, hb⟩ := exists_letters hentry
    dsimp only
    rw [hletters, htail, afterWord?_of_isDigit ha hb hdigit]
    rfl

theorem isFinite_eq (x : Float) : x.isFinite = (!x.isNaN && !x.isInf) := by
  show x.toModel.unpack.isFinite = (!x.toModel.unpack.isNaN && !x.toModel.unpack.isInf)
  cases x.toModel.unpack <;> rfl

/-- A fraction is read back if it is finite, and in the extended dialect also otherwise. -/
theorem scalar?_writeFloat (x : Float) (hrest : Ends rest) :
    scalar? dialect ((DecimalNotation.write .json x).toList ++ rest) =
      if dialect == .extended || x.isFinite then some (.float x, rest) else none := by
  rw [isFinite_eq]
  cases hnan : x.isNaN with
  | true =>
    have hx : x = Float.nan := by simpa using hnan
    rw [DecimalNotation.write, if_pos hnan, hx]
    cases dialect <;> rfl
  | false =>
    cases hinf : x.isInf with
    | true =>
      have hx := DecimalNotation.eq_of_isInf hinf
      unfold DecimalNotation.write
      simp only [hnan, hinf, Nat.pow_eq, Bool.false_eq_true, if_false, if_true]
      generalize (x.toBits.toNat / 2 ^ 63 % 2 == 1) = negative at hx ⊢
      rw [hx]
      cases dialect <;> cases negative <;> rfl
    | false =>
      obtain ⟨n, hfraction, htext, hvalue⟩ := Numeral.exists_write hnan hinf
      rw [← htext, scalar?_numeral hfraction.toWellFormed hrest, hvalue]
      simp

/-- Characters that no word and no number begins with. -/
def marks : Text := [' ', '\t', '\n', '\r', '[', ']', '\x7b', '\x7d', '"']

/-- The text begins like a word or a number. -/
def BeginsScalar (t : Text) : Prop := ∃ c rest, t = c :: rest ∧ c ∉ marks

theorem notMem_marks_of_isDigit {c : Char} (h : c.isDigit = true) : c ∉ marks := by
  have hall : ∀ c ∈ marks, c.isDigit = false := by simp [marks]
  intro hc
  rw [hall c hc] at h
  exact Bool.noConfusion h

theorem beginsScalar_numeral {n : Numeral} (h : n.WellFormed) : BeginsScalar n.text := by
  obtain ⟨d, whole, hwhole⟩ := List.exists_cons_of_ne_nil h.whole_ne
  have hdigit : d.isDigit = true := h.whole_digits d (by rw [hwhole]; exact List.mem_cons_self)
  rw [Numeral.text, hwhole]
  cases n.negative with
  | false => exact ⟨d, _, rfl, notMem_marks_of_isDigit hdigit⟩
  | true => exact ⟨'-', _, rfl, by decide⟩

theorem beginsScalar_writeFloat (x : Float) :
    BeginsScalar (DecimalNotation.write .json x).toList := by
  cases hnan : x.isNaN with
  | true =>
    rw [DecimalNotation.write, if_pos hnan]
    exact ⟨'N', _, rfl, by decide⟩
  | false =>
    cases hinf : x.isInf with
    | true =>
      unfold DecimalNotation.write
      simp only [hnan, hinf, Nat.pow_eq, Bool.false_eq_true, if_false, if_true]
      generalize (x.toBits.toNat / 2 ^ 63 % 2 == 1) = negative
      cases negative with
      | false => exact ⟨'I', _, rfl, by decide⟩
      | true => exact ⟨'-', _, rfl, by decide⟩
    | false =>
      obtain ⟨n, hfraction, htext, -⟩ := Numeral.exists_write hnan hinf
      exact htext ▸ beginsScalar_numeral hfraction.toWellFormed

def Blank (t : Text) : Prop := ∀ c ∈ t, c ∈ [' ', '\t', '\n', '\r']

theorem skipBlanks_append {blanks : Text} (h : Blank blanks) {c : Char} (t : Text)
    (hc : c ∉ [' ', '\t', '\n', '\r']) : skipBlanks (blanks ++ c :: t) = c :: t := by
  have hblank : ∀ c, (c == ' ' || c == '\t' || c == '\n' || c == '\r') = true ↔
      c ∈ [' ', '\t', '\n', '\r'] := by
    intro c
    simp [or_assoc]
  rw [skipBlanks, Text.trimStart, List.dropWhile_append_of_pos fun c hc => (hblank c).mpr (h c hc)]
  exact List.dropWhile_cons_of_neg fun hpos => hc ((hblank c).mp hpos)

theorem blank_lineBreak (layout : Layout) (depth : Nat) : Blank (layout.lineBreak depth).toList := by
  cases layout with
  | compact => exact fun c hc => absurd hc List.not_mem_nil
  | indented =>
    rw [Layout.lineBreak, String.toList_ofList]
    intro c hc
    rcases List.mem_cons.mp hc with rfl | hc
    · decide
    · rw [List.eq_of_mem_replicate hc]
      decide

theorem exists_separator (layout : Layout) (depth : Nat) :
    ∃ blanks, (layout.separator depth).toList = ',' :: blanks ∧ Blank blanks := by
  cases layout with
  | compact =>
    refine ⟨[' '], by simp [Layout.separator], fun c hc => ?_⟩
    rw [List.mem_singleton.mp hc]
    decide
  | indented =>
    refine ⟨_, ?_, blank_lineBreak .indented depth⟩
    rw [Layout.separator, String.toList_append]
    rfl

theorem skipBlanks_cons {c : Char} (hc : c ∉ [' ', '\t', '\n', '\r']) (t : Text) :
    skipBlanks (c :: t) = c :: t :=
  skipBlanks_append (fun _ h => absurd h List.not_mem_nil) t hc

theorem value?_scalar {blanks t : Text} (hblanks : Blank blanks) (ht : BeginsScalar t)
    (fuel : Nat) (rest : Text) :
    value? dialect (fuel + 1) (blanks ++ (t ++ rest)) = scalar? dialect (t ++ rest) := by
  obtain ⟨c, others, rfl, hc⟩ := ht
  have hblank : c ∉ [' ', '\t', '\n', '\r'] := fun h => hc (List.mem_append_left _ h)
  have hne : ∀ m ∈ marks, c ≠ m := fun m hm heq => hc (heq ▸ hm)
  rw [value?, List.cons_append, skipBlanks_append hblanks _ hblank]
  split
  · next h => exact absurd (List.cons.inj h).1 (hne '[' (by decide))
  · next h => exact absurd (List.cons.inj h).1 (hne '\x7b' (by decide))
  · next h => exact absurd (List.cons.inj h).1 (hne '"' (by decide))
  · rfl

end MarkupCompiler.Json
