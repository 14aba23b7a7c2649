import MarkupCompiler.Json.Reader
import MarkupCompiler.Json.Writer
import MarkupCompiler.Proofs.Number.IntegerText

/-!
# Numbers by the grammar are read to their end

A number has a sign, digits, and perhaps more digits behind a point and an exponent. It ends where
a comma, a bracket or a line break follows. What is written of an integer is such a number.
-/

namespace MarkupCompiler

namespace Json

/-- The text ends, or goes on with what may follow a value. -/
def Ends (rest : Text) : Prop := ∀ c, rest.head? = some c → c ∈ [',', '\n', ']', '\x7d']

theorem Ends.head_eq {rest : Text} (h : Ends rest) {c : Char} (hc : rest.head? = some c) :
    c = ',' ∨ c = '\n' ∨ c = ']' ∨ c = '\x7d' := by
  simpa using h c hc

theorem Ends.not_isDigit {rest : Text} (h : Ends rest) {c : Char} (hc : rest.head? = some c) :
    c.isDigit = false := by
  rcases h.head_eq hc with rfl | rfl | rfl | rfl <;> rfl

theorem digits?_append {ds rest : Text} (hds : ∀ c ∈ ds, c.isDigit = true) (hne : ds ≠ [])
    (hrest : ∀ c, rest.head? = some c → c.isDigit = false) :
    digits? (ds ++ rest) = some (ds, rest) := by
  have htake : (ds ++ rest).takeWhile Char.isDigit = ds := by
    rw [List.takeWhile_append_of_pos hds]
    cases rest with
    | nil => simp
    | cons c rest => simp [hrest c rfl]
  have hdrop : (ds ++ rest).dropWhile Char.isDigit = rest := by
    rw [List.dropWhile_append_of_pos hds]
    cases rest with
    | nil => rfl
    | cons c rest => simp [hrest c rfl]
  rw [digits?, htake, hdrop]
  cases ds with
  | nil => exact absurd rfl hne
  | cons c ds => rfl

theorem digitsValue_ten {ds : Text} (h : ∀ c ∈ ds, c.isDigit = true) :
    Text.digitsValue 10 ds = Nat.ofDigitChars 10 ds 0 := by
  rw [Text.digitsValue, Nat.ofDigitChars_eq_foldl]
  refine List.foldl_ext _ _ 0 fun n c hc => ?_
  obtain ⟨hlow, hhigh⟩ := IntegerText.toNat_of_isDigit (h c hc)
  simp [Text.hexValue?, hlow, hhigh]

theorem digitsValue_toString (n : Nat) : Text.digitsValue 10 (toString n).toList = n := by
  rw [digitsValue_ten fun c => IntegerText.isDigit_of_mem_toString, IntegerText.toList_toString,
    Nat.ofDigitChars_ten_toDigits]

/-- The parts of a number: its sign, its digits, and its exponent with its own sign. -/
structure Numeral where
  negative : Bool
  whole : Text
  part : Text
  exponent? : Option (Bool × Text)

namespace Numeral

def sign (negative : Bool) : Text := if negative then ['-'] else []

def pointText (part : Text) : Text := if part.isEmpty then [] else '.' :: part

def exponentText : Option (Bool × Text) → Text
  | none => []
  | some (negative, ds) => 'e' :: (if negative then '-' else '+') :: ds

def text (n : Numeral) : Text :=
  sign n.negative ++ n.whole ++ pointText n.part ++ exponentText n.exponent?

/-- The parts are those of a number in JSON. -/
structure WellFormed (n : Numeral) : Prop where
  whole_digits : ∀ c ∈ n.whole, c.isDigit = true
  whole_ne : n.whole ≠ []
  whole_head : n.whole = ['0'] ∨ n.whole.head? ≠ some '0'
  part_digits : ∀ c ∈ n.part, c.isDigit = true
  exponent : ∀ negative ds, n.exponent? = some (negative, ds) → ds ≠ [] ∧ ∀ c ∈ ds, c.isDigit = true

def exponentValue (n : Numeral) : Int :=
  match n.exponent? with
  | none => 0
  | some (negative, ds) =>
    if negative then -(Int.ofNat (Text.digitsValue 10 ds)) else Int.ofNat (Text.digitsValue 10 ds)

/-- The value of a number: a fraction if it has a part behind a point or an exponent. -/
def value? (n : Numeral) : Option Json :=
  if n.part.isEmpty && n.exponent?.isNone then
    if n.whole.length > IntegerText.maxDigits then none
    else
      let value := Int.ofNat (Text.digitsValue 10 n.whole)
      some (.int (if n.negative then -value else value))
  else
    some (.float (DecimalText.toFloat n.negative (Text.digitsValue 10 (n.whole ++ n.part))
      (n.exponentValue - Int.ofNat n.part.length)))

variable {n : Numeral} {rest : Text}

theorem exponentPart_text (h : n.WellFormed) (hrest : Ends rest) :
    exponentPart (exponentText n.exponent? ++ rest) =
      (n.exponent?.map fun _ => n.exponentValue, rest) := by
  cases hexponent : n.exponent? with
  | none =>
    cases rest with
    | nil => rfl
    | cons c rest =>
      have hletter : (c == 'e' || c == 'E') = false := by
        rcases hrest.head_eq (List.head?_cons) with rfl | rfl | rfl | rfl <;> rfl
      simp [exponentText, exponentPart, hletter]
  | some exponent =>
    obtain ⟨negative, ds⟩ := exponent
    obtain ⟨hne, hdigits⟩ := h.exponent negative ds hexponent
    have hread : digits? (ds ++ rest) = some (ds, rest) :=
      digits?_append hdigits hne fun c hc => hrest.not_isDigit hc
    cases negative <;>
      simp [exponentText, exponentPart, IntegerText.sign, hread, exponentValue, hexponent]

theorem exponentText_head? (exponent? : Option (Bool × Text)) (hrest : Ends rest) {c : Char}
    (hc : (exponentText exponent? ++ rest).head? = some c) : c.isDigit = false ∧ c ≠ '.' := by
  cases exponent? with
  | none =>
    rcases hrest.head_eq hc with rfl | rfl | rfl | rfl <;> decide
  | some exponent =>
    obtain rfl : 'e' = c := Option.some.inj hc
    decide

theorem fractionPart_text (h : n.WellFormed) (hrest : Ends rest) :
    fractionPart (pointText n.part ++ (exponentText n.exponent? ++ rest)) =
      (n.part, exponentText n.exponent? ++ rest) := by
  have hhead := fun c => exponentText_head? n.exponent? hrest (c := c)
  cases hpart : n.part with
  | nil =>
    have hpoint : ∀ t : Text, (∀ c, t.head? = some c → c ≠ '.') → fractionPart t = ([], t) := by
      intro t ht
      rw [fractionPart]
      rintro rest rfl
      exact ht '.' rfl rfl
    exact hpoint _ fun c hc => (hhead c hc).2
  | cons c part =>
    have hdigits := h.part_digits
    rw [hpart] at hdigits
    have hread := digits?_append hdigits (List.cons_ne_nil c part) fun c hc => (hhead c hc).1
    show (digits? (c :: part ++ (exponentText n.exponent? ++ rest))).getD _ = _
    rw [hread]
    rfl

theorem wholePart?_text (h : n.WellFormed) {after : Text}
    (hafter : ∀ c, after.head? = some c → c.isDigit = false) :
    wholePart? (n.whole ++ after) = some (n.whole, after) := by
  rcases h.whole_head with hzero | hhead
  · rw [hzero]
    rfl
  · rw [wholePart?]
    · exact digits?_append h.whole_digits h.whole_ne hafter
    · intro rest hrest
      cases hwhole : n.whole with
      | nil => exact h.whole_ne hwhole
      | cons c whole =>
        rw [hwhole] at hrest hhead
        exact hhead (congrArg some (List.cons.inj hrest).1)

theorem minus_text (h : n.WellFormed) (after : Text) :
    minus (sign n.negative ++ (n.whole ++ after)) = (n.negative, n.whole ++ after) := by
  cases n.negative with
  | true => rfl
  | false =>
    show minus (n.whole ++ after) = _
    rw [minus]
    intro rest hrest
    cases hwhole : n.whole with
    | nil => exact h.whole_ne hwhole
    | cons c whole =>
      rw [hwhole] at hrest
      obtain rfl : c = '-' := (List.cons.inj hrest).1
      have hdigit := h.whole_digits '-' (by rw [hwhole]; exact List.mem_cons_self)
      exact absurd hdigit (by decide)

/-- A number by the grammar is read to its end. -/
theorem number?_text (h : n.WellFormed) (hrest : Ends rest) :
    number? (n.text ++ rest) = n.value?.map fun v => (v, rest) := by
  have hpoint : ∀ c, (pointText n.part ++ (exponentText n.exponent? ++ rest)).head? = some c →
      c.isDigit = false := by
    intro c hc
    cases hpart : n.part with
    | nil =>
      rw [hpart] at hc
      exact (exponentText_head? n.exponent? hrest hc).1
    | cons d part =>
      rw [hpart] at hc
      obtain rfl : '.' = c := Option.some.inj hc
      decide
  have hwhole := wholePart?_text h hpoint
  have hexponent : (n.exponent?.map fun _ => n.exponentValue).getD 0 = n.exponentValue := by
    unfold exponentValue
    cases n.exponent? <;> rfl
  rw [text, List.append_assoc, List.append_assoc, List.append_assoc, number?, minus_text h]
  simp only [hwhole, fractionPart_text h hrest, exponentPart_text h hrest, Option.bind_eq_bind,
    Option.bind_some, value?, Option.isNone_map, hexponent]
  cases n.part.isEmpty && n.exponent?.isNone with
  | false => rfl
  | true =>
    by_cases hlong : n.whole.length > IntegerText.maxDigits
    · simp [hlong]
    · simp [hlong]

/-- The parts of an integer. -/
def ofInt (n : Int) : Numeral := ⟨decide (n < 0), (toString n.natAbs).toList, [], none⟩

theorem wellFormed_ofInt (n : Int) : (ofInt n).WellFormed := by
  refine ⟨fun c => IntegerText.isDigit_of_mem_toString, IntegerText.toString_ne_nil _, ?_, ?_, ?_⟩
  · rcases Nat.eq_zero_or_pos n.natAbs with hzero | hpos
    · left
      show (toString n.natAbs).toList = ['0']
      rw [hzero]
      rfl
    · exact Or.inr (IntegerText.head?_toString hpos)
  · exact fun c hc => absurd hc List.not_mem_nil
  · rintro negative ds ⟨⟩

theorem text_ofInt (n : Int) : (ofInt n).text = (toString n).toList := by
  rw [Int.toString_eq_repr, Int.repr_eq_if]
  split
  · next hn =>
    have hneg : decide (n < 0) = false := decide_eq_false (by omega)
    have habs : n.natAbs = n.toNat := by omega
    simp [text, ofInt, sign, pointText, exponentText, hneg, habs]
  · next hn =>
    have hneg : decide (n < 0) = true := decide_eq_true (by omega)
    have habs : n.natAbs = (-n).toNat := by omega
    simp [text, ofInt, sign, pointText, exponentText, hneg, habs]

theorem value?_ofInt (n : Int) :
    (ofInt n).value? = if IntegerText.isWritable n then some (.int n) else none := by
  have hvalue := digitsValue_toString n.natAbs
  have hsign : (if n < 0 then -Int.ofNat n.natAbs else Int.ofNat n.natAbs) = n := by
    rw [Int.ofNat_eq_natCast]
    split <;> omega
  have hlong : (toString n.natAbs).toList.length > IntegerText.maxDigits ↔
      ¬IntegerText.isWritable n = true := by
    rw [IntegerText.toList_toString, IntegerText.isWritable_iff, gt_iff_lt, ← Nat.not_le,
      IntegerText.length_toDigits_le_iff]
  unfold value? ofInt
  simp only [List.isEmpty_nil, Option.isNone_none, Bool.and_self, if_true, hlong, hvalue,
    decide_eq_true_eq, hsign, ite_not]

end Numeral

end Json

end MarkupCompiler
