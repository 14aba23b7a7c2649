import MarkupCompiler.Json.Reader
import MarkupCompiler.Json.Writer

/-!
# Strings are read back

A character is written as it is, by a letter that stands for it, or by one or two UTF-16 units. Each
way is read back as the same character, so a string is read back up to its closing quote.
-/

namespace MarkupCompiler.Json

theorem hexValue?_hexDigit (n : Nat) : Text.hexValue? (Text.hexDigit (n % 16)) = some (n % 16) := by
  have hall : ∀ d < 16, Text.hexValue? (Text.hexDigit d) = some d := by decide
  exact hall _ (Nat.mod_lt n (by decide))

theorem unit?_hexDigits {n : Nat} (h : n < 0x10000) (rest : Text) :
    unit? (Text.hexDigits 4 n ++ rest) = some (n, rest) := by
  have hvalue : ((n / 16 / 16 / 16 % 16 * 16 + n / 16 / 16 % 16) * 16 + n / 16 % 16) * 16 + n % 16 =
      n := by omega
  simp [Text.hexDigits, unit?, hexValue?_hexDigit, hvalue]

/-- No unit of a character stands for the first half of another one. -/
theorem toNat_div_ne (c : Char) : c.toNat / 0x400 ≠ 0x36 := by
  have hvalid := c.valid
  change c.toNat.isValidChar at hvalid
  unfold Nat.isValidChar at hvalid
  omega

theorem escapedUnit?_of_lt {c : Char} (h : c.toNat < 0x10000) (rest : Text) :
    escapedUnit? (Text.hexDigits 4 c.toNat ++ rest) = some (c, rest) := by
  have hhigh : (c.toNat / 0x400 == 0x36) = false := beq_eq_false_iff_ne.mpr (toNat_div_ne c)
  simp [escapedUnit?, unit?_hexDigits h, hhigh]

theorem escapedUnit?_pair {high low : Nat} (hhigh : high < 0x10000) (hlow : low < 0x10000)
    (hfirst : high / 0x400 = 0x36) (hsecond : low / 0x400 = 0x37) (rest : Text) :
    escapedUnit? (Text.hexDigits 4 high ++ (unitEscape low ++ rest)) =
      some (Char.ofNat (0x10000 + (high - 0xD800) * 0x400 + (low - 0xDC00)), rest) := by
  have hfirst : (high / 0x400 == 0x36) = true := beq_iff_eq.mpr hfirst
  have hsecond : (low / 0x400 == 0x37) = true := beq_iff_eq.mpr hsecond
  simp only [escapedUnit?, unit?_hexDigits hhigh, Option.bind_eq_bind, Option.bind_some, hfirst,
    unitEscape, List.cons_append, unit?_hexDigits hlow, hsecond, if_true]

theorem escapedUnit?_of_le {c : Char} (h : 0x10000 ≤ c.toNat) (rest : Text) :
    escapedUnit? (Text.hexDigits 4 (0xD800 + (c.toNat - 0x10000) / 0x400) ++
      (unitEscape (0xDC00 + (c.toNat - 0x10000) % 0x400) ++ rest)) = some (c, rest) := by
  have hmost : c.toNat < 0x110000 := by
    have hvalid := c.valid
    change c.toNat.isValidChar at hvalid
    unfold Nat.isValidChar at hvalid
    omega
  have hvalue : 0x10000 + (0xD800 + (c.toNat - 0x10000) / 0x400 - 0xD800) * 0x400 +
      (0xDC00 + (c.toNat - 0x10000) % 0x400 - 0xDC00) = c.toNat := by omega
  rw [escapedUnit?_pair (by omega) (by omega) (by omega) (by omega), hvalue, Char.ofNat_toNat]

/-- The texts that are read as a character of a string. -/
inductive Escape (c : Char) : Text → Prop
  | letter {letter : Char} (h : escapedLetter? letter = some c) (hne : letter ≠ 'u') :
    Escape c ['\\', letter]
  | plain (hquote : c ≠ '"') (hslash : c ≠ '\\') : Escape c [c]
  | unit (h : c.toNat < 0x10000) : Escape c (unitEscape c.toNat)
  | pair (h : 0x10000 ≤ c.toNat) :
    Escape c (unitEscape (0xD800 + (c.toNat - 0x10000) / 0x400) ++
      unitEscape (0xDC00 + (c.toNat - 0x10000) % 0x400))

theorem escape_escapedChar (c : Char) : Escape c (escapedChar c) := by
  have hletter : ∀ {d letter : Char}, (c == d) = true → escapedLetter? letter = some d →
      letter ≠ 'u' → Escape c ['\\', letter] := by
    intro d letter hc hd hne
    rw [← eq_of_beq hc] at hd
    exact .letter hd hne
  have hcontrol : ∀ {n : Nat} {letter : Char}, (c.toNat == n) = true →
      escapedLetter? letter = some (Char.ofNat n) → letter ≠ 'u' → Escape c ['\\', letter] := by
    intro n letter hc hd hne
    rw [← eq_of_beq hc, Char.ofNat_toNat] at hd
    exact .letter hd hne
  unfold escapedChar
  dsimp only
  split
  · next hquote => exact hletter hquote rfl (by decide)
  split
  · next hslash => exact hletter hslash rfl (by decide)
  split
  · next hnewline => exact hletter hnewline rfl (by decide)
  split
  · next hreturn => exact hletter hreturn rfl (by decide)
  split
  · next htab => exact hletter htab rfl (by decide)
  split
  · next hback => exact hcontrol hback rfl (by decide)
  split
  · next hform => exact hcontrol hform rfl (by decide)
  split
  · next hquote hslash _ _ _ _ _ _ =>
    exact .plain (fun h => hquote (beq_iff_eq.mpr h)) (fun h => hslash (beq_iff_eq.mpr h))
  split
  · next hshort => exact .unit hshort
  · next hlong => exact .pair (Nat.le_of_not_lt hlong)

theorem Escape.ne_nil {c : Char} {w : Text} (h : Escape c w) : w ≠ [] := by
  cases h <;> exact List.cons_ne_nil _ _

/-- An escape is read back as the character that it stands for. -/
theorem string?_escape {c : Char} {w : Text} (h : Escape c w) (fuel : Nat) (t : Text) :
    string? (fuel + 1) (w ++ t) = (string? fuel t).map fun (cs, rest) => (c :: cs, rest) := by
  have hmap : (do
      let (cs, rest) ← string? fuel t
      some (c :: cs, rest)) = (string? fuel t).map fun (cs, rest) => (c :: cs, rest) := by
    cases string? fuel t <;> rfl
  have hunits : ∀ digits, escapedUnit? digits = some (c, t) →
      string? (fuel + 1) ('\\' :: 'u' :: digits) =
        (string? fuel t).map fun (cs, rest) => (c :: cs, rest) := by
    intro digits hread
    rw [← hmap, string?]
    simp [hread]
  cases h with
  | letter h hne =>
    rw [List.cons_append, List.cons_append, List.nil_append, ← hmap, string?]
    · simp [h]
    · exact hne
  | plain hquote hslash =>
    rw [← hmap]
    simp [string?, hquote, hslash]
  | unit h => exact hunits _ (escapedUnit?_of_lt h t)
  | pair h =>
    rw [List.append_assoc]
    exact hunits _ (escapedUnit?_of_le h t)

/-- A string that is written is read back up to its closing quote. -/
theorem string?_written {cs : Text} {fuel : Nat} (h : cs.length < fuel) (rest : Text) :
    string? fuel (cs.flatMap escapedChar ++ '"' :: rest) = some (cs, rest) := by
  induction cs generalizing fuel with
  | nil =>
    obtain ⟨fuel, rfl⟩ := Nat.exists_eq_succ_of_ne_zero (Nat.ne_of_gt h)
    simp [string?]
  | cons c cs ih =>
    obtain ⟨fuel, rfl⟩ := Nat.exists_eq_succ_of_ne_zero (Nat.ne_of_gt (Nat.zero_lt_of_lt h))
    rw [List.flatMap_cons, List.append_assoc, string?_escape (escape_escapedChar c),
      ih (Nat.lt_of_succ_lt_succ h)]
    rfl

theorem length_le_length_escaped (cs : Text) : cs.length ≤ (cs.flatMap escapedChar).length := by
  induction cs with
  | nil => exact Nat.zero_le _
  | cons c cs ih =>
    have hpos := List.length_pos_iff.mpr (escape_escapedChar c).ne_nil
    rw [List.flatMap_cons, List.length_append, List.length_cons]
    omega

end MarkupCompiler.Json
