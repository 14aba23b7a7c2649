import MarkupCompiler.Text.Basic
import Mathlib.Data.List.DropRight

/-!
# Solid characters

A character is solid when it is no HTML whitespace. The steps that put a text into normal form
drop and replace whitespace only, so they keep the solid characters and their order. The outline
of a text tells where its solid characters stand; texts with one outline agree on every position
that a solid character takes.
-/

namespace MarkupCompiler.Text

/-- Whether a character is no HTML whitespace. -/
def isSolid (c : Char) : Bool := !isSpace c

def solids (t : Text) : Text := t.filter isSolid

@[simp] theorem solids_nil : solids [] = [] := rfl

@[simp] theorem solids_append (s t : Text) : solids (s ++ t) = solids s ++ solids t :=
  List.filter_append ..

theorem solids_cons_of_space {c : Char} (h : isSpace c = true) (t : Text) :
    solids (c :: t) = solids t := by
  simp [solids, isSolid, h]

theorem solids_cons_of_solid {c : Char} (h : isSpace c = false) (t : Text) :
    solids (c :: t) = c :: solids t := by
  simp [solids, isSolid, h]

theorem solids_eq_nil_iff {t : Text} : solids t = [] ↔ ∀ c ∈ t, isSpace c = true := by
  simp [solids, isSolid]

theorem count_solids {c : Char} (hc : isSolid c = true) (t : Text) :
    (solids t).count c = t.count c :=
  List.count_filter hc

theorem isSpace_of_eq_space {c : Char} (h : (c == ' ') = true) : isSpace c = true := by
  obtain rfl := eq_of_beq h
  rfl

theorem ne_of_isSpace {c d : Char} (hc : isSpace c = false) (hd : isSpace d = true) : c ≠ d := by
  rintro rfl
  exact absurd hd (by simp [hc])

theorem ne_of_isSolid {c d : Char} (hc : isSolid c = true) (hd : isSpace d = true) : c ≠ d :=
  ne_of_isSpace (by simpa [isSolid] using hc) hd

theorem trimEnd_eq_rdropWhile (p : Char → Bool) (t : Text) : trimEnd p t = t.rdropWhile p := by
  induction t with
  | nil => rfl
  | cons c rest ih =>
    rw [trimEnd, ih]
    simp only [List.rdropWhile, List.reverse_cons, List.dropWhile_append]
    by_cases hrest : rest.reverse.dropWhile p = []
    · by_cases hc : p c = true
      · simp [hrest, hc]
      · simp [hrest, hc]
    · obtain ⟨d, kept, hd⟩ := List.exists_cons_of_ne_nil (mt List.reverse_eq_nil_iff.mp hrest)
      simp only [List.isEmpty_iff, hrest, if_false, List.reverse_append, hd]
      rfl

/-- Trimming the end of a text cuts off a piece that matches throughout. -/
theorem exists_trimEnd (p : Char → Bool) (t : Text) :
    ∃ cut : Text, t = trimEnd p t ++ cut ∧ ∀ c ∈ cut, p c = true := by
  refine ⟨t.rtakeWhile p, ?_, fun c hc => List.mem_rtakeWhile_imp hc⟩
  rw [trimEnd_eq_rdropWhile]
  exact (List.rdropWhile_append_rtakeWhile).symm

theorem getLast?_trimEnd {p : Char → Bool} {t : Text} {c : Char}
    (h : (trimEnd p t).getLast? = some c) : p c = false := by
  rw [trimEnd_eq_rdropWhile] at h
  obtain ⟨init, hinit⟩ := List.getLast?_eq_some_iff.mp h
  have hne : t.rdropWhile p ≠ [] := by simp [hinit]
  have hlast := List.rdropWhile_last_not p t hne
  simpa [hinit] using hlast

theorem trimEnd_eq_self {p : Char → Bool} {t : Text}
    (h : ∀ c, t.getLast? = some c → p c = false) : trimEnd p t = t := by
  rw [trimEnd_eq_rdropWhile, List.rdropWhile_eq_self_iff]
  intro hne
  simpa using h _ (List.getLast?_eq_some_getLast hne)

theorem trim_eq_self {p : Char → Bool} {t : Text} (hhead : ∀ c, t.head? = some c → p c = false)
    (hlast : ∀ c, t.getLast? = some c → p c = false) : trim p t = t := by
  have hstart : trimStart p t = t := by
    cases t with
    | nil => rfl
    | cons c rest => exact List.dropWhile_cons_of_neg (by simp [hhead c rfl])
  rw [trim, hstart]
  exact trimEnd_eq_self hlast

theorem head?_trim {p : Char → Bool} {t : Text} {c : Char} (h : (trim p t).head? = some c) :
    p c = false := by
  obtain ⟨cut, hcut, -⟩ := exists_trimEnd p (trimStart p t)
  have hstart : (t.dropWhile p).head? = some c := by
    change trimStart p t = trim p t ++ cut at hcut
    rw [← trimStart, hcut, List.head?_append, h]
    rfl
  have hfirst := List.head?_dropWhile_not p t
  rw [hstart] at hfirst
  simpa using hfirst

theorem trim_trim (p : Char → Bool) (t : Text) : trim p (trim p t) = trim p t :=
  trim_eq_self (fun _ => head?_trim) fun _ => getLast?_trimEnd

theorem solids_trimEnd {p : Char → Bool} (hp : ∀ c, p c = true → isSpace c = true) (t : Text) :
    solids (trimEnd p t) = solids t := by
  obtain ⟨cut, ht, hcut⟩ := exists_trimEnd p t
  have hnone : solids cut = [] := solids_eq_nil_iff.mpr fun c hc => hp c (hcut c hc)
  calc solids (trimEnd p t) = solids (trimEnd p t ++ cut) := by rw [solids_append, hnone, List.append_nil]
    _ = solids t := by rw [← ht]

theorem solids_trimStart {p : Char → Bool} (hp : ∀ c, p c = true → isSpace c = true) (t : Text) :
    solids (trimStart p t) = solids t := by
  have hnone : solids (t.takeWhile p) = [] :=
    solids_eq_nil_iff.mpr fun c hc => hp c (List.mem_takeWhile_imp hc)
  calc solids (trimStart p t) = solids (t.takeWhile p ++ t.dropWhile p) := by
        rw [solids_append, hnone, List.nil_append, trimStart]
    _ = solids t := by rw [List.takeWhile_append_dropWhile]

theorem solids_trim {p : Char → Bool} (hp : ∀ c, p c = true → isSpace c = true) (t : Text) :
    solids (trim p t) = solids t := by
  rw [trim, solids_trimEnd hp, solids_trimStart hp]

theorem solids_collapseFrom (inRun : Bool) (t : Text) : solids (collapseFrom inRun t) = solids t := by
  induction t generalizing inRun with
  | nil => rfl
  | cons c rest ih =>
    by_cases hc : isSpace c = true
    · cases inRun <;> simp [collapseFrom, hc, ih, solids_cons_of_space, show isSpace ' ' = true from rfl]
    · rw [Bool.not_eq_true] at hc
      simp [collapseFrom, hc, ih, solids_cons_of_solid]

theorem solids_collapse (t : Text) : solids (collapse t) = solids t := solids_collapseFrom false t

theorem solids_normalize (t : Text) : solids (normalize t) = solids t := by
  rw [normalize, solids_trim fun _ => isSpace_of_eq_space, solids_collapse]

theorem solids_join (pieces : List Text) :
    solids (join ['\n'] pieces) = (pieces.map solids).flatten := by
  induction pieces with
  | nil => rfl
  | cons piece pieces ih =>
    cases pieces with
    | nil => simp [join]
    | cons next pieces =>
      rw [join, solids_append, solids_append, ih, List.map_cons, List.flatten_cons]
      · simp [solids_cons_of_space, show isSpace '\n' = true from rfl]
      · simp

theorem solids_split (t : Text) : ((split '\n' t).map solids).flatten = solids t := by
  induction t with
  | nil => rfl
  | cons c rest ih =>
    rw [split]
    by_cases hc : (c == '\n') = true
    · obtain rfl := eq_of_beq hc
      simpa [solids_cons_of_space, show isSpace '\n' = true from rfl] using ih
    · rw [if_neg hc, ← List.singleton_append (l := rest), solids_append, ← ih]
      cases split '\n' rest with
      | nil => simp
      | cons piece pieces =>
        rw [List.map_cons, List.map_cons, List.flatten_cons, List.flatten_cons,
          ← List.append_assoc, ← solids_append, List.singleton_append]

/-- Rewriting each line of a text keeps the solid characters if rewriting a line does. -/
theorem solids_join_map_split {f : Text → Text} (hf : ∀ t, solids (f t) = solids t) (t : Text) :
    solids (join ['\n'] ((split '\n' t).map f)) = solids t := by
  rw [solids_join, List.map_map, ← solids_split t]
  exact congrArg (fun g => ((split '\n' t).map g).flatten) (funext hf)

/-- Where the whitespace of a text stands. -/
def outline (t : Text) : List Bool := t.map isSpace

@[simp] theorem outline_append (s t : Text) : outline (s ++ t) = outline s ++ outline t :=
  List.map_append ..

@[simp] theorem length_outline (t : Text) : (outline t).length = t.length := List.length_map ..

/-- The positions of the solid characters, in ascending order. -/
def solidPositions : Text → List Nat
  | [] => []
  | c :: rest => (if isSpace c then [] else [0]) ++ (solidPositions rest).map (· + 1)

theorem solidPositions_append (s t : Text) :
    solidPositions (s ++ t) = solidPositions s ++ (solidPositions t).map (· + s.length) := by
  induction s with
  | nil => simp [solidPositions]
  | cons c rest ih =>
    simp only [List.cons_append, solidPositions, ih, List.map_append, List.map_map,
      List.append_assoc, List.length_cons]
    rfl

theorem solidPositions_eq_nil {t : Text} (h : ∀ c ∈ t, isSpace c = true) :
    solidPositions t = [] := by
  induction t with
  | nil => rfl
  | cons c rest ih =>
    have hrest := ih fun d hd => h d (List.mem_cons_of_mem c hd)
    simp [solidPositions, h c List.mem_cons_self, hrest]

theorem length_solidPositions (t : Text) : (solidPositions t).length = (solids t).length := by
  induction t with
  | nil => rfl
  | cons c rest ih =>
    by_cases hc : isSpace c = true
    · simp [solidPositions, hc, ih, solids_cons_of_space]
    · rw [Bool.not_eq_true] at hc
      simp [solidPositions, hc, ih, solids_cons_of_solid, Nat.add_comm]

theorem solidPositions_of_outline_eq {s t : Text} (h : outline s = outline t) :
    solidPositions s = solidPositions t := by
  induction s generalizing t with
  | nil =>
    have ht : t = [] := by simpa [outline] using h.symm
    rw [ht]
  | cons c rest ih =>
    cases t with
    | nil => simp [outline] at h
    | cons d rest' =>
      obtain ⟨hc, hrest⟩ := List.cons.inj h
      rw [solidPositions, solidPositions, hc, ih hrest]

/-- A text that goes on after a given outline keeps the solid positions that this outline has. -/
theorem solidPositions_of_outline_extends {s t : Text} (h : outline s <+: outline t) :
    solidPositions t =
      solidPositions s ++ (solidPositions (t.drop s.length)).map (· + s.length) := by
  have hlen : s.length ≤ t.length := by simpa using h.length_le
  have htake : outline (t.take s.length) = outline s := by
    obtain ⟨more, hmore⟩ := h
    rw [outline, List.map_take, ← outline, ← hmore, ← length_outline s, List.take_left]
  have hpos := solidPositions_append (t.take s.length) (t.drop s.length)
  rw [List.take_append_drop, solidPositions_of_outline_eq htake, List.length_take,
    Nat.min_eq_left hlen] at hpos
  exact hpos

theorem solids_drop_of_outline_extends {s t more : Text} (h : outline s <+: outline t)
    (hmore : solids t = solids s ++ more) : solids (t.drop s.length) = more := by
  have hlen := congrArg List.length (solidPositions_of_outline_extends h)
  rw [List.length_append, List.length_map, length_solidPositions, length_solidPositions,
    length_solidPositions] at hlen
  have hsplit := solids_append (t.take s.length) (t.drop s.length)
  rw [List.take_append_drop] at hsplit
  have hlen' := congrArg List.length hsplit
  rw [List.length_append] at hlen'
  exact (List.append_inj_right (hsplit.symm.trans hmore) (by omega))

theorem mem_solidPositions {t : Text} {p : Nat} :
    p ∈ solidPositions t ↔ ∃ c, t[p]? = some c ∧ isSolid c = true := by
  induction t generalizing p with
  | nil => simp [solidPositions]
  | cons c rest ih =>
    cases p with
    | zero =>
      by_cases hc : isSpace c = true <;> simp [solidPositions, isSolid, hc]
    | succ p =>
      by_cases hc : isSpace c = true <;> simp [solidPositions, hc, ih]

theorem solidPositions_lt {t : Text} {p : Nat} (h : p ∈ solidPositions t) : p < t.length := by
  obtain ⟨c, hc, -⟩ := mem_solidPositions.mp h
  exact (List.getElem?_eq_some_iff.mp hc).1

theorem pairwise_solidPositions (t : Text) : (solidPositions t).Pairwise (· < ·) := by
  induction t with
  | nil => exact List.Pairwise.nil
  | cons c rest ih =>
    have hrest : ((solidPositions rest).map (· + 1)).Pairwise (· < ·) :=
      List.pairwise_map.mpr (ih.imp (by omega))
    rw [solidPositions]
    split
    · simpa using hrest
    · refine List.pairwise_cons.mpr ⟨?_, hrest⟩
      intro n hn
      obtain ⟨m, -, rfl⟩ := List.mem_map.mp hn
      omega

/-- The position of the solid character that `k` others stand before. -/
def solidPosition (t : Text) (k : Nat) : Nat := (solidPositions t).getD k 0

theorem getElem?_solidPositions {t : Text} {k : Nat} (h : k < (solids t).length) :
    (solidPositions t)[k]? = some (solidPosition t k) := by
  rw [← length_solidPositions] at h
  rw [solidPosition, List.getD_eq_getElem?_getD, List.getElem?_eq_getElem h, Option.getD_some]

theorem solidPosition_mem {t : Text} {k : Nat} (h : k < (solids t).length) :
    solidPosition t k ∈ solidPositions t :=
  List.mem_of_getElem? (getElem?_solidPositions h)

theorem solidPosition_lt_length {t : Text} {k : Nat} (h : k < (solids t).length) :
    solidPosition t k < t.length :=
  solidPositions_lt (solidPosition_mem h)

/-- Solid positions ascend. -/
theorem solidPosition_lt {t : Text} {j k : Nat} (hjk : j < k) (hk : k < (solids t).length) :
    solidPosition t j < solidPosition t k := by
  have hj := getElem?_solidPositions (hjk.trans hk)
  have hk' := getElem?_solidPositions hk
  obtain ⟨hjlt, hj⟩ := List.getElem?_eq_some_iff.mp hj
  obtain ⟨hklt, hk'⟩ := List.getElem?_eq_some_iff.mp hk'
  rw [← hj, ← hk']
  exact List.pairwise_iff_getElem.mp (pairwise_solidPositions t) j k hjlt hklt hjk

theorem solidPosition_le {t : Text} {j k : Nat} (hjk : j ≤ k) (hk : k < (solids t).length) :
    solidPosition t j ≤ solidPosition t k := by
  rcases Nat.lt_or_eq_of_le hjk with hlt | rfl
  · exact Nat.le_of_lt (solidPosition_lt hlt hk)
  · exact Nat.le_refl _

/-- A text that goes on after a given outline keeps the position of each solid character. -/
theorem solidPosition_of_outline_extends {s t : Text} (h : outline s <+: outline t) {k : Nat}
    (hk : k < (solids s).length) : solidPosition t k = solidPosition s k := by
  rw [← length_solidPositions] at hk
  rw [solidPosition, solidPosition, solidPositions_of_outline_extends h,
    List.getD_eq_getElem?_getD, List.getD_eq_getElem?_getD, List.getElem?_append_left hk]

/-- The solid characters that come after a given outline stand where the rest of the text has them. -/
theorem solidPosition_of_outline_extends_right {s t : Text} (h : outline s <+: outline t) {k : Nat}
    (hk : k < (solids (t.drop s.length)).length) :
    solidPosition t ((solids s).length + k) = s.length + solidPosition (t.drop s.length) k := by
  have hget := getElem?_solidPositions hk
  rw [solidPosition, List.getD_eq_getElem?_getD, solidPositions_of_outline_extends h,
    ← length_solidPositions, List.getElem?_append_right (by omega), Nat.add_sub_cancel_left,
    List.getElem?_map, hget, Option.map_some, Option.getD_some, Nat.add_comm]

theorem solidPosition_append_right (s : Text) {t : Text} {k : Nat} (hk : k < (solids t).length) :
    solidPosition (s ++ t) ((solids s).length + k) = s.length + solidPosition t k := by
  have h : outline s <+: outline (s ++ t) := by simp
  have hdrop : (s ++ t).drop s.length = t := List.drop_left
  rw [solidPosition_of_outline_extends_right h (by rwa [hdrop]), hdrop]

/-- How many solid characters stand before a position. -/
def rank (t : Text) (p : Nat) : Nat := (solids (t.take p)).length

theorem solidPositions_rank {t : Text} {p : Nat} {c : Char} (hp : t[p]? = some c)
    (hc : isSolid c = true) : (solidPositions t)[rank t p]? = some p := by
  obtain ⟨hlt, hget⟩ := List.getElem?_eq_some_iff.mp hp
  have hsplit : t = t.take p ++ c :: t.drop (p + 1) := by
    rw [← hget, ← List.drop_eq_getElem_cons hlt, List.take_append_drop]
  have hspace : isSpace c = false := by simpa [isSolid] using hc
  have hpos := solidPositions_append (t.take p) (c :: t.drop (p + 1))
  rw [← hsplit] at hpos
  rw [hpos, rank, ← length_solidPositions, List.getElem?_append_right (Nat.le_refl _), Nat.sub_self]
  simp [solidPositions, hspace, Nat.min_eq_left (Nat.le_of_lt hlt)]

theorem rank_lt {t : Text} {p : Nat} {c : Char} (hp : t[p]? = some c) (hc : isSolid c = true) :
    rank t p < (solids t).length := by
  rw [← length_solidPositions]
  exact (List.getElem?_eq_some_iff.mp (solidPositions_rank hp hc)).1

theorem solidPosition_rank {t : Text} {p : Nat} {c : Char} (hp : t[p]? = some c)
    (hc : isSolid c = true) : solidPosition t (rank t p) = p := by
  have hget := getElem?_solidPositions (rank_lt hp hc)
  rw [solidPositions_rank hp hc] at hget
  exact (Option.some.inj hget).symm

/-- Solid positions are compared by what stands before them. -/
theorem solidPosition_le_iff {t : Text} {p j : Nat} {c : Char} (hp : t[p]? = some c)
    (hc : isSolid c = true) (hj : j < (solids t).length) :
    solidPosition t j ≤ p ↔ j ≤ rank t p := by
  have hpos := solidPosition_rank hp hc
  constructor
  · intro hle
    by_contra hlt
    have := solidPosition_lt (Nat.lt_of_not_le hlt) hj
    omega
  · intro hle
    rw [← hpos]
    exact solidPosition_le hle (rank_lt hp hc)

theorem le_solidPosition_iff {t : Text} {p j : Nat} {c : Char} (hp : t[p]? = some c)
    (hc : isSolid c = true) (hj : j < (solids t).length) :
    p ≤ solidPosition t j ↔ rank t p ≤ j := by
  have hpos := solidPosition_rank hp hc
  constructor
  · intro hle
    by_contra hlt
    have := solidPosition_lt (Nat.lt_of_not_le hlt) (rank_lt hp hc)
    omega
  · intro hle
    rw [← hpos]
    exact solidPosition_le hle hj

theorem head?_solidPositions {t : Text} {c : Char} (h : t.head? = some c)
    (hc : isSpace c = false) : (solidPositions t).head? = some 0 := by
  obtain ⟨rest, rfl⟩ := List.head?_eq_some_iff.mp h
  simp [solidPositions, hc]

theorem getLast?_solidPositions {t : Text} {c : Char} (h : t.getLast? = some c)
    (hc : isSpace c = false) : (solidPositions t).getLast? = some (t.length - 1) := by
  obtain ⟨init, rfl⟩ := List.getLast?_eq_some_iff.mp h
  simp [solidPositions_append, solidPositions, hc]

/-- A text is the whitespace before its solid characters, what trimming leaves, and whitespace. -/
theorem exists_trim (t : Text) : ∃ cut : Text,
    t = t.takeWhile isSpace ++ (trim isSpace t ++ cut) ∧ ∀ c ∈ cut, isSpace c = true := by
  obtain ⟨cut, hcut, hspace⟩ := exists_trimEnd isSpace (t.dropWhile isSpace)
  refine ⟨cut, ?_, hspace⟩
  rw [trim, trimStart, ← hcut, List.takeWhile_append_dropWhile]

theorem trim_eq_nil_iff {t : Text} : trim isSpace t = [] ↔ solids t = [] := by
  constructor
  · intro h
    rw [← solids_trim (fun _ => id) t, h, solids_nil]
  · intro h
    rw [trim, trimEnd_eq_rdropWhile, List.rdropWhile_eq_nil_iff]
    intro c hc
    exact solids_eq_nil_iff.mp h c ((List.dropWhile_sublist _).subset hc)

/-- The first and the last solid position are where trimming leaves the ends of a text. -/
theorem solidPositions_ends {t : Text} (h : solids t ≠ []) :
    (solidPositions t).head? = some (t.takeWhile isSpace).length ∧
      (solidPositions t).getLast? =
        some ((t.takeWhile isSpace).length + (trim isSpace t).length - 1) := by
  obtain ⟨cut, ht, hcut⟩ := exists_trim t
  have hne : trim isSpace t ≠ [] := mt trim_eq_nil_iff.mp h
  obtain ⟨c, rest, hcons⟩ := List.exists_cons_of_ne_nil hne
  have hfirst : isSpace c = false := by
    obtain ⟨cut', hcut', -⟩ := exists_trimEnd isSpace (t.dropWhile isSpace)
    have hhead : (t.dropWhile isSpace).head? = some c := by
      rw [hcut', ← trimStart, ← trim, hcons]
      rfl
    have hnot := List.head?_dropWhile_not isSpace t
    simpa only [hhead] using hnot
  have hlast := List.getLast?_eq_some_getLast hne
  have hd := getLast?_trimEnd hlast
  have hpos : solidPositions t =
      (solidPositions (trim isSpace t)).map (· + (t.takeWhile isSpace).length) := by
    have hlead : solidPositions (t.takeWhile isSpace) = [] :=
      solidPositions_eq_nil fun x hx => List.mem_takeWhile_imp hx
    conv_lhs => rw [ht, solidPositions_append, hlead, solidPositions_append,
      solidPositions_eq_nil hcut]
    simp
  have hlen : 0 < (trim isSpace t).length := List.length_pos_iff.mpr hne
  constructor
  · rw [hpos, List.head?_map, head?_solidPositions (by rw [hcons]; rfl) hfirst]
    simp
  · rw [hpos, List.getLast?_map, getLast?_solidPositions hlast hd, Option.map_some]
    congr 1
    omega

/-- Trimming cuts a text before its first and after its last solid character. -/
theorem solidPosition_ends {t : Text} (h : solids t ≠ []) :
    solidPosition t 0 = (t.takeWhile isSpace).length ∧
      solidPosition t ((solids t).length - 1) + 1 =
        (t.takeWhile isSpace).length + (trim isSpace t).length := by
  obtain ⟨hhead, hlast⟩ := solidPositions_ends h
  have hlen : 0 < (solids t).length := List.length_pos_iff.mpr h
  have htrim : 0 < (trim isSpace t).length := List.length_pos_iff.mpr (mt trim_eq_nil_iff.mp h)
  rw [List.head?_eq_getElem?, getElem?_solidPositions hlen] at hhead
  rw [List.getLast?_eq_getElem?, length_solidPositions,
    getElem?_solidPositions (by omega)] at hlast
  have hlast := Option.some.inj hlast
  exact ⟨Option.some.inj hhead, by omega⟩

end MarkupCompiler.Text
