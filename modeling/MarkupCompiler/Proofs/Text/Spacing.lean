import MarkupCompiler.Proofs.Text.Solid
import Mathlib.Data.List.Induction

/-!
# Spacing

Normal spacing of a line of text is a machine that reads characters and line breaks. It puts down
solid characters and line feeds at once and remembers whitespace as a gap; a gap becomes one space when
a solid character follows another one. Collapsing, normalizing and the normal form of several lines
all agree with this machine, and a text that the machine made is read back unchanged.
-/

namespace MarkupCompiler

/-- What a line of text is made of. A line break may hold text, which does not count. -/
inductive Token where
  | char (c : Char)
  | lineBreak (inner : Text)

def Token.raw : Token → Text
  | .char c => [c]
  | .lineBreak inner => inner

/-- The token without the text that does not count. -/
def Token.bare : Token → Token
  | .char c => .char c
  | .lineBreak _ => .lineBreak []

/-- The text put down so far, and whether whitespace was read after it. -/
structure Spacing where
  text : Text := []
  gap : Bool := false

namespace Spacing

/-- Whether a space is due when a solid character follows. -/
def due (s : Spacing) : Bool := s.gap && Text.endsWith Text.isSolid s.text

def glue (s : Spacing) : Text := if s.due then [' '] else []

def render (s : Spacing) : Text := s.text ++ s.glue

def step (s : Spacing) : Token → Spacing
  | .char c => if Text.isSpace c then { s with gap := true } else ⟨s.render ++ [c], false⟩
  | .lineBreak _ => ⟨s.text ++ ['\n'], false⟩

/-- Reads tokens one after another. -/
def run (s : Spacing) (tokens : List Token) : Spacing := tokens.foldl step s

/-- The state with more text in front. -/
def behind (before : Text) (s : Spacing) : Spacing := ⟨before ++ s.text, s.gap⟩

/-- The text ends in a solid character or a line feed, if it has an end. -/
def Clean (s : Spacing) : Prop :=
  ∀ c, s.text.getLast? = some c → c = '\n' ∨ Text.isSpace c = false

/-- Equal texts with equal spaces due: no token can tell the states apart. -/
def Agrees (s s' : Spacing) : Prop := s.text = s'.text ∧ s.due = s'.due

/-! ## Single steps -/

@[simp] theorem run_nil (s : Spacing) : s.run [] = s := rfl

@[simp] theorem run_cons (s : Spacing) (t : Token) (ts : List Token) :
    s.run (t :: ts) = (s.step t).run ts := rfl

theorem run_append (s : Spacing) (ts us : List Token) : s.run (ts ++ us) = (s.run ts).run us :=
  List.foldl_append ..

/-- The text in a line break does not count. -/
theorem run_map_bare (s : Spacing) (ts : List Token) : s.run (ts.map Token.bare) = s.run ts := by
  induction ts generalizing s with
  | nil => rfl
  | cons t ts ih =>
    rw [List.map_cons, run_cons, run_cons, ih]
    cases t <;> rfl

theorem step_space {c : Char} (h : Text.isSpace c = true) (s : Spacing) :
    s.step (.char c) = { s with gap := true } := if_pos h

theorem step_solid {c : Char} (h : Text.isSpace c = false) (s : Spacing) :
    s.step (.char c) = ⟨s.render ++ [c], false⟩ := if_neg (by simp [h])

theorem due_of_gap_eq_false {s : Spacing} (h : s.gap = false) : s.due = false := by
  rw [due, h, Bool.false_and]

theorem due_of_not_solid {s : Spacing} (h : Text.endsWith Text.isSolid s.text = false) :
    s.due = false := by
  rw [due, h, Bool.and_false]

theorem render_eq_text {s : Spacing} (h : s.due = false) : s.render = s.text := by
  rw [render, glue, h]
  exact List.append_nil _

theorem clean_empty : Clean {} := by
  intro c hc
  simp at hc

theorem clean_step {s : Spacing} (h : s.Clean) (t : Token) : (s.step t).Clean := by
  cases t with
  | char c =>
    by_cases hc : Text.isSpace c = true
    · rw [step_space hc]
      exact h
    · rw [Bool.not_eq_true] at hc
      intro d hd
      rw [step_solid hc, List.getLast?_concat] at hd
      exact Or.inr (Option.some.inj hd ▸ hc)
  | lineBreak inner =>
    intro d hd
    rw [step, List.getLast?_concat] at hd
    exact Or.inl (Option.some.inj hd).symm

theorem clean_run {s : Spacing} (h : s.Clean) (ts : List Token) : (s.run ts).Clean := by
  induction ts generalizing s with
  | nil => exact h
  | cons t ts ih => exact ih (clean_step h t)

theorem Agrees.step {s s' : Spacing} (h : s.Agrees s') (t : Token) :
    (s.step t).Agrees (s'.step t) := by
  obtain ⟨htext, hdue⟩ := h
  cases t with
  | char c =>
    by_cases hc : Text.isSpace c = true
    · rw [step_space hc, step_space hc]
      exact ⟨htext, by rw [due, due, htext]⟩
    · rw [Bool.not_eq_true] at hc
      rw [step_solid hc, step_solid hc, render, render, glue, glue, htext, hdue]
      exact ⟨rfl, rfl⟩
  | lineBreak inner =>
    rw [Spacing.step, Spacing.step, htext]
    exact ⟨rfl, rfl⟩

theorem Agrees.run {s s' : Spacing} (h : s.Agrees s') (ts : List Token) :
    (s.run ts).Agrees (s'.run ts) := by
  induction ts generalizing s s' with
  | nil => exact h
  | cons t ts ih => exact ih (h.step t)

/-- What was put down stays. -/
theorem text_step_extends (s : Spacing) (t : Token) : s.text <+: (s.step t).text := by
  cases t with
  | char c =>
    by_cases hc : Text.isSpace c = true
    · have htext : (s.step (.char c)).text = s.text := by rw [step_space hc]
      exact htext ▸ List.prefix_refl s.text
    · rw [Bool.not_eq_true] at hc
      rw [step_solid hc, render, List.append_assoc]
      exact List.prefix_append _ _
  | lineBreak inner => exact List.prefix_append _ _

theorem text_run_extends (s : Spacing) (ts : List Token) : s.text <+: (s.run ts).text := by
  induction ts generalizing s with
  | nil => exact List.prefix_refl _
  | cons t ts ih => exact (text_step_extends s t).trans (ih _)

/-! ## Text in front -/

theorem endsWith_append {p : Char → Bool} (s : Text) {t : Text} (h : t ≠ []) :
    Text.endsWith p (s ++ t) = Text.endsWith p t := by
  rw [Text.endsWith, Text.endsWith, List.getLast?_append_of_ne_nil _ h]

/-- A text in front does not matter if it ends no word, or once something was put down behind it. -/
theorem due_behind {before : Text} {s : Spacing}
    (h : s.text ≠ [] ∨ Text.endsWith Text.isSolid before = false) :
    (s.behind before).due = s.due := by
  have hsolid : Text.endsWith Text.isSolid (before ++ s.text) = Text.endsWith Text.isSolid s.text := by
    by_cases hnil : s.text = []
    · have hbefore := h.resolve_left (not_not_intro hnil)
      rw [hnil, List.append_nil, hbefore]
      rfl
    · exact endsWith_append before hnil
  rw [due, due, behind, hsolid]

theorem render_behind {before : Text} {s : Spacing}
    (h : s.text ≠ [] ∨ Text.endsWith Text.isSolid before = false) :
    (s.behind before).render = before ++ s.render := by
  rw [render, render, glue, glue, due_behind h, behind, List.append_assoc]

theorem run_behind {before : Text} {s : Spacing}
    (h : s.text ≠ [] ∨ Text.endsWith Text.isSolid before = false) (ts : List Token) :
    (s.behind before).run ts = (s.run ts).behind before := by
  induction ts generalizing s with
  | nil => rfl
  | cons t ts ih =>
    have hstep : (s.behind before).step t = (s.step t).behind before := by
      cases t with
      | char c =>
        by_cases hc : Text.isSpace c = true
        · rw [step_space hc, step_space hc]
          rfl
        · rw [Bool.not_eq_true] at hc
          rw [step_solid hc, step_solid hc, render_behind h, behind, List.append_assoc]
      | lineBreak inner => simp [step, behind]
    have hnext : (s.step t).text ≠ [] ∨ Text.endsWith Text.isSolid before = false :=
      h.imp_left fun hs hnil => hs (List.prefix_nil.mp (hnil ▸ text_step_extends s t))
    rw [run_cons, run_cons, hstep, ih hnext]

/-! ## Joining -/

/-- Whether the first token is whitespace. -/
def leads : List Token → Bool
  | .char c :: _ => Text.isSpace c
  | _ => false

/-- Tokens that put nothing down are whitespace, and leave a gap if there are any. -/
theorem run_of_text_eq_nil {ts : List Token} (h : (run {} ts).text = []) (s : Spacing) :
    s.run ts = { s with gap := s.gap || !ts.isEmpty } ∧
      ∀ t ∈ ts, ∃ c, t = .char c ∧ Text.isSpace c = true := by
  induction ts generalizing s with
  | nil => simp
  | cons t ts ih =>
    have hstep : (step {} t).text = [] := by
      have hle := text_run_extends (step {} t) ts
      rw [← run_cons, h] at hle
      exact List.prefix_nil.mp hle
    cases t with
    | char c =>
      by_cases hc : Text.isSpace c = true
      · have hagree : Agrees { text := [], gap := true } {} := ⟨rfl, rfl⟩
        rw [run_cons, step_space hc, (hagree.run ts).1] at h
        obtain ⟨hrun, hall⟩ := ih h { s with gap := true }
        refine ⟨?_, ?_⟩
        · rw [run_cons, step_space hc, hrun]
          simp
        · intro u hu
          rcases List.mem_cons.mp hu with rfl | hu
          · exact ⟨c, rfl, hc⟩
          · exact hall u hu
      · rw [Bool.not_eq_true] at hc
        rw [step_solid hc] at hstep
        simp at hstep
    | lineBreak inner => simp [step] at hstep

/-- The space between a text and tokens that put a text down behind it. -/
def seam (s : Spacing) (ts : List Token) : Text :=
  if (s.gap || leads ts) && Text.endsWith Text.isSolid s.text &&
      (run {} ts).text.head? != some '\n' then [' '] else []

theorem solids_glue (s : Spacing) : Text.solids s.glue = [] := by
  rw [glue]
  split
  · rfl
  · rfl

theorem solids_seam (s : Spacing) (ts : List Token) : Text.solids (s.seam ts) = [] := by
  rw [seam]
  split
  · rfl
  · rfl

/-- Tokens put the same text down behind another text, up to a space before it. -/
theorem run_of_text_ne_nil {ts : List Token} (h : (run {} ts).text ≠ []) (s : Spacing) :
    (s.run ts).text = s.text ++ s.seam ts ++ (run {} ts).text ∧
      (s.run ts).due = (run {} ts).due := by
  induction ts generalizing s with
  | nil => exact absurd rfl h
  | cons t ts ih =>
    cases t with
    | char c =>
      by_cases hc : Text.isSpace c = true
      · -- Before any text, a gap changes nothing.
        have hagree : Agrees ⟨[], true⟩ {} := ⟨rfl, rfl⟩
        obtain ⟨htext, hdue⟩ := hagree.run ts
        have hfirst : run {} (.char c :: ts) = run ⟨[], true⟩ ts := by
          rw [run_cons, step_space hc]
        rw [hfirst, htext] at h
        obtain ⟨hrest, hrestDue⟩ := ih h { s with gap := true }
        rw [hfirst, htext, hdue, run_cons, step_space hc, hrest, hrestDue]
        simp [seam, leads, hc, hfirst, htext]
      · rw [Bool.not_eq_true] at hc
        have hfirst : run {} (.char c :: ts) = run ⟨[c], false⟩ ts := by
          rw [run_cons, step_solid hc]
          rfl
        have hrun : s.run (.char c :: ts) = (run ⟨[c], false⟩ ts).behind s.render := by
          rw [run_cons, step_solid hc, ← run_behind (Or.inl (List.cons_ne_nil _ _))]
          rfl
        obtain ⟨more, hmore⟩ := text_run_extends ⟨[c], false⟩ ts
        have hseam : s.seam (.char c :: ts) = s.glue := by
          have hline : c ≠ '\n' := Text.ne_of_isSpace hc rfl
          simp [seam, leads, glue, due, hc, hfirst, ← hmore, hline]
        rw [hrun, hfirst, hseam, due_behind (Or.inl (hfirst ▸ h))]
        exact ⟨rfl, rfl⟩
    | lineBreak inner =>
      have hfirst : run {} (.lineBreak inner :: ts) = run ⟨['\n'], false⟩ ts := rfl
      have hrun : s.run (.lineBreak inner :: ts) = (run ⟨['\n'], false⟩ ts).behind s.text := by
        rw [← run_behind (Or.inl (List.cons_ne_nil _ _))]
        rfl
      obtain ⟨more, hmore⟩ := text_run_extends ⟨['\n'], false⟩ ts
      have hseam : s.seam (.lineBreak inner :: ts) = [] := by
        simp [seam, hfirst, ← hmore]
      rw [hrun, hfirst, hseam, List.append_nil, due_behind (Or.inl (hfirst ▸ h))]
      exact ⟨rfl, rfl⟩

/-! ## Reading texts -/

/-- Whether whitespace at the end of a text is of no effect. -/
def atGap (t : Text) : Bool := t.isEmpty || Text.endsWith Text.isSpace t

theorem atGap_concat (t : Text) (c : Char) : atGap (t ++ [c]) = Text.isSpace c := by
  simp [atGap, Text.endsWith]

theorem atGap_eq_not_solid (t : Text) : atGap t = !Text.endsWith Text.isSolid t := by
  rcases List.eq_nil_or_concat' t with rfl | ⟨init, c, rfl⟩
  · rfl
  · rw [atGap_concat]
    simp [Text.endsWith, Text.isSolid]

theorem render_with_gap (s : Spacing) :
    ({ s with gap := true } : Spacing).render =
        (if atGap s.render then s.render else s.render ++ [' ']) ∧
      atGap ({ s with gap := true } : Spacing).render = true := by
  have hgap : ({ s with gap := true } : Spacing).due = Text.endsWith Text.isSolid s.text :=
    Bool.true_and _
  by_cases hdue : s.due = true
  · have hsolid : Text.endsWith Text.isSolid s.text = true := (Bool.and_eq_true_iff.mp hdue).2
    have hrender : s.render = s.text ++ [' '] := by rw [render, glue, hdue]; rfl
    have hsame : ({ s with gap := true } : Spacing).render = s.render := by
      rw [hrender, render, glue, hgap, hsolid]
      rfl
    have hatGap : atGap s.render = true := by
      rw [hrender, atGap_concat]
      rfl
    rw [hsame, hatGap]
    exact ⟨rfl, rfl⟩
  · rw [Bool.not_eq_true] at hdue
    rw [render_eq_text hdue, atGap_eq_not_solid s.text, render, glue, hgap]
    cases hsolid : Text.endsWith Text.isSolid s.text with
    | true => exact ⟨rfl, by simp [atGap_concat, Text.isSpace]⟩
    | false => simp [atGap_eq_not_solid, hsolid]

/-- Reading characters adds them with their whitespace collapsed. -/
theorem render_run_chars (s : Spacing) (raw : Text) :
    (s.run (raw.map .char)).render = s.render ++ Text.collapseFrom (atGap s.render) raw := by
  induction raw generalizing s with
  | nil => simp [Text.collapseFrom]
  | cons c raw ih =>
    rw [List.map_cons, run_cons, ih, Text.collapseFrom]
    by_cases hc : Text.isSpace c = true
    · obtain ⟨hrender, hatGap⟩ := render_with_gap s
      rw [step_space hc, if_pos hc, hatGap, hrender]
      cases atGap s.render with
      | true => rfl
      | false => simp
    · rw [Bool.not_eq_true] at hc
      rw [step_solid hc, if_neg (by simp [hc]), render_eq_text (due_of_gap_eq_false rfl),
        atGap_concat, hc, List.append_assoc]
      rfl

theorem head?_collapseFrom_true (t : Text) : (Text.collapseFrom true t).head? ≠ some ' ' := by
  induction t with
  | nil => simp [Text.collapseFrom]
  | cons c t ih =>
    rw [Text.collapseFrom]
    by_cases hc : Text.isSpace c = true
    · rw [if_pos hc, if_pos rfl]
      exact ih
    · rw [if_neg hc]
      rintro ⟨rfl⟩
      exact hc rfl

/-- Without the space at its start, a collapsed text is collapsed as behind a space. -/
theorem drop_collapse (t : Text) :
    (if (Text.collapse t).head? == some ' ' then (Text.collapse t).drop 1 else Text.collapse t) =
      Text.collapseFrom true t := by
  cases t with
  | nil => rfl
  | cons c t =>
    rw [Text.collapse, Text.collapseFrom, Text.collapseFrom]
    by_cases hc : Text.isSpace c = true
    · simp [hc]
    · rw [Bool.not_eq_true] at hc
      simp [hc, Text.ne_of_isSpace hc (d := ' ') rfl]

theorem trimStart_collapse (t : Text) :
    Text.trimStart (· == ' ') (Text.collapse t) = Text.collapseFrom true t := by
  have hhead := head?_collapseFrom_true t
  rw [← drop_collapse] at hhead ⊢
  cases hcollapse : Text.collapse t with
  | nil => rfl
  | cons c rest =>
    rw [hcollapse] at hhead
    by_cases hc : c = ' '
    · subst hc
      cases rest with
      | nil => rfl
      | cons d rest =>
        have hd : (d == ' ') = false := by simpa using hhead
        simp [Text.trimStart, hd]
    · simp [Text.trimStart, hc]

/-- Trimming takes away the space that is due, and nothing else if the text ends otherwise. -/
theorem trimEnd_render {s : Spacing} {p : Char → Bool} (hspace : p ' ' = true)
    (htext : ∀ c, s.text.getLast? = some c → p c = false) : Text.trimEnd p s.render = s.text := by
  have hself := Text.trimEnd_eq_self htext
  rw [render, glue]
  split
  · rw [Text.trimEnd_eq_rdropWhile, List.rdropWhile_concat_pos _ _ _ hspace,
      ← Text.trimEnd_eq_rdropWhile, hself]
  · rw [List.append_nil, hself]

theorem normalize_eq_run (t : Text) : Text.normalize t = (run {} (t.map .char)).text := by
  have hrender := render_run_chars {} t
  rw [Text.normalize, Text.trim, trimStart_collapse, ← trimEnd_render (p := (· == ' ')) rfl, hrender]
  · rfl
  · intro c hc
    have hclean := clean_run clean_empty (t.map .char) c hc
    by_contra hne
    simp only [Bool.not_eq_false, beq_iff_eq] at hne
    subst hne
    exact absurd hclean (by decide)

/-! ## Several lines -/

/-- The characters between line breaks. -/
def lines : List Token → List Text
  | [] => [[]]
  | .char c :: ts => (lines ts).modifyHead (c :: ·)
  | .lineBreak _ :: ts => [] :: lines ts

theorem lines_ne_nil (ts : List Token) : lines ts ≠ [] := by
  induction ts with
  | nil => exact List.cons_ne_nil _ _
  | cons t ts ih =>
    cases t with
    | char c =>
      obtain ⟨line, rest, hts⟩ := List.exists_cons_of_ne_nil ih
      rw [lines, hts]
      exact List.cons_ne_nil _ _
    | lineBreak inner => exact List.cons_ne_nil _ _

/-- Lines are normalized one by one; the start of the first one may have been read before. -/
theorem text_run_lines_behind {before : Text} (hbefore : Text.endsWith Text.isSolid before = false)
    (start : Text) {ts : List Token} {line : Text} {rest : List Text} (h : lines ts = line :: rest) :
    ((behind before {}).run (start.map .char ++ ts)).text =
      before ++ Text.join ['\n'] (Text.normalize (start ++ line) :: rest.map Text.normalize) := by
  induction ts generalizing before start line rest with
  | nil =>
    obtain ⟨rfl, rfl⟩ := List.cons.inj h
    rw [List.append_nil, List.append_nil, run_behind (Or.inr hbefore), normalize_eq_run]
    rfl
  | cons t ts ih =>
    obtain ⟨next, more, hnext⟩ := List.exists_cons_of_ne_nil (lines_ne_nil ts)
    cases t with
    | lineBreak inner =>
      -- The line ends here: the rest is read behind it.
      obtain ⟨rfl, rfl⟩ := List.cons.inj h
      have hline : (behind before {}).run (start.map .char ++ .lineBreak inner :: ts) =
          (behind (before ++ Text.normalize start ++ ['\n']) {}).run
            (([] : Text).map .char ++ ts) := by
        rw [run_append, run_behind (Or.inr hbefore), normalize_eq_run]
        simp [step, behind]
      have hjoin : ∀ piece pieces, Text.join ['\n'] (Text.normalize start :: piece :: pieces) =
          Text.normalize start ++ ['\n'] ++ Text.join ['\n'] (piece :: pieces) := fun _ _ => rfl
      rw [hline, ih (by simp [Text.endsWith, Text.isSolid, Text.isSpace]) [] hnext, hnext,
        List.append_nil, List.map_cons, hjoin, List.nil_append, List.append_assoc,
        List.append_assoc, List.append_assoc]
    | char c =>
      rw [lines, hnext] at h
      obtain ⟨rfl, rfl⟩ := List.cons.inj h
      have hline : start.map Token.char ++ .char c :: ts =
          (start ++ [c]).map Token.char ++ ts := by simp
      rw [hline, ih hbefore (start ++ [c]) hnext, List.append_assoc]
      rfl

/-- Reading tokens normalizes each line of them. -/
theorem text_run_lines (ts : List Token) :
    (run {} ts).text = Text.join ['\n'] ((lines ts).map Text.normalize) := by
  obtain ⟨line, rest, hts⟩ := List.exists_cons_of_ne_nil (lines_ne_nil ts)
  have hread := text_run_lines_behind (show Text.endsWith Text.isSolid [] = false from rfl) [] hts
  rw [hts, List.map_cons]
  exact hread

def reread (t : Text) : List Token := t.map fun c => if c == '\n' then .lineBreak [] else .char c

theorem lines_reread (t : Text) : lines (reread t) = Text.split '\n' t := by
  induction t with
  | nil => rfl
  | cons c t ih =>
    obtain ⟨line, rest, hts⟩ := List.exists_cons_of_ne_nil (lines_ne_nil (reread t))
    rw [Text.split, ← ih, hts, reread, List.map_cons, ← reread]
    split
    · rw [lines, hts]
    · rw [lines, hts]
      rfl

/-- Normalizing each line is reading the text with its line feeds as line breaks. -/
theorem join_map_normalize (t : Text) :
    Text.join ['\n'] ((Text.split '\n' t).map Text.normalize) = (run {} (reread t)).text := by
  rw [text_run_lines, lines_reread]

/-- A text that the machine made is read back unchanged. -/
theorem run_reread (ts : List Token) :
    run {} (reread (run {} ts).text) = ⟨(run {} ts).text, false⟩ := by
  induction ts using List.reverseRecOn with
  | nil => rfl
  | append_singleton ts t ih =>
    rw [run_append]
    generalize run {} ts = s at ih
    change run {} (reread (s.step t).text) = ⟨(s.step t).text, false⟩
    cases t with
    | lineBreak inner =>
      rw [step, reread, List.map_append, run_append, ← reread, ih]
      rfl
    | char c =>
      by_cases hc : Text.isSpace c = true
      · rw [step_space hc]
        exact ih
      · rw [Bool.not_eq_true] at hc
        have hline : c ≠ '\n' := Text.ne_of_isSpace hc rfl
        have hglue : run ⟨s.text, false⟩ (reread s.glue) = ⟨s.text, s.due⟩ := by
          rw [glue]
          cases s.due with
          | true => rfl
          | false => rfl
        have hdue : (⟨s.text, s.due⟩ : Spacing).due = s.due := by
          simp only [due, Bool.and_assoc, Bool.and_self]
        have hsame : (⟨s.text, s.due⟩ : Spacing).glue = s.glue := by
          rw [glue, glue, hdue]
        rw [step_solid hc, render, reread, List.map_append, List.map_append, run_append, run_append,
          ← reread, ih, ← reread, hglue]
        simp [hline, step_solid hc, hsame, render]

/-- A text that the machine made is its own normal form. -/
theorem join_map_normalize_text (ts : List Token) :
    Text.join ['\n'] ((Text.split '\n' (run {} ts).text).map Text.normalize) =
      (run {} ts).text := by
  rw [join_map_normalize, run_reread]

/-! ## The text behind tokens -/

def rawOf (ts : List Token) : Text := ts.flatMap Token.raw

theorem rawOf_chars (raw : Text) : rawOf (raw.map .char) = raw := by
  induction raw with
  | nil => rfl
  | cons c raw ih => exact congrArg (c :: ·) ih

/-- Unless a line break comes first, the first character tells whether whitespace leads. -/
theorem leads_eq {ts : List Token} (h : (run {} ts).text ≠ [])
    (hhead : (run {} ts).text.head? ≠ some '\n') :
    rawOf ts ≠ [] ∧ leads ts = Text.beginsWith Text.isSpace (rawOf ts) := by
  cases ts with
  | nil => exact absurd rfl h
  | cons t ts =>
    cases t with
    | char c => exact ⟨List.cons_ne_nil _ _, rfl⟩
    | lineBreak inner =>
      obtain ⟨more, hmore⟩ := text_run_extends ⟨['\n'], false⟩ ts
      have hfirst : run {} (.lineBreak inner :: ts) = run ⟨['\n'], false⟩ ts := rfl
      rw [hfirst, ← hmore] at hhead
      exact absurd rfl hhead

/-- The text behind whitespace tokens ends in whitespace, if there are any. -/
theorem endsWith_rawOf {ts : List Token} (h : (run {} ts).text = []) :
    Text.endsWith Text.isSpace (rawOf ts) = !ts.isEmpty := by
  obtain ⟨-, hall⟩ := run_of_text_eq_nil h {}
  rcases List.eq_nil_or_concat' ts with rfl | ⟨init, t, rfl⟩
  · rfl
  · obtain ⟨c, rfl, hc⟩ := hall t (by simp)
    simp [rawOf, Token.raw, Text.endsWith, hc]

/-- Behind a solid character, the last character tells whether whitespace follows. -/
theorem due_eq {ts : List Token} (h : (run {} ts).text ≠ []) :
    (((rawOf ts).isEmpty || Text.endsWith Text.isSpace (rawOf ts)) &&
      Text.endsWith Text.isSolid (run {} ts).text) = (run {} ts).due := by
  rcases List.eq_nil_or_concat' ts with rfl | ⟨init, t, rfl⟩
  · exact absurd rfl h
  · rw [run_append] at h ⊢
    cases t with
    | char c =>
      have hraw : rawOf (init ++ [.char c]) = rawOf init ++ [c] := by
        simp [rawOf, Token.raw]
      have hgap : ((run {} init).run [.char c]).gap = Text.isSpace c := by
        by_cases hc : Text.isSpace c = true
        · rw [run_cons, step_space hc, hc]
          rfl
        · rw [Bool.not_eq_true] at hc
          rw [run_cons, step_solid hc, hc]
          rfl
      have hne : (rawOf init ++ [c]).isEmpty = false := by
        cases rawOf init with
        | nil => rfl
        | cons d rest => rfl
      have hend : Text.endsWith Text.isSpace (rawOf init ++ [c]) = Text.isSpace c := by
        simp [Text.endsWith]
      rw [due, hgap, hraw, hne, hend, Bool.false_or]
    | lineBreak inner =>
      have hsolid : Text.endsWith Text.isSolid ((run {} init).run [.lineBreak inner]).text = false := by
        simp [step, Text.endsWith, Text.isSolid, Text.isSpace]
      rw [hsolid, Bool.and_false, due_of_not_solid hsolid]

/-- A text never begins with a space. -/
theorem head?_text_run (ts : List Token) : (run {} ts).text.head? ≠ some ' ' := by
  induction ts using List.reverseRecOn with
  | nil => simp
  | append_singleton ts t ih =>
    rw [run_append]
    generalize run {} ts = s at ih
    by_cases hnil : s.text = []
    · have hrender : s.render = [] := by
        rw [render_eq_text (due_of_not_solid (by rw [hnil]; rfl)), hnil]
      cases t with
      | char c =>
        by_cases hc : Text.isSpace c = true
        · simp [step_space hc, hnil]
        · rw [Bool.not_eq_true] at hc
          have hne : c ≠ ' ' := Text.ne_of_isSpace hc rfl
          simp [step_solid hc, hrender, hne]
      | lineBreak inner => simp [step, hnil]
    · obtain ⟨more, hmore⟩ := text_run_extends s [t]
      rwa [← hmore, List.head?_append_of_ne_nil _ hnil]

end Spacing

end MarkupCompiler
