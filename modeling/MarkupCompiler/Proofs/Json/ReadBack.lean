import MarkupCompiler.Proofs.Json.Scalar

/-!
# What is written is read back

A value is written as a text that is read as the same value, if no object has two members of one
name. Only integers with too many digits are not read back, and in the standard dialect neither are
infinities and not-a-number. The induction follows the value; the reader takes at most one step for
each character, so the length of the text bounds its steps.
-/

namespace MarkupCompiler.Json

variable {dialect : Dialect}

/-! ## Which values are read back -/

mutual

/-- All integers of a value can be written, and what is not finite occurs in the extended dialect
only. -/
def isReadable (dialect : Dialect) : Json → Bool
  | .int n => IntegerText.isWritable n
  | .float x => dialect == .extended || x.isFinite
  | .arr items => areReadable dialect items
  | .obj members => membersAreReadable dialect members
  | .null | .bool _ | .str _ => true

def areReadable (dialect : Dialect) : List Json → Bool
  | [] => true
  | item :: items => isReadable dialect item && areReadable dialect items

def membersAreReadable (dialect : Dialect) : List (String × Json) → Bool
  | [] => true
  | (_, value) :: members => isReadable dialect value && membersAreReadable dialect members

end

mutual

/-- No object has two members of one name. -/
def NamesDistinct : Json → Prop
  | .arr items => ItemsDistinct items
  | .obj members => (members.map Prod.fst).Nodup ∧ MembersDistinct members
  | .null | .bool _ | .int _ | .float _ | .str _ => True

def ItemsDistinct : List Json → Prop
  | [] => True
  | item :: items => NamesDistinct item ∧ ItemsDistinct items

def MembersDistinct : List (String × Json) → Prop
  | [] => True
  | (_, value) :: members => NamesDistinct value ∧ MembersDistinct members

end

mutual

/-- What can be written is read in the extended dialect. -/
theorem isReadable_extended : ∀ v : Json, v.isReadable .extended = v.isWritable
  | .null => by rw [isReadable, isWritable]
  | .bool _ => by rw [isReadable, isWritable]
  | .int _ => by rw [isReadable, isWritable]
  | .float _ => by rw [isReadable, isWritable]; rfl
  | .str _ => by rw [isReadable, isWritable]
  | .arr items => by rw [isReadable, isWritable, areReadable_extended items]
  | .obj members => by rw [isReadable, isWritable, membersAreReadable_extended members]

theorem areReadable_extended : ∀ items : List Json, areReadable .extended items = areWritable items
  | [] => by rw [areReadable, areWritable]
  | item :: items => by
    rw [areReadable, areWritable, isReadable_extended item, areReadable_extended items]

theorem membersAreReadable_extended :
    ∀ members : List (String × Json), membersAreReadable .extended members = membersAreWritable members
  | [] => by rw [membersAreReadable, membersAreWritable]
  | (_, value) :: members => by
    rw [membersAreReadable, membersAreWritable, isReadable_extended value,
      membersAreReadable_extended members]

end

/-! ## Parts -/

/-- The items of an array between its brackets. -/
def joined (layout : Layout) (depth : Nat) : List Json → Text
  | [] => []
  | item :: items => (write layout depth item).toList ++ (writeItems layout depth items).toList

/-- The members of an object between its braces. -/
def joinedMembers (layout : Layout) (depth : Nat) : List (String × Json) → Text
  | [] => []
  | (name, value) :: members =>
    (writeString name).toList ++ ':' :: ' ' :: (write layout depth value).toList ++
      (writeMembers layout depth members).toList

theorem writeItems_cons (layout : Layout) (depth : Nat) (item : Json) (items : List Json) :
    (writeItems layout depth (item :: items)).toList =
      (layout.separator depth).toList ++ joined layout depth (item :: items) := by
  show (layout.separator depth ++ write layout depth item ++ writeItems layout depth items).toList = _
  simp [joined]

theorem writeMembers_cons (layout : Layout) (depth : Nat) (member : String × Json)
    (members : List (String × Json)) :
    (writeMembers layout depth (member :: members)).toList =
      (layout.separator depth).toList ++ joinedMembers layout depth (member :: members) := by
  show (layout.separator depth ++ writeString member.1 ++ ": " ++ write layout depth member.2 ++
    writeMembers layout depth members).toList = _
  simp [joinedMembers]

theorem write_arr (layout : Layout) (depth : Nat) (item : Json) (items : List Json) :
    (write layout depth (.arr (item :: items))).toList =
      '[' :: ((layout.lineBreak (depth + 1)).toList ++ joined layout (depth + 1) (item :: items) ++
        (layout.lineBreak depth).toList ++ [']']) := by
  show ("[" ++ layout.lineBreak (depth + 1) ++ write layout (depth + 1) item ++
    writeItems layout (depth + 1) items ++ layout.lineBreak depth ++ "]").toList = _
  simp [joined]

theorem write_obj (layout : Layout) (depth : Nat) (member : String × Json)
    (members : List (String × Json)) :
    (write layout depth (.obj (member :: members))).toList =
      '\x7b' :: ((layout.lineBreak (depth + 1)).toList ++
        joinedMembers layout (depth + 1) (member :: members) ++
        (layout.lineBreak depth).toList ++ ['\x7d']) := by
  show ("\x7b" ++ layout.lineBreak (depth + 1) ++ writeString member.1 ++ ": " ++
    write layout (depth + 1) member.2 ++ writeMembers layout (depth + 1) members ++
    layout.lineBreak depth ++ "\x7d").toList = _
  simp [joinedMembers]

theorem setMember_of_notMem {name : String} {value : Json} {members : List (String × Json)}
    (h : name ∉ members.map Prod.fst) : setMember name value members = members ++ [(name, value)] := by
  induction members with
  | nil => rfl
  | cons member members ih =>
    rw [List.map_cons, List.mem_cons, not_or] at h
    rw [setMember, if_neg (by simpa using Ne.symm h.1), ih h.2]
    rfl

theorem setMember_of_nodup {name : String} {value : Json} {before members : List (String × Json)}
    (h : ((before ++ (name, value) :: members).map Prod.fst).Nodup) :
    setMember name value before = before ++ [(name, value)] := by
  refine setMember_of_notMem fun hmem => ?_
  rw [List.map_append, List.map_cons, List.nodup_append] at h
  exact h.2.2 name hmem name List.mem_cons_self rfl

/-- The first character of a value is neither blank nor a closing bracket. -/
theorem exists_write_cons (layout : Layout) (depth : Nat) (v : Json) :
    ∃ c rest, (write layout depth v).toList = c :: rest ∧ c ∉ [' ', '\t', '\n', '\r'] ∧ c ≠ ']' := by
  have hscalar : ∀ t, BeginsScalar t →
      ∃ c rest, t = c :: rest ∧ c ∉ [' ', '\t', '\n', '\r'] ∧ c ≠ ']' := by
    rintro t ⟨c, rest, rfl, hc⟩
    refine ⟨c, rest, rfl, fun h => hc (List.mem_append_left _ h), ?_⟩
    rintro rfl
    exact hc (by decide)
  cases v with
  | null =>
    have htext : "null".toList = ['n', 'u', 'l', 'l'] := by decide
    exact ⟨'n', _, htext, by decide⟩
  | bool b =>
    cases b with
    | false =>
      have htext : "false".toList = ['f', 'a', 'l', 's', 'e'] := by decide
      exact ⟨'f', _, htext, by decide⟩
    | true =>
      have htext : "true".toList = ['t', 'r', 'u', 'e'] := by decide
      exact ⟨'t', _, htext, by decide⟩
  | int n =>
    have htext : (write layout depth (.int n)).toList = (Numeral.ofInt n).text :=
      (Numeral.text_ofInt n).symm
    rw [htext]
    exact hscalar _ (beginsScalar_numeral (Numeral.wellFormed_ofInt n))
  | float x => exact hscalar _ (beginsScalar_writeFloat x)
  | str s =>
    have htext : (writeString s).toList = '"' :: s.toList.flatMap escapedChar ++ ['"'] :=
      String.toList_ofList
    exact ⟨'"', _, htext, by decide⟩
  | arr items =>
    cases items with
    | nil =>
      have htext : "[]".toList = ['[', ']'] := by decide
      exact ⟨'[', _, htext, by decide⟩
    | cons item items => exact ⟨'[', _, write_arr layout depth item items, by decide⟩
  | obj members =>
    cases members with
    | nil =>
      have htext : "\x7b\x7d".toList = ['\x7b', '\x7d'] := by decide
      exact ⟨'\x7b', _, htext, by decide⟩
    | cons member members => exact ⟨'\x7b', _, write_obj layout depth member members, by decide⟩

/-! ## Values without parts -/

/-- A value is read back from its text, with so many steps left, wherever the text stands. -/
def ReadBack (dialect : Dialect) (layout : Layout) (v : Json) : Prop :=
  ∀ (depth fuel : Nat) (blanks rest : Text), Blank blanks → Ends rest →
    (write layout depth v).toList.length ≤ fuel →
    value? dialect fuel (blanks ++ ((write layout depth v).toList ++ rest)) =
      if v.isReadable dialect then some (v, rest) else none

theorem readBack_scalar {layout : Layout} {v : Json}
    (hwrite : ∀ depth, write layout depth v = writeAtom v)
    (hbegins : BeginsScalar (writeAtom v).toList)
    (h : ∀ {rest}, Ends rest → scalar? dialect ((writeAtom v).toList ++ rest) =
      if v.isReadable dialect then some (v, rest) else none) : ReadBack dialect layout v := by
  intro depth fuel blanks rest hblanks hrest hfuel
  rw [hwrite] at hfuel ⊢
  obtain ⟨fuel, rfl⟩ : ∃ k, fuel = k + 1 := by
    obtain ⟨c, others, htext, -⟩ := hbegins
    rw [htext] at hfuel
    exact ⟨fuel - 1, by have := List.length_cons ▸ hfuel; omega⟩
  rw [value?_scalar hblanks hbegins, h hrest]

theorem readBack_null {layout : Layout} : ReadBack dialect layout .null := by
  refine readBack_scalar (fun _ => rfl) ⟨'n', ['u', 'l', 'l'], by decide, by decide⟩ ?_
  intro rest _
  cases dialect <;> rfl

theorem readBack_bool {layout : Layout} (b : Bool) : ReadBack dialect layout (.bool b) := by
  cases b with
  | false =>
    refine readBack_scalar (fun _ => rfl)
      ⟨'f', ['a', 'l', 's', 'e'], by decide, by decide⟩ ?_
    intro rest _
    cases dialect <;> rfl
  | true =>
    refine readBack_scalar (fun _ => rfl) ⟨'t', ['r', 'u', 'e'], by decide, by decide⟩ ?_
    intro rest _
    cases dialect <;> rfl

theorem readBack_int {layout : Layout} (n : Int) : ReadBack dialect layout (.int n) := by
  have htext : (writeAtom (.int n)).toList = (Numeral.ofInt n).text := (Numeral.text_ofInt n).symm
  refine readBack_scalar (fun _ => rfl) ?_ fun hrest => ?_
  · rw [htext]
    exact beginsScalar_numeral (Numeral.wellFormed_ofInt n)
  · rw [htext, scalar?_numeral (Numeral.wellFormed_ofInt n) hrest, Numeral.value?_ofInt, isReadable]
    split <;> rfl

theorem readBack_float {layout : Layout} (x : Float) : ReadBack dialect layout (.float x) :=
  readBack_scalar (fun _ => rfl) (beginsScalar_writeFloat x) fun hrest =>
    scalar?_writeFloat x hrest

theorem value?_string {blanks : Text} (hblanks : Blank blanks) (fuel : Nat) (s : String)
    (rest : Text) : value? dialect (fuel + 1) (blanks ++ ((writeString s).toList ++ rest)) =
      some (.str s, rest) := by
  have htext : (writeString s).toList ++ rest = '"' :: (s.toList.flatMap escapedChar ++ '"' :: rest) := by
    rw [writeString, String.toList_ofList]
    simp
  have hlength := length_le_length_escaped s.toList
  rw [htext, value?, skipBlanks_append hblanks _ (by decide)]
  have hread : string? ((s.toList.flatMap escapedChar ++ '"' :: rest).length + 1)
      (s.toList.flatMap escapedChar ++ '"' :: rest) = some (s.toList, rest) :=
    string?_written (by rw [List.length_append]; omega) rest
  show (string? ((s.toList.flatMap escapedChar ++ '"' :: rest).length + 1)
    (s.toList.flatMap escapedChar ++ '"' :: rest)).map _ = _
  rw [hread, Option.map_some]
  dsimp only
  rw [String.ofList_toList]

theorem readBack_str {layout : Layout} (s : String) : ReadBack dialect layout (.str s) := by
  intro depth fuel blanks rest hblanks hrest hfuel
  have htext : write layout depth (.str s) = writeString s := rfl
  rw [htext] at hfuel ⊢
  obtain ⟨fuel, rfl⟩ : ∃ k, fuel = k + 1 := by
    refine ⟨fuel - 1, ?_⟩
    rw [writeString, String.toList_ofList, List.length_append, List.length_cons] at hfuel
    omega
  exact value?_string hblanks fuel s rest

theorem readBack_arr_nil {layout : Layout} : ReadBack dialect layout (.arr []) := by
  intro depth fuel blanks rest hblanks hrest hfuel
  have htext : (write layout depth (.arr [])).toList = ['[', ']'] := by
    show "[]".toList = _
    decide
  rw [htext] at hfuel ⊢
  obtain ⟨fuel, rfl⟩ : ∃ k, fuel = k + 1 := ⟨fuel - 1, by simp at hfuel; omega⟩
  rw [List.cons_append, value?, skipBlanks_append hblanks _ (by decide)]
  rfl

theorem readBack_obj_nil {layout : Layout} : ReadBack dialect layout (.obj []) := by
  intro depth fuel blanks rest hblanks hrest hfuel
  have htext : (write layout depth (.obj [])).toList = ['\x7b', '\x7d'] := by
    show "\x7b\x7d".toList = _
    decide
  rw [htext] at hfuel ⊢
  obtain ⟨fuel, rfl⟩ : ∃ k, fuel = k + 1 := ⟨fuel - 1, by simp at hfuel; omega⟩
  rw [List.cons_append, value?, skipBlanks_append hblanks _ (by decide)]
  rfl

/-! ## Arrays and objects -/

theorem ends_of_mem {c : Char} (hc : c ∈ [',', '\n', ']', '\x7d']) (t : Text) : Ends (c :: t) := by
  intro d hd
  obtain rfl : c = d := Option.some.inj hd
  exact hc

/-- A closing bracket ends a value, also behind a break. -/
theorem ends_lineBreak (layout : Layout) (depth : Nat) {c : Char} (hc : c ∈ [']', '\x7d'])
    (rest : Text) : Ends ((layout.lineBreak depth).toList ++ c :: rest) := by
  cases layout with
  | compact => exact ends_of_mem (List.mem_append_right [',', '\n'] hc) rest
  | indented =>
    rw [Layout.lineBreak, String.toList_ofList]
    exact ends_of_mem (by decide) _

theorem ends_separator (layout : Layout) (depth : Nat) (rest : Text) :
    Ends ((layout.separator depth).toList ++ rest) := by
  obtain ⟨blanks, htext, -⟩ := exists_separator layout depth
  rw [htext]
  exact ends_of_mem (by decide) _

theorem items?_joined {layout : Layout} {items : List Json}
    (h : ∀ item ∈ items, ReadBack dialect layout item) (hne : items ≠ []) {depth fuel : Nat}
    {blanks : Text} (hblanks : Blank blanks) (outer : Nat) (rest : Text)
    (hfuel : (joined layout depth items).length < fuel) :
    items? dialect fuel (blanks ++ (joined layout depth items ++
        ((layout.lineBreak outer).toList ++ ']' :: rest))) =
      if areReadable dialect items then some (items, rest) else none := by
  induction items generalizing fuel blanks with
  | nil => exact absurd rfl hne
  | cons item items ih =>
    obtain ⟨fuel, rfl⟩ : ∃ k, fuel = k + 1 := ⟨fuel - 1, by omega⟩
    rw [joined, List.length_append] at hfuel
    have hitem := h item List.mem_cons_self
    rw [items?, joined, List.append_assoc]
    cases items with
    | nil =>
      have htext : (writeItems layout depth []).toList = [] := by rw [writeItems]; decide
      rw [htext, List.nil_append, hitem depth fuel blanks _ hblanks
        (ends_lineBreak layout outer (by decide) rest) (by omega)]
      have hskip := skipBlanks_append (blank_lineBreak layout outer) (c := ']') rest (by decide)
      cases hreadable : isReadable dialect item with
      | false => simp [areReadable, hreadable]
      | true => simp [areReadable, hreadable, hskip]
    | cons next items =>
      obtain ⟨between, hseparator, hbetween⟩ := exists_separator layout depth
      rw [writeItems_cons, hseparator, List.length_append, List.length_cons] at hfuel
      rw [writeItems_cons, List.append_assoc, hitem depth fuel blanks _ hblanks
        (ends_separator layout depth _) (by omega), hseparator]
      have hrest : items? dialect fuel (between ++ (joined layout depth (next :: items) ++
          ((layout.lineBreak outer).toList ++ ']' :: rest))) =
          if areReadable dialect (next :: items) then some (next :: items, rest) else none :=
        ih (fun item hmem => h item (List.mem_cons_of_mem _ hmem)) (List.cons_ne_nil _ _) hbetween
          (by omega)
      rw [areReadable]
      cases isReadable dialect item with
      | false => rfl
      | true =>
        simp only [if_true, List.cons_append, Bool.true_and]
        rw [skipBlanks_cons (by decide)]
        show (items? dialect fuel _).map _ = _
        rw [hrest]
        cases areReadable dialect (next :: items) <;> rfl

/-- A member is read up to the end of its value. -/
theorem members?_member {blanks : Text} (hblanks : Blank blanks) (fuel : Nat)
    (before : List (String × Json)) (name : String) (body : Text) :
    members? dialect (fuel + 1) before (blanks ++ ((writeString name).toList ++ ':' :: body)) =
      (value? dialect fuel body).bind fun (value, after) =>
        match skipBlanks after with
        | ',' :: more => members? dialect fuel (setMember name value before) more
        | '\x7d' :: more => some (setMember name value before, more)
        | _ => none := by
  have htext : (writeString name).toList ++ ':' :: body =
      '"' :: (name.toList.flatMap escapedChar ++ '"' :: ':' :: body) := by
    rw [writeString, String.toList_ofList]
    simp
  have hread : string? ((name.toList.flatMap escapedChar ++ '"' :: ':' :: body).length + 1)
      (name.toList.flatMap escapedChar ++ '"' :: ':' :: body) = some (name.toList, ':' :: body) := by
    have hlength := length_le_length_escaped name.toList
    exact string?_written (by rw [List.length_append]; omega) _
  rw [htext, members?, skipBlanks_append hblanks _ (by decide)]
  split
  · next quoted heq =>
    obtain ⟨-, rfl⟩ := List.cons.inj heq
    rw [hread]
    dsimp only
    rw [skipBlanks_cons (by decide)]
    split
    · next rest heq =>
      obtain ⟨-, rfl⟩ := List.cons.inj heq
      rw [String.ofList_toList]
      cases value? dialect fuel body <;> rfl
    · next hno => exact absurd rfl (hno body)
  · next hno => exact absurd rfl (hno _)

theorem joinedMembers_append (layout : Layout) (depth : Nat) (name : String) (value : Json)
    (members : List (String × Json)) (after : Text) :
    joinedMembers layout depth ((name, value) :: members) ++ after =
      (writeString name).toList ++ ':' :: ([' '] ++ ((write layout depth value).toList ++
        ((writeMembers layout depth members).toList ++ after))) := by
  simp [joinedMembers]

theorem blank_space : Blank [' '] := by
  intro c hc
  rw [List.mem_singleton.mp hc]
  decide

theorem members?_joined {layout : Layout} {members : List (String × Json)}
    (h : ∀ member ∈ members, ReadBack dialect layout member.2) (hne : members ≠ [])
    {before : List (String × Json)} (hnames : ((before ++ members).map Prod.fst).Nodup)
    {depth fuel : Nat} {blanks : Text} (hblanks : Blank blanks) (outer : Nat) (rest : Text)
    (hfuel : (joinedMembers layout depth members).length < fuel) :
    members? dialect fuel before (blanks ++ (joinedMembers layout depth members ++
        ((layout.lineBreak outer).toList ++ '\x7d' :: rest))) =
      if membersAreReadable dialect members then some (before ++ members, rest) else none := by
  induction members generalizing fuel blanks before with
  | nil => exact absurd rfl hne
  | cons member members ih =>
    obtain ⟨name, value⟩ := member
    obtain ⟨fuel, rfl⟩ : ∃ k, fuel = k + 1 := ⟨fuel - 1, by omega⟩
    have hvalue : ReadBack dialect layout value := h (name, value) List.mem_cons_self
    have hnew := setMember_of_nodup hnames
    rw [joinedMembers] at hfuel
    simp only [List.length_append, List.length_cons] at hfuel
    rw [joinedMembers_append, members?_member hblanks]
    cases members with
    | nil =>
      have hnil : (writeMembers layout depth []).toList = [] := by rw [writeMembers]; decide
      have hskip := skipBlanks_append (blank_lineBreak layout outer) (c := '\x7d') rest (by decide)
      rw [hnil, List.nil_append, hvalue depth fuel [' '] _ blank_space
        (ends_lineBreak layout outer (by decide) rest) (by omega), membersAreReadable]
      cases isReadable dialect value with
      | false => rfl
      | true =>
        simp only [if_true, Option.bind_some, hskip, hnew, membersAreReadable, Bool.and_self]
    | cons next members =>
      obtain ⟨between, hseparator, hbetween⟩ := exists_separator layout depth
      have hrest : members? dialect fuel (before ++ [(name, value)]) (between ++
          (joinedMembers layout depth (next :: members) ++
            ((layout.lineBreak outer).toList ++ '\x7d' :: rest))) =
          if membersAreReadable dialect (next :: members) then
            some (before ++ [(name, value)] ++ next :: members, rest) else none := by
        rw [writeMembers_cons, hseparator, List.length_append, List.length_cons] at hfuel
        refine ih (fun member hmem => h member (List.mem_cons_of_mem _ hmem))
          (List.cons_ne_nil _ _) ?_ hbetween (by omega)
        rwa [List.append_assoc]
      rw [writeMembers_cons, List.append_assoc, hvalue depth fuel [' '] _ blank_space
        (ends_separator layout depth _) (by omega), hseparator, membersAreReadable]
      cases isReadable dialect value with
      | false => rfl
      | true =>
        simp only [if_true, Option.bind_some, List.cons_append, Bool.true_and, hnew]
        rw [skipBlanks_cons (by decide)]
        show members? dialect fuel _ _ = _
        rw [hrest]
        simp

/-! ## All values -/

theorem value?_arr {blanks body : Text} (hblanks : Blank blanks) (fuel : Nat) {c : Char} {t : Text}
    (hbody : skipBlanks body = c :: t) (hc : c ≠ ']') :
    value? dialect (fuel + 1) (blanks ++ '[' :: body) =
      (items? dialect fuel body).map fun (items, after) => (.arr items, after) := by
  rw [value?, skipBlanks_append hblanks _ (by decide)]
  split
  · next rest heq =>
    obtain ⟨-, rfl⟩ := List.cons.inj heq
    rw [hbody]
    split
    · next heq => exact absurd (List.cons.inj heq).1 hc
    · rfl
  · next heq => exact absurd (List.cons.inj heq).1 (by decide)
  · next heq => exact absurd (List.cons.inj heq).1 (by decide)
  · next hno _ _ => exact absurd rfl (hno body)

theorem value?_obj {blanks body : Text} (hblanks : Blank blanks) (fuel : Nat) {c : Char} {t : Text}
    (hbody : skipBlanks body = c :: t) (hc : c ≠ '\x7d') :
    value? dialect (fuel + 1) (blanks ++ '\x7b' :: body) =
      (members? dialect fuel [] body).map fun (members, after) => (.obj members, after) := by
  rw [value?, skipBlanks_append hblanks _ (by decide)]
  split
  · next heq => exact absurd (List.cons.inj heq).1 (by decide)
  · next rest heq =>
    obtain ⟨-, rfl⟩ := List.cons.inj heq
    rw [hbody]
    split
    · next heq => exact absurd (List.cons.inj heq).1 hc
    · rfl
  · next heq => exact absurd (List.cons.inj heq).1 (by decide)
  · next _ hno _ => exact absurd rfl (hno body)

theorem readBack_arr {layout : Layout} {items : List Json}
    (h : ∀ item ∈ items, ReadBack dialect layout item) : ReadBack dialect layout (.arr items) := by
  cases items with
  | nil => exact readBack_arr_nil
  | cons item items =>
    intro depth fuel blanks rest hblanks hrest hfuel
    rw [write_arr] at hfuel ⊢
    simp only [List.length_append, List.length_cons] at hfuel
    obtain ⟨fuel, rfl⟩ : ∃ k, fuel = k + 1 := ⟨fuel - 1, by omega⟩
    have hbreak := blank_lineBreak layout (depth + 1)
    obtain ⟨c, others, hwrite, hc, hopen⟩ := exists_write_cons layout (depth + 1) item
    obtain ⟨t, ht⟩ : ∃ t, joined layout (depth + 1) (item :: items) = c :: t :=
      ⟨_, by rw [joined, hwrite]; rfl⟩
    have hitems : items? dialect fuel ((layout.lineBreak (depth + 1)).toList ++
        (joined layout (depth + 1) (item :: items) ++
          ((layout.lineBreak depth).toList ++ ']' :: rest))) = _ :=
      items?_joined h (List.cons_ne_nil _ _) hbreak depth rest (by omega)
    have htext : '[' :: ((layout.lineBreak (depth + 1)).toList ++
        joined layout (depth + 1) (item :: items) ++ (layout.lineBreak depth).toList ++ [']']) ++
          rest = '[' :: ((layout.lineBreak (depth + 1)).toList ++
        (joined layout (depth + 1) (item :: items) ++
          ((layout.lineBreak depth).toList ++ ']' :: rest))) := by simp
    rw [htext, value?_arr hblanks fuel (by rw [ht]; exact skipBlanks_append hbreak _ hc) hopen, hitems,
      isReadable]
    cases areReadable dialect (item :: items) <;> rfl

theorem readBack_obj {layout : Layout} {members : List (String × Json)}
    (hnames : (members.map Prod.fst).Nodup)
    (h : ∀ member ∈ members, ReadBack dialect layout member.2) :
    ReadBack dialect layout (.obj members) := by
  cases members with
  | nil => exact readBack_obj_nil
  | cons member members =>
    intro depth fuel blanks rest hblanks hrest hfuel
    rw [write_obj] at hfuel ⊢
    simp only [List.length_append, List.length_cons] at hfuel
    obtain ⟨fuel, rfl⟩ : ∃ k, fuel = k + 1 := ⟨fuel - 1, by omega⟩
    have hbreak := blank_lineBreak layout (depth + 1)
    obtain ⟨t, ht⟩ : ∃ t, joinedMembers layout (depth + 1) (member :: members) = '"' :: t :=
      ⟨_, by rw [joinedMembers, writeString, String.toList_ofList]; rfl⟩
    have hmembers : members? dialect fuel [] ((layout.lineBreak (depth + 1)).toList ++
        (joinedMembers layout (depth + 1) (member :: members) ++
          ((layout.lineBreak depth).toList ++ '\x7d' :: rest))) = _ :=
      members?_joined h (List.cons_ne_nil _ _) hnames hbreak depth rest (by omega)
    have htext : '\x7b' :: ((layout.lineBreak (depth + 1)).toList ++
        joinedMembers layout (depth + 1) (member :: members) ++
          (layout.lineBreak depth).toList ++ ['\x7d']) ++ rest =
        '\x7b' :: ((layout.lineBreak (depth + 1)).toList ++
          (joinedMembers layout (depth + 1) (member :: members) ++
            ((layout.lineBreak depth).toList ++ '\x7d' :: rest))) := by simp
    have hquote := skipBlanks_append hbreak (c := '"')
      (t ++ ((layout.lineBreak depth).toList ++ '\x7d' :: rest)) (by decide)
    rw [htext, value?_obj hblanks fuel (by rw [ht]; exact hquote) (by decide), hmembers, isReadable]
    cases membersAreReadable dialect (member :: members) <;> rfl

theorem itemsDistinct_iff {items : List Json} :
    ItemsDistinct items ↔ ∀ item ∈ items, item.NamesDistinct := by
  induction items with
  | nil => simp [ItemsDistinct]
  | cons item items ih => simp [ItemsDistinct, ih]

theorem membersDistinct_iff {members : List (String × Json)} :
    MembersDistinct members ↔ ∀ member ∈ members, member.2.NamesDistinct := by
  induction members with
  | nil => simp [MembersDistinct]
  | cons member members ih =>
    obtain ⟨name, value⟩ := member
    simp [MembersDistinct, ih]

theorem readBack {layout : Layout} : ∀ {v : Json}, v.NamesDistinct → ReadBack dialect layout v
  | .null, _ => readBack_null
  | .bool b, _ => readBack_bool b
  | .int n, _ => readBack_int n
  | .float x, _ => readBack_float x
  | .str s, _ => readBack_str s
  | .arr items, h => by
    rw [NamesDistinct, itemsDistinct_iff] at h
    exact readBack_arr fun item hitem => readBack (h item hitem)
  | .obj members, h => by
    rw [NamesDistinct, membersDistinct_iff] at h
    exact readBack_obj h.1 fun member hmember => readBack (h.2 member hmember)
termination_by v => sizeOf v
decreasing_by
  · have := List.sizeOf_lt_of_mem hitem
    simp
    omega
  · have := List.sizeOf_lt_of_mem hmember
    obtain ⟨name, value⟩ := member
    simp at this ⊢
    omega

/-- A value is read back from its text, in either layout, if it can be read at all. -/
theorem parse?_write (layout : Layout) {v : Json} (h : v.NamesDistinct) :
    parse? dialect (write layout 0 v).toList = if v.isReadable dialect then some v else none := by
  have hread : value? dialect ((write layout 0 v).toList.length + 1) (write layout 0 v).toList =
      if v.isReadable dialect then some (v, []) else none := by
    simpa using readBack h 0 ((write layout 0 v).toList.length + 1) [] []
      (fun c hc => absurd hc List.not_mem_nil) (fun c hc => by cases hc) (Nat.le_succ _)
  rw [parse?, hread]
  cases v.isReadable dialect <;> rfl

end MarkupCompiler.Json
