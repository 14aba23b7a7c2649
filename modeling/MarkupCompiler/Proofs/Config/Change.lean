import MarkupCompiler.Config.Update
import MarkupCompiler.Proofs.Config.Kinds

/-!
# Changes of a draft

A change is checked against what its option holds, so an option that is unset takes a value of any
kind. The names that are known are more than those of the options. Changes with different names are
made independently of one another, each to what its option held before all of them.
-/

namespace MarkupCompiler

namespace OptionValue

/-- Whether the option holds anything. -/
def isSet : OptionValue → Bool
  | .unset => false
  | _ => true

theorem isValueFault_of_updated {name : String} {current new : OptionValue} {fault : ConfigFault}
    (h : current.updated name new = .error fault) : fault.isValueFault = true := by
  unfold updated at h
  split at h <;> cases h <;> rfl

end OptionValue

namespace StyleOption

/-- An option of the right kind takes what it accepts, and anything if it is unset. -/
theorem updated_cases {o : StyleOption} {current : OptionValue} (h : o.accepts current = true)
    (name : String) (new : OptionValue) :
    (current.isSet = true ∧ o.accepts new = false ∧
        ∃ fault, current.updated name new = .error fault) ∨
      (¬(current.isSet = true ∧ o.accepts new = false) ∧
        ∃ value, current.updated name new = .ok value ∧ o.accepts value = o.accepts new) := by
  cases current with
  | unset =>
    refine .inr ⟨by simp [OptionValue.isSet], new, ?_, rfl⟩
    cases new <;> rfl
  | scalar value => cases o <;> exact absurd h Bool.false_ne_true
  | textStyle old =>
    cases o with
    | paragraph => exact absurd h Bool.false_ne_true
    | heading => exact absurd h Bool.false_ne_true
    | text =>
      cases new with
      | unset => exact .inr ⟨by simp [accepts, OptionValue.isForText], _, rfl, rfl⟩
      | textStyle style => exact .inr ⟨by simp [accepts, OptionValue.isForText], _, rfl, rfl⟩
      | paragraphStyle style => exact .inl ⟨rfl, rfl, _, rfl⟩
      | scalar value => exact .inl ⟨rfl, rfl, _, rfl⟩
  | paragraphStyle old =>
    have haccepts : ∀ value : OptionValue, o.accepts value = value.isForParagraphs := by
      cases o with
      | text => exact absurd h Bool.false_ne_true
      | paragraph => exact fun _ => rfl
      | heading => exact fun _ => rfl
    cases new with
    | unset => exact .inr ⟨by simp [haccepts, OptionValue.isForParagraphs], _, rfl, rfl⟩
    | paragraphStyle style =>
      refine .inr ⟨by simp [haccepts, OptionValue.isForParagraphs], _, rfl, ?_⟩
      rw [haccepts, haccepts]
      rfl
    | textStyle style => exact .inl ⟨rfl, haccepts _, _, rfl⟩
    | scalar value => exact .inl ⟨rfl, haccepts _, _, rfl⟩

end StyleOption

namespace Config

def optionNames : List String := [paragraphName, headingName, textName, indentName]

theorem name_mem_optionNames (o : StyleOption) : o.name ∈ optionNames := by
  cases o <;> decide

theorem name_ne_indentName (o : StyleOption) : o.name ≠ indentName := by
  cases o <;> decide

/-- No option has a reserved name. -/
theorem not_mem_reservedNames {name : String} (h : name ∈ optionNames) : name ∉ reservedNames := by
  revert name
  decide

namespace Draft

/-- What a change does, by its name. -/
theorem change_cases (draft : Draft) (name : String) (value : OptionValue) :
    (∃ o : StyleOption, name = o.name ∧ draft.change name value =
        ((o.value draft.config).updated name value).map fun v =>
          { draft with config := o.set draft.config v }) ∨
      (name = indentName ∧ draft.change name value = .ok { draft with indent := value }) ∨
      (name ∈ reservedNames ∧ name ∉ optionNames ∧
        draft.change name value = .ok { draft with namesReserved := true }) ∨
      (name ∉ optionNames ∧ name ∉ reservedNames ∧
        draft.change name value = .error (.unknownOption name)) := by
  unfold change
  by_cases hparagraph : name = paragraphName
  · exact .inl ⟨.paragraph, hparagraph, if_pos (beq_iff_eq.mpr hparagraph)⟩
  rw [if_neg (mt beq_iff_eq.mp hparagraph)]
  by_cases hheading : name = headingName
  · exact .inl ⟨.heading, hheading, if_pos (beq_iff_eq.mpr hheading)⟩
  rw [if_neg (mt beq_iff_eq.mp hheading)]
  by_cases htext : name = textName
  · exact .inl ⟨.text, htext, if_pos (beq_iff_eq.mpr htext)⟩
  rw [if_neg (mt beq_iff_eq.mp htext)]
  by_cases hindent : name = indentName
  · exact .inr (.inl ⟨hindent, if_pos (beq_iff_eq.mpr hindent)⟩)
  rw [if_neg (mt beq_iff_eq.mp hindent)]
  have hoption : name ∉ optionNames := by simp [optionNames, *]
  by_cases hreserved : name ∈ reservedNames
  · exact .inr (.inr (.inl ⟨hreserved, hoption, if_pos (List.contains_iff_mem.mpr hreserved)⟩))
  · exact .inr (.inr (.inr ⟨hoption, hreserved, if_neg (mt List.contains_iff_mem.mp hreserved)⟩))

/-- What changes do to a draft: each is made to what its option held before. -/
structure Changed (draft : Draft) (entries : List (String × OptionValue)) (draft' : Draft) :
    Prop where
  known : ∀ name ∈ entries.map Prod.fst, name ∈ optionNames ∨ name ∈ reservedNames
  options : ∀ o : StyleOption,
    ((entries.lookup o.name).map ((o.value draft.config).updated o.name)).getD
      (.ok (o.value draft.config)) = .ok (o.value draft'.config)
  indent : draft'.indent = (entries.lookup indentName).getD draft.indent
  reserved : draft'.namesReserved = true ↔
    draft.namesReserved = true ∨ ∃ name ∈ entries.map Prod.fst, name ∈ reservedNames

/-- A change is for a name that is unknown, or its option does not take it. -/
def Refuses (config : Config) (entries : List (String × OptionValue)) : Prop :=
  (∃ name ∈ entries.map Prod.fst, name ∉ optionNames ∧ name ∉ reservedNames) ∨
    ∃ (o : StyleOption) (value : OptionValue) (fault : ConfigFault),
      entries.lookup o.name = some value ∧
        (o.value config).updated o.name value = .error fault

theorem lookup_singleton_of_ne {name other : String} (h : other ≠ name) (value : OptionValue) :
    [(name, value)].lookup other = none := by
  rw [List.lookup_cons, beq_eq_false_iff_ne.mpr h]
  rfl

theorem lookup_of_not_mem {entries : List (String × OptionValue)} {name : String}
    (h : name ∉ entries.map Prod.fst) : entries.lookup name = none := by
  rw [List.lookup_eq_none_iff]
  intro entry hentry
  exact bne_iff_ne.mpr fun heq => h (heq ▸ List.mem_map_of_mem hentry)

/-- One change, of which it is known what it does to an option of its name and to others. -/
theorem Changed.single {draft draft' : Draft} {name : String} {value : OptionValue}
    (known : name ∈ optionNames ∨ name ∈ reservedNames)
    (named : ∀ o : StyleOption, o.name = name →
      (o.value draft.config).updated o.name value = .ok (o.value draft'.config))
    (other : ∀ o : StyleOption, o.name ≠ name → o.value draft.config = o.value draft'.config)
    (indent : draft'.indent = if indentName = name then value else draft.indent)
    (reserved : draft'.namesReserved = true ↔ draft.namesReserved = true ∨ name ∈ reservedNames) :
    Changed draft [(name, value)] draft' := by
  have hself : [(name, value)].lookup name = some value := by simp
  constructor
  · simpa using known
  · intro o
    by_cases hname : o.name = name
    · rw [hname, hself, ← hname]
      exact named o hname
    · rw [lookup_singleton_of_ne hname]
      exact congrArg Except.ok (other o hname)
  · rw [indent]
    by_cases hname : indentName = name
    · rw [if_pos hname, hname, hself]
      rfl
    · rw [if_neg hname, lookup_singleton_of_ne hname]
      rfl
  · simpa using reserved

/-- One change is refused, or it does what changes do. -/
theorem change_spec (draft : Draft) (name : String) (value : OptionValue) :
    (∃ fault, draft.change name value = .error fault ∧ fault.isValueFault = true ∧
        Refuses draft.config [(name, value)]) ∨
      ∃ draft', draft.change name value = .ok draft' ∧ Changed draft [(name, value)] draft' := by
  obtain ⟨o, rfl, hchange⟩ | ⟨rfl, hchange⟩ | ⟨hreserved, hoption, hchange⟩ |
    ⟨hoption, hreserved, hchange⟩ := draft.change_cases name value
  · have hplain := not_mem_reservedNames (name_mem_optionNames o)
    cases hupdated : (o.value draft.config).updated o.name value with
    | error fault =>
      rw [hupdated] at hchange
      exact .inl ⟨fault, hchange, OptionValue.isValueFault_of_updated hupdated,
        .inr ⟨o, value, fault, by simp, hupdated⟩⟩
    | ok v =>
      rw [hupdated] at hchange
      refine .inr ⟨_, hchange, Changed.single (.inl (name_mem_optionNames o)) ?_ ?_ ?_ ?_⟩
      · intro o' hname
        obtain rfl := StyleOption.name_injective hname
        rw [hupdated, StyleOption.value_set_self]
      · intro o' hname
        have hne : o' ≠ o := fun h => hname (congrArg StyleOption.name h)
        exact (StyleOption.value_set_of_ne hne _ _).symm
      · rw [if_neg (name_ne_indentName o).symm]
      · simp [hplain]
  · have hplain : indentName ∉ reservedNames := not_mem_reservedNames (by decide)
    refine .inr ⟨_, hchange, Changed.single (.inl (by decide)) ?_ (fun _ _ => rfl) ?_ ?_⟩
    · intro o hname
      exact absurd hname (name_ne_indentName o)
    · rw [if_pos rfl]
    · simp [hplain]
  · refine .inr ⟨_, hchange, Changed.single (.inr hreserved) ?_ (fun _ _ => rfl) ?_ ?_⟩
    · intro o hname
      exact absurd (hname ▸ name_mem_optionNames o) hoption
    · have hindent : indentName ≠ name := fun h => hoption (h ▸ by decide)
      rw [if_neg hindent]
    · simp [hreserved]
  · exact .inl ⟨_, hchange, rfl, .inl ⟨name, by simp, hoption, hreserved⟩⟩

section Cons

variable {draft middle draft' : Draft} {name : String} {value : OptionValue}
  {entries : List (String × OptionValue)}

theorem lookup_cons_of_ne {other : String} (h : other ≠ name) :
    ((name, value) :: entries).lookup other = entries.lookup other := by
  rw [List.lookup_cons, beq_eq_false_iff_ne.mpr h]

/-- A change does not touch the options of other names. -/
theorem Changed.value_eq (h : Changed draft [(name, value)] middle) {o : StyleOption}
    (hname : o.name ≠ name) : o.value middle.config = o.value draft.config := by
  have hoption := h.options o
  rw [lookup_singleton_of_ne hname] at hoption
  exact (Except.ok.inj hoption).symm

theorem Changed.cons (hfirst : Changed draft [(name, value)] middle)
    (hrest : Changed middle entries draft') (hnew : name ∉ entries.map Prod.fst) :
    Changed draft ((name, value) :: entries) draft' := by
  have hself : ((name, value) :: entries).lookup name = some value := by simp
  constructor
  · rw [List.map_cons, List.forall_mem_cons]
    exact ⟨hfirst.known name (by simp), hrest.known⟩
  · intro o
    have hoption := hrest.options o
    by_cases hname : o.name = name
    · have hchanged := hfirst.options o
      rw [hname, lookup_of_not_mem hnew] at hoption
      rw [hname] at hchanged ⊢
      rw [hself, ← Except.ok.inj hoption]
      simpa using hchanged
    · rw [hfirst.value_eq hname] at hoption
      rw [lookup_cons_of_ne hname]
      exact hoption
  · rw [hrest.indent, hfirst.indent]
    by_cases hname : indentName = name
    · rw [hname, lookup_of_not_mem hnew, hself]
      simp
    · rw [lookup_singleton_of_ne hname, lookup_cons_of_ne hname]
      rfl
  · rw [hrest.reserved, hfirst.reserved]
    simp [or_assoc]

theorem Refuses.of_singleton (h : Refuses draft.config [(name, value)]) :
    Refuses draft.config ((name, value) :: entries) := by
  obtain ⟨other, hmem, hunknown⟩ | ⟨o, v, fault, hlookup, hupdated⟩ := h
  · obtain rfl := List.mem_singleton.mp hmem
    exact .inl ⟨other, List.mem_cons_self, hunknown⟩
  · by_cases hname : o.name = name
    · refine .inr ⟨o, v, fault, ?_, hupdated⟩
      rw [hname] at hlookup ⊢
      simpa using hlookup
    · rw [lookup_singleton_of_ne hname] at hlookup
      exact absurd hlookup (by simp)

theorem Refuses.cons (hfirst : Changed draft [(name, value)] middle)
    (hrest : Refuses middle.config entries) (hnew : name ∉ entries.map Prod.fst) :
    Refuses draft.config ((name, value) :: entries) := by
  obtain ⟨other, hmem, hunknown⟩ | ⟨o, v, fault, hlookup, hupdated⟩ := hrest
  · exact .inl ⟨other, List.mem_cons_of_mem name hmem, hunknown⟩
  · have hname : o.name ≠ name := by
      intro hname
      rw [hname, lookup_of_not_mem hnew] at hlookup
      exact absurd hlookup (by simp)
    refine .inr ⟨o, v, fault, ?_, ?_⟩
    · rw [lookup_cons_of_ne hname, hlookup]
    · rw [← hfirst.value_eq hname, hupdated]

end Cons

/-- Changes with different names are refused if one of them is, and otherwise they are all made. -/
theorem changeAll_spec {entries : List (String × OptionValue)}
    (hnodup : (entries.map Prod.fst).Nodup) (draft : Draft) :
    (∃ fault, draft.changeAll entries = .error fault ∧ fault.isValueFault = true ∧
        Refuses draft.config entries) ∨
      ∃ draft', draft.changeAll entries = .ok draft' ∧ Changed draft entries draft' := by
  induction entries generalizing draft with
  | nil => exact .inr ⟨draft, rfl, by simp, fun _ => rfl, rfl, by simp⟩
  | cons entry entries ih =>
    obtain ⟨name, value⟩ := entry
    obtain ⟨hnew, hnodup⟩ := List.nodup_cons.mp hnodup
    rw [changeAll]
    obtain ⟨fault, hchange, hvalue, hrefuses⟩ | ⟨middle, hchange, hfirst⟩ :=
      draft.change_spec name value
    · rw [hchange]
      exact .inl ⟨fault, rfl, hvalue, hrefuses.of_singleton⟩
    · rw [hchange]
      obtain ⟨fault, hrest, hvalue, hrefuses⟩ | ⟨draft', hrest, hchanged⟩ := ih hnodup middle
      · exact .inl ⟨fault, hrest, hvalue, hrefuses.cons hfirst hnew⟩
      · exact .inr ⟨draft', hrest, hfirst.cons hchanged hnew⟩

theorem Changed.not_refuses {draft draft' : Draft} {entries : List (String × OptionValue)}
    (h : Changed draft entries draft') : ¬Refuses draft.config entries := by
  rintro (⟨name, hname, hoption, hreserved⟩ | ⟨o, value, fault, hlookup, hupdated⟩)
  · rcases h.known name hname with hknown | hknown
    · exact hoption hknown
    · exact hreserved hknown
  · have hchanged := h.options o
    rw [hlookup] at hchanged
    exact absurd (hupdated.symm.trans hchanged) (by simp)

end Draft

end Config

end MarkupCompiler
