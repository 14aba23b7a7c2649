import MarkupCompiler.Proofs.Config.Change

/-!
# Histories of a configuration

A call with a name that is no option, or with a style of another kind, is to be refused, and it is to
change nothing. This fails in two ways: an option that was unset takes any value, and a name that is
reserved is refused like a call that cannot be made at all. Apart from these, and under any calls,
options keep their kinds.
-/

namespace MarkupCompiler

namespace Config

/-- The style options have their kinds, and the indent is not negative. -/
structure Valid (config : Config) : Prop where
  styles : config.HoldsStyles
  indent : ¬config.listIndent < 0

theorem valid_default : Valid {} := ⟨⟨rfl, rfl, rfl⟩, by decide⟩

/-- A call that cannot be made is not refused because of a value. -/
theorem not_value_unusable : ¬∃ fault,
    (.error .unusable : Except ConfigFault Config) = .error fault ∧ fault.isValueFault = true := by
  rintro ⟨fault, hfault, hvalue⟩
  obtain rfl := Except.error.inj hfault
  exact absurd hvalue Bool.false_ne_true

theorem checked_cases (config : Config) (indent : OptionValue) :
    (indent.number? = none ∧ config.checked indent = .error .unusable) ∨
      ∃ x, indent.number? = some x ∧
        ((x < 0 ∧ config.checked indent = .error (.negativeIndent x)) ∨
          ¬x < 0 ∧ config.checked indent = .ok { config with listIndent := x }) := by
  unfold checked
  cases indent.number? with
  | none => exact .inl ⟨rfl, rfl⟩
  | some x =>
    refine .inr ⟨x, rfl, ?_⟩
    by_cases hnegative : x < 0
    · exact .inl ⟨hnegative, if_pos hnegative⟩
    · exact .inr ⟨hnegative, if_neg hnegative⟩

/-- All that is refused in a checked draft is a negative indent. -/
theorem checked_refused_iff (config : Config) (indent : OptionValue) :
    (∃ fault, config.checked indent = .error fault ∧ fault.isValueFault = true) ↔
      ∃ x, indent.number? = some x ∧ x < 0 := by
  constructor
  · rintro ⟨fault, hfault, hvalue⟩
    obtain ⟨-, hchecked⟩ | ⟨x, hx, ⟨hlt, -⟩ | ⟨-, hchecked⟩⟩ := config.checked_cases indent
    · rw [hchecked] at hfault
      exact absurd ⟨fault, hfault, hvalue⟩ not_value_unusable
    · exact ⟨x, hx, hlt⟩
    · exact absurd (hchecked.symm.trans hfault) (by simp)
  · rintro ⟨x, hx, hlt⟩
    obtain ⟨hnone, -⟩ | ⟨x', hx', ⟨-, hchecked⟩ | ⟨hnot, -⟩⟩ := config.checked_cases indent
    · exact absurd (hnone.symm.trans hx) (by simp)
    · exact ⟨_, hchecked, rfl⟩
    · obtain rfl := Option.some.inj (hx'.symm.trans hx)
      exact absurd hlt hnot

end Config

namespace ConfigChanges

open Config

def names (changes : ConfigChanges) : List String := changes.entries.map Prod.fst

def value? (changes : ConfigChanges) (name : String) : Option OptionValue :=
  changes.entries.lookup name

/-- Some name is that of no option, or an option for styles is given a value of another kind. -/
def IsObjectionable (changes : ConfigChanges) : Prop :=
  (∃ name ∈ changes.names, name ∉ optionNames) ∨
    ∃ (o : StyleOption) (value : OptionValue),
      changes.value? o.name = some value ∧ o.accepts value = false

/-- Some name is unknown, or an option that holds a style is given a value of another kind. -/
def IsCaught (config : Config) (changes : ConfigChanges) : Prop :=
  (∃ name ∈ changes.names, name ∉ optionNames ∧ name ∉ reservedNames) ∨
    ∃ (o : StyleOption) (value : OptionValue), changes.value? o.name = some value ∧
      (o.value config).isSet = true ∧ o.accepts value = false

def HasNegativeIndent (changes : ConfigChanges) : Prop :=
  ∃ value x, changes.value? indentName = some value ∧ value.number? = some x ∧ x < 0

/--
The names can be given to a call, and one of the changes is caught; or no name is reserved, and the
indent is negative.
-/
def IsRefused (config : Config) (changes : ConfigChanges) : Prop :=
  "self" ∉ changes.names ∧
    (changes.IsCaught config ∨
      (∀ name ∈ changes.names, name ∉ reservedNames) ∧ changes.HasNegativeIndent)

variable {config : Config} {changes : ConfigChanges}

theorem refuses_iff (h : config.HoldsStyles) :
    Draft.Refuses config changes.entries ↔ changes.IsCaught config := by
  refine or_congr Iff.rfl ?_
  constructor
  · rintro ⟨o, value, fault, hlookup, hupdated⟩
    obtain ⟨hset, hother, -⟩ | ⟨-, v, hok, -⟩ :=
      StyleOption.updated_cases (holdsStyles_iff.mp h o) o.name value
    · exact ⟨o, value, hlookup, hset, hother⟩
    · exact absurd (hok.symm.trans hupdated) (by simp)
  · rintro ⟨o, value, hlookup, hset, hother⟩
    obtain ⟨-, -, fault, hupdated⟩ | ⟨hnot, -⟩ :=
      StyleOption.updated_cases (holdsStyles_iff.mp h o) o.name value
    · exact ⟨o, value, fault, hlookup, hupdated⟩
    · exact absurd ⟨hset, hother⟩ hnot

/-- What a call with changes does. -/
theorem withUpdates_spec (config : Config) (changes : ConfigChanges) :
    ("self" ∈ changes.names ∧ config.withUpdates changes.entries = .error .unusable) ∨
      ("self" ∉ changes.names ∧ Draft.Refuses config changes.entries ∧
        ∃ fault, config.withUpdates changes.entries = .error fault ∧
          fault.isValueFault = true) ∨
      ("self" ∉ changes.names ∧ ∃ draft,
        Draft.Changed ⟨config, .scalar (.float config.listIndent), false⟩ changes.entries draft ∧
          config.withUpdates changes.entries =
            if draft.namesReserved then .error .unusable
            else draft.config.checked draft.indent) := by
  unfold withUpdates
  by_cases hself : "self" ∈ changes.names
  · refine .inl ⟨hself, if_pos ?_⟩
    simpa [names] using hself
  · rw [if_neg]
    · obtain ⟨fault, hall, hvalue, hrefuses⟩ | ⟨draft, hall, hchanged⟩ :=
        Draft.changeAll_spec changes.nodup ⟨config, .scalar (.float config.listIndent), false⟩
      · rw [hall]
        exact .inr (.inl ⟨hself, hrefuses, fault, rfl, hvalue⟩)
      · rw [hall]
        exact .inr (.inr ⟨hself, draft, hchanged, rfl⟩)
    · simpa [names] using hself

theorem negative_indent_iff {draft : Draft} (h : ¬config.listIndent < 0)
    (hchanged : Draft.Changed ⟨config, .scalar (.float config.listIndent), false⟩ changes.entries
      draft) :
    (∃ x, draft.indent.number? = some x ∧ x < 0) ↔ changes.HasNegativeIndent := by
  rw [hchanged.indent]
  cases hvalue : changes.value? indentName with
  | none =>
    have hlookup : changes.entries.lookup indentName = none := hvalue
    rw [hlookup]
    constructor
    · rintro ⟨x, hx, hnegative⟩
      obtain rfl := Option.some.inj hx
      exact absurd hnegative h
    · rintro ⟨value, x, hsome, -⟩
      exact absurd (hvalue.symm.trans hsome) (by simp)
  | some value =>
    have hlookup : changes.entries.lookup indentName = some value := hvalue
    rw [hlookup]
    constructor
    · rintro ⟨x, hx, hnegative⟩
      exact ⟨value, x, hvalue, hx, hnegative⟩
    · rintro ⟨value', x, hsome, hx, hnegative⟩
      obtain rfl := Option.some.inj (hvalue.symm.trans hsome)
      exact ⟨x, hx, hnegative⟩

/-- The changes are refused as values exactly if they are said to be. -/
theorem isRefused_iff (h : config.Valid) : changes.IsRefused config ↔
    ∃ fault, config.withUpdates changes.entries = .error fault ∧ fault.isValueFault = true := by
  obtain ⟨hself, hrun⟩ | ⟨hself, hrefuses, hrun⟩ | ⟨hself, draft, hchanged, hrun⟩ :=
    changes.withUpdates_spec config
  · rw [hrun]
    exact iff_of_false (fun hrefused => hrefused.1 hself) not_value_unusable
  · exact ⟨fun _ => hrun, fun _ => ⟨hself, .inl ((refuses_iff h.styles).mp hrefuses)⟩⟩
  · have hnotCaught : ¬changes.IsCaught config := mt (refuses_iff h.styles).mpr hchanged.not_refuses
    have hreserved : draft.namesReserved = true ↔
        ∃ name ∈ changes.names, name ∈ reservedNames :=
      hchanged.reserved.trans (or_iff_right Bool.false_ne_true)
    -- Nothing was refused so far, so that only the indent can be at fault.
    have hleft : changes.IsRefused config ↔
        (∀ name ∈ changes.names, name ∉ reservedNames) ∧ changes.HasNegativeIndent := by
      constructor
      · exact fun hrefused => hrefused.2.resolve_left hnotCaught
      · exact fun hnegative => ⟨hself, .inr hnegative⟩
    rw [hrun, hleft]
    by_cases hnames : draft.namesReserved = true
    · rw [if_pos hnames]
      obtain ⟨name, hname, hreservedName⟩ := hreserved.mp hnames
      exact iff_of_false (fun hplain => hplain.1 name hname hreservedName) not_value_unusable
    · rw [if_neg hnames, checked_refused_iff, negative_indent_iff h.indent hchanged]
      exact and_iff_right fun name hname hmem => hnames (hreserved.mpr ⟨name, hname, hmem⟩)

/-- Changes that are made and not objectionable leave the kinds of options as they are. -/
theorem holdsStyles_of_changed {draft : Draft} (h : config.HoldsStyles)
    (hplain : ¬changes.IsObjectionable)
    (hchanged : Draft.Changed ⟨config, .scalar (.float config.listIndent), false⟩ changes.entries
      draft) : draft.config.HoldsStyles := by
  refine holdsStyles_iff.mpr fun o => ?_
  have haccepts := holdsStyles_iff.mp h o
  have hoption := hchanged.options o
  cases hlookup : changes.entries.lookup o.name with
  | none =>
    rw [hlookup] at hoption
    rw [← Except.ok.inj hoption]
    exact haccepts
  | some new =>
    rw [hlookup] at hoption
    have hnew : o.accepts new = true :=
      Bool.of_not_eq_false fun hother => hplain (.inr ⟨o, new, hlookup, hother⟩)
    obtain ⟨-, -, fault, hupdated⟩ | ⟨-, v, hupdated, hsame⟩ :=
      StyleOption.updated_cases haccepts o.name new
    · exact absurd (hupdated.symm.trans hoption) (by simp)
    · rw [← Except.ok.inj (hupdated.symm.trans hoption), hsame, hnew]

/-- Changes that are made leave no negative indent, and kinds that are given values of their own. -/
theorem made_of_ok {changed : Config} (h : config.withUpdates changes.entries = .ok changed) :
    ¬changed.listIndent < 0 ∧ (config.HoldsStyles → ¬changes.IsObjectionable →
      changed.HoldsStyles) := by
  obtain ⟨-, hrun⟩ | ⟨-, -, fault, hrun, -⟩ | ⟨-, draft, hchanged, hrun⟩ :=
    changes.withUpdates_spec config
  · exact absurd (hrun.symm.trans h) (by simp)
  · exact absurd (hrun.symm.trans h) (by simp)
  · rw [hrun] at h
    split at h
    · exact absurd h (by simp)
    · obtain ⟨-, hchecked⟩ | ⟨x, -, ⟨-, hchecked⟩ | ⟨hnot, hchecked⟩⟩ :=
        draft.config.checked_cases draft.indent
      · exact absurd (hchecked.symm.trans h) (by simp)
      · exact absurd (hchecked.symm.trans h) (by simp)
      · obtain rfl := Except.ok.inj (hchecked.symm.trans h)
        refine ⟨hnot, fun hstyles hplain => ?_⟩
        -- The check sets the indent alone.
        obtain ⟨hparagraph, hheading, htext⟩ := holdsStyles_of_changed hstyles hplain hchanged
        exact ⟨hparagraph, hheading, htext⟩

end ConfigChanges

namespace ConfigCall

/-- A call that changes options, and objectionably so. -/
def IsObjectionable : ConfigCall → Prop
  | .update changes => changes.IsObjectionable
  | .reset => False

/-- A call that is refused because of a value or a name. -/
def IsRefused (config : Config) : ConfigCall → Prop
  | .update changes => changes.IsRefused config
  | .reset => False

/-- A call keeps the kinds of options, objects to what is wrong, and does nothing if it objects. -/
structure IsSound (config : Config) (call : ConfigCall) : Prop where
  typed : (call.after config).HoldsStyles
  refused : call.IsObjectionable →
    ∃ fault, call.run config = .error fault ∧ fault.isValueFault = true
  unchanged : ∀ fault, call.run config = .error fault → call.after config = config

/-- Something is true of every call of a history and the configuration that it finds. -/
def Along (p : Config → ConfigCall → Prop) : Config → List ConfigCall → Prop
  | _, [] => True
  | config, call :: calls => p config call ∧ Along p (call.after config) calls

theorem after_of_error {config : Config} {call : ConfigCall} {fault : ConfigFault}
    (h : call.run config = .error fault) : call.after config = config := by
  rw [after, h]

theorem indent_after {config : Config} (h : config.Valid) (call : ConfigCall) :
    ¬(call.after config).listIndent < 0 := by
  cases call with
  | reset => exact Config.valid_default.indent
  | update changes =>
    unfold after
    cases hrun : (update changes).run config with
    | error fault => exact h.indent
    | ok changed => exact (ConfigChanges.made_of_ok hrun).1

/-- A call is sound exactly if it is refused when it is objectionable. -/
theorem isSound_iff {config : Config} (h : config.Valid) (call : ConfigCall) :
    call.IsSound config ↔ (call.IsObjectionable → call.IsRefused config) := by
  cases call with
  | reset =>
    constructor
    · exact fun _ hfalse => hfalse
    · exact fun _ => ⟨Config.valid_default.styles, fun hfalse => hfalse.elim,
        fun fault hrun => after_of_error hrun⟩
  | update changes =>
    constructor
    · intro hsound hobjection
      exact (ConfigChanges.isRefused_iff h).mpr (hsound.refused hobjection)
    · intro hrefused
      refine ⟨?_, fun hobjection => (ConfigChanges.isRefused_iff h).mp (hrefused hobjection),
        fun fault hrun => after_of_error hrun⟩
      cases hrun : (update changes).run config with
      | error fault =>
        rw [after_of_error hrun]
        exact h.styles
      | ok changed =>
        have hplain : ¬changes.IsObjectionable := by
          intro hobjection
          obtain ⟨fault, hfault, -⟩ := (ConfigChanges.isRefused_iff h).mp (hrefused hobjection)
          exact absurd (hrun.symm.trans hfault) (by simp)
        unfold after
        rw [hrun]
        exact (ConfigChanges.made_of_ok hrun).2 h.styles hplain

/-- All calls from a valid configuration on are sound exactly if the objectionable are refused. -/
theorem along_isSound_iff {config : Config} (h : config.Valid) (calls : List ConfigCall) :
    Along (fun config call => call.IsSound config) config calls ↔
      Along (fun config call => call.IsObjectionable → call.IsRefused config) config calls := by
  induction calls generalizing config with
  | nil => exact Iff.rfl
  | cons call calls ih =>
    have hcall := isSound_iff h call
    constructor
    · rintro ⟨hsound, hcalls⟩
      have hvalid : (call.after config).Valid := ⟨hsound.typed, indent_after h call⟩
      exact ⟨hcall.mp hsound, (ih hvalid).mp hcalls⟩
    · rintro ⟨hrefused, hcalls⟩
      have hsound := hcall.mpr hrefused
      have hvalid : (call.after config).Valid := ⟨hsound.typed, indent_after h call⟩
      exact ⟨hsound, (ih hvalid).mpr hcalls⟩

/--
From the default configuration on, a history of calls is sound exactly if each objectionable call
in it finds a configuration that refuses it.
-/
theorem sound_history_iff (calls : List ConfigCall) :
    Along (fun config call => call.IsSound config) {} calls ↔
      Along (fun config call => call.IsObjectionable → call.IsRefused config) {} calls :=
  along_isSound_iff Config.valid_default calls

/-- Once the option for text is unset, it takes a paragraph style; and a method has a known name. -/
theorem unset_option_takes_other_kind :
    let unset : ConfigChanges := ⟨[(Config.textName, .unset)], by decide⟩
    let centered : ParagraphStyle := { alignment := some "CENTER" }
    let other : ConfigChanges := ⟨[(Config.textName, .paragraphStyle centered)], by decide⟩
    let method : ConfigChanges := ⟨[("paragraph_style_for", .scalar (.float 1.0))], by decide⟩
    ¬Along (fun config call => call.IsSound config) {} [.update unset, .update other] ∧
      ¬Along (fun config call => call.IsSound config) {} [.update method] := by
  intro unset centered other method
  constructor
  · rintro ⟨-, hother, -⟩
    exact absurd hother.typed.text (by decide)
  · rintro ⟨hmethod, -⟩
    have hunknown : method.IsObjectionable := .inl ⟨"paragraph_style_for", by decide, by decide⟩
    have hrefused := hmethod.refused hunknown
    have hunusable : (update method).run {} = .error .unusable := rfl
    rw [hunusable] at hrefused
    exact Config.not_value_unusable hrefused

end ConfigCall

end MarkupCompiler
