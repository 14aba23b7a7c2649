import MarkupCompiler.Style.Declarations
import Mathlib.Data.List.Induction
import Mathlib.Data.List.Nodup

/-!
# Reading style declarations

Declarations are read one after another, each into what was read before. So an attribute that is cut
at a semicolon is read by reading its parts, and updating what the first part gives by what the
second one gives. Declarations that reading would not change themselves are read back from the
attribute that they are written to.
-/

namespace MarkupCompiler

/-! ## Cutting a text -/

namespace Text

theorem split_ne_nil (sep : Char) (t : Text) : split sep t ≠ [] := by
  cases t with
  | nil => simp [split]
  | cons c rest =>
    rw [split]
    split
    · simp
    · split
      · simp
      · simp

theorem split_of_not_mem {sep : Char} {t : Text} (h : sep ∉ t) : split sep t = [t] := by
  induction t with
  | nil => rfl
  | cons c rest ih =>
    obtain ⟨hc, hrest⟩ := List.ne_and_not_mem_of_not_mem_cons h
    rw [split, if_neg (by simpa using Ne.symm hc), ih hrest]

/-- The pieces on both sides of a separator are those of the two sides. -/
theorem split_append_cons (sep : Char) (s t : Text) :
    split sep (s ++ sep :: t) = split sep s ++ split sep t := by
  induction s with
  | nil => simp [split]
  | cons c rest ih =>
    rw [List.cons_append, split, split, ih]
    by_cases hc : (c == sep) = true
    · rw [if_pos hc, if_pos hc, List.cons_append]
    · rw [if_neg hc, if_neg hc]
      cases hpieces : split sep rest with
      | nil => exact absurd hpieces (split_ne_nil sep rest)
      | cons piece pieces => rfl

theorem split_join {sep : Char} {pieces : List Text} (hne : pieces ≠ [])
    (h : ∀ piece ∈ pieces, sep ∉ piece) : split sep (join [sep] pieces) = pieces := by
  induction pieces with
  | nil => exact absurd rfl hne
  | cons piece pieces ih =>
    obtain ⟨hpiece, hpieces⟩ := List.forall_mem_cons.mp h
    cases pieces with
    | nil => exact split_of_not_mem hpiece
    | cons next pieces =>
      rw [join, List.append_assoc, List.singleton_append, split_append_cons,
        split_of_not_mem hpiece, ih (List.cons_ne_nil next pieces) hpieces]
      · rfl
      · exact List.cons_ne_nil next pieces

theorem splitFirst?_append_cons {sep : Char} {s : Text} (h : sep ∉ s) (t : Text) :
    splitFirst? sep (s ++ sep :: t) = some (s, t) := by
  induction s with
  | nil => simp [splitFirst?]
  | cons c rest ih =>
    obtain ⟨hc, hrest⟩ := List.ne_and_not_mem_of_not_mem_cons h
    rw [List.cons_append, splitFirst?, if_neg (by simpa using Ne.symm hc), ih hrest]
    rfl

end Text

namespace Declarations

def properties (ds : Declarations) : List Text := ds.map Prod.fst

@[simp] theorem properties_cons (p v : Text) (ds : Declarations) :
    properties ((p, v) :: ds) = p :: properties ds := rfl

theorem lookup_cons (p q v : Text) (ds : Declarations) :
    List.lookup q ((p, v) :: ds) = if q = p then some v else ds.lookup q := by
  rw [List.lookup_cons]
  by_cases h : q = p
  · simp [h]
  · rw [beq_eq_false_iff_ne.mpr h, if_neg h]

/-! ## Setting a property -/

theorem properties_set (p v : Text) (ds : Declarations) :
    (set p v ds).properties =
      if p ∈ ds.properties then ds.properties else ds.properties ++ [p] := by
  induction ds with
  | nil => rfl
  | cons d rest ih =>
    obtain ⟨q, w⟩ := d
    rw [set]
    by_cases hq : q = p
    · simp [hq]
    · rw [if_neg (by simpa using hq), properties_cons, properties_cons, ih]
      by_cases hp : p ∈ properties rest
      · simp [hp]
      · simp [hp, Ne.symm hq]

theorem mem_properties_set {p q v : Text} {ds : Declarations} :
    p ∈ (set q v ds).properties ↔ p = q ∨ p ∈ ds.properties := by
  rw [properties_set]
  split
  · next hq =>
    refine (or_iff_right_of_imp ?_).symm
    rintro rfl
    exact hq
  · rw [List.mem_append, List.mem_singleton, or_comm]

theorem lookup_set (p v q : Text) (ds : Declarations) :
    (set p v ds).lookup q = if q = p then some v else ds.lookup q := by
  induction ds with
  | nil => exact lookup_cons p q v []
  | cons d rest ih =>
    obtain ⟨r, w⟩ := d
    rw [set, lookup_cons]
    by_cases hr : r = p
    · subst hr
      rw [if_pos (beq_self_eq_true r), lookup_cons]
      by_cases hq : q = r
      · rw [if_pos hq, if_pos hq]
      · rw [if_neg hq, if_neg hq, if_neg hq]
    · rw [if_neg (by simpa using hr), lookup_cons, ih]
      by_cases hq : q = p
      · subst hq
        rw [if_neg (Ne.symm hr), if_pos rfl, if_pos rfl]
      · rw [if_neg hq, if_neg hq]

theorem set_of_not_mem {p : Text} {ds : Declarations} (h : p ∉ ds.properties) (v : Text) :
    set p v ds = ds ++ [(p, v)] := by
  induction ds with
  | nil => rfl
  | cons d rest ih =>
    obtain ⟨hne, hrest⟩ := List.ne_and_not_mem_of_not_mem_cons h
    rw [set, if_neg (by simpa using Ne.symm hne), ih hrest]
    rfl

theorem set_set (p v w : Text) (ds : Declarations) : set p v (set p w ds) = set p v ds := by
  induction ds with
  | nil => simp [set]
  | cons d rest ih =>
    obtain ⟨q, u⟩ := d
    by_cases hq : q = p
    · simp [set, hq]
    · simp [set, hq, ih]

/-- Once a property has its place, another one can be set before it or after it. -/
theorem set_comm {p q : Text} (hne : p ≠ q) {ds : Declarations} (h : p ∈ ds.properties)
    (v w : Text) : set p v (set q w ds) = set q w (set p v ds) := by
  induction ds with
  | nil => exact absurd h List.not_mem_nil
  | cons d rest ih =>
    obtain ⟨r, u⟩ := d
    by_cases hp : r = p
    · subst hp
      simp [set, hne]
    · have hrest : p ∈ properties rest := (List.mem_cons.mp h).resolve_left (Ne.symm hp)
      by_cases hq : r = q
      · subst hq
        simp [set, hp]
      · simp [set, hp, hq, ih hrest]

/-! ## Updating -/

theorem update_cons (earlier : Declarations) (p v : Text) (later : Declarations) :
    update earlier ((p, v) :: later) = update (set p v earlier) later := rfl

theorem update_append (earlier later more : Declarations) :
    update earlier (later ++ more) = update (update earlier later) more := List.foldl_append ..

theorem nodup_nil : (properties []).Nodup := List.nodup_nil

theorem nodup_set {ds : Declarations} (h : ds.properties.Nodup) (p v : Text) :
    (set p v ds).properties.Nodup := by
  rw [properties_set]
  split
  · exact h
  · next hp => exact List.nodup_append'.mpr ⟨h, List.nodup_singleton p, by simpa using hp⟩

theorem nodup_update {earlier : Declarations} (h : earlier.properties.Nodup)
    (later : Declarations) : (update earlier later).properties.Nodup := by
  induction later generalizing earlier with
  | nil => exact h
  | cons d later ih => exact ih (nodup_set h d.1 d.2)

/-- A property that is not set again can be set before the others, if it has its place. -/
theorem set_update {p : Text} {earlier later : Declarations} (hplace : p ∈ earlier.properties)
    (hagain : p ∉ later.properties) (v : Text) :
    set p v (update earlier later) = update (set p v earlier) later := by
  induction later generalizing earlier with
  | nil => rfl
  | cons d later ih =>
    obtain ⟨q, w⟩ := d
    obtain ⟨hne, hlater⟩ := List.ne_and_not_mem_of_not_mem_cons hagain
    have hkept : p ∈ (set q w earlier).properties := mem_properties_set.mpr (Or.inr hplace)
    rw [update_cons, ih hkept hlater, set_comm hne hplace]
    rfl

theorem update_set (earlier : Declarations) {later : Declarations}
    (hlater : later.properties.Nodup) (p v : Text) :
    update earlier (set p v later) = set p v (update earlier later) := by
  induction later generalizing earlier with
  | nil => rfl
  | cons d later ih =>
    obtain ⟨q, w⟩ := d
    obtain ⟨hagain, hrest⟩ := List.nodup_cons.mp hlater
    rw [set]
    by_cases hq : q = p
    · subst hq
      have hplace : q ∈ (set q w earlier).properties := mem_properties_set.mpr (Or.inl rfl)
      rw [if_pos (by simp), update_cons, update_cons, set_update hplace hagain, set_set]
    · rw [if_neg (by simpa using hq), update_cons, update_cons, ih _ hrest]

/-- Declarations can be read on their own before they update others. -/
theorem update_update_nil (earlier later : Declarations) :
    update earlier (update [] later) = update earlier later := by
  induction later using List.reverseRecOn with
  | nil => rfl
  | append_singleton later d ih =>
    rw [update_append, update_append, ← ih]
    exact update_set earlier (nodup_update nodup_nil later) d.1 d.2

theorem update_of_nodup {earlier later : Declarations}
    (h : (earlier ++ later).properties.Nodup) : update earlier later = earlier ++ later := by
  induction later generalizing earlier with
  | nil => rw [List.append_nil]; rfl
  | cons d later ih =>
    obtain ⟨p, v⟩ := d
    have hsplit : earlier ++ (p, v) :: later = earlier ++ [(p, v)] ++ later := by simp
    have hnew : p ∉ earlier.properties := by
      rw [properties, List.map_append] at h
      intro hp
      exact List.disjoint_of_nodup_append h hp List.mem_cons_self
    rw [update_cons, set_of_not_mem hnew, hsplit, ih (hsplit ▸ h)]

/-- Old properties keep their places, and new ones come behind them in their order. -/
theorem properties_update (earlier : Declarations) {later : Declarations}
    (h : later.properties.Nodup) : (update earlier later).properties =
      earlier.properties ++ later.properties.filter (· ∉ earlier.properties) := by
  induction later generalizing earlier with
  | nil => simp [update, properties]
  | cons d later ih =>
    obtain ⟨p, v⟩ := d
    obtain ⟨hagain, hrest⟩ := List.nodup_cons.mp h
    rw [update_cons, ih _ hrest, properties_set, properties_cons, List.filter_cons]
    by_cases hp : p ∈ earlier.properties
    · simp [hp]
    · have hothers : (properties later).filter (· ∉ earlier.properties ++ [p]) =
          (properties later).filter (· ∉ earlier.properties) := by
        refine List.filter_congr fun q hq => ?_
        have hne : q ≠ p := by
          rintro rfl
          exact hagain hq
        simp [hne]
      simp only [hp, if_false, hothers]
      simp

/-- The later value of a property counts. -/
theorem lookup_update (earlier : Declarations) {later : Declarations}
    (h : later.properties.Nodup) (p : Text) :
    (update earlier later).lookup p = (later.lookup p).or (earlier.lookup p) := by
  induction later generalizing earlier with
  | nil => rfl
  | cons d later ih =>
    obtain ⟨q, v⟩ := d
    obtain ⟨hagain, hrest⟩ := List.nodup_cons.mp h
    rw [update_cons, ih _ hrest, lookup_set, lookup_cons]
    by_cases hp : p = q
    · have hnone : later.lookup p = none := by
        rw [List.lookup_eq_none_iff]
        intro d hd
        refine bne_iff_ne.mpr fun heq => hagain ?_
        show q ∈ later.map Prod.fst
        rw [← hp, heq]
        exact List.mem_map_of_mem hd
      rw [if_pos hp, if_pos hp, hnone, Option.none_or, Option.some_or]
    · rw [if_neg hp, if_neg hp]

/-! ## Reading -/

theorem nodup_parse (t : Text) : (parse t).properties.Nodup := nodup_update nodup_nil _

/-- Behind a semicolon, reading goes on with what was read before it. -/
theorem parse_append_cons (a b : Text) : parse (a ++ ';' :: b) = update (parse a) (parse b) := by
  unfold parse
  rw [Text.split_append_cons, List.filterMap_append, update_append, update_update_nil]

/-- The attribute that holds declarations. -/
def render (ds : Declarations) : Text :=
  Text.join [';'] (ds.map fun (property, value) => property ++ ':' :: value)

/-- A declaration that can be written as it is: reading it would not change or cut it. -/
structure Plain (property value : Text) : Prop where
  property_ne : property ≠ []
  property_trimmed : Text.trimBlank property = property
  property_lower : Text.lower property = property
  property_colon : ':' ∉ property
  property_semicolon : ';' ∉ property
  value_ne : value ≠ []
  value_trimmed : Text.trimBlank value = value
  value_semicolon : ';' ∉ value

theorem Plain.declaration? {property value : Text} (h : Plain property value) :
    declaration? (property ++ ':' :: value) = some (property, value) := by
  unfold Declarations.declaration?
  simp only [Text.splitFirst?_append_cons h.property_colon, h.property_trimmed, h.property_lower,
    h.value_trimmed]
  rw [if_neg (by simp [h.property_ne, h.value_ne])]

theorem parse_render {ds : Declarations} (hnodup : ds.properties.Nodup)
    (hplain : ∀ d ∈ ds, Plain d.1 d.2) : parse (render ds) = ds := by
  have hread : ((ds.map fun (p, v) => p ++ ':' :: v).filterMap declaration?) = ds := by
    rw [List.filterMap_map]
    conv_rhs => rw [← List.filterMap_some (l := ds)]
    exact List.filterMap_congr fun d hd => (hplain d hd).declaration?
  have hpieces : ∀ piece ∈ ds.map (fun (p, v) => p ++ ':' :: v), ';' ∉ piece := by
    intro piece hpiece
    obtain ⟨d, hd, rfl⟩ := List.mem_map.mp hpiece
    have h := hplain d hd
    simp [h.property_semicolon, h.value_semicolon]
  cases ds with
  | nil => rfl
  | cons d rest =>
    unfold parse render
    rw [Text.split_join (by simp) hpieces, hread]
    exact update_of_nodup hnodup

/--
An attribute that is cut at a semicolon gives what its first part gives, updated by what the second
one gives: old properties keep their places, new ones come behind them in their order, each stands
once, and the later value counts. And declarations of distinct properties that can be written as they
are, in any number, are read back from the attribute that holds them.
-/
theorem parse_by_parts_and_rendered :
    (∀ a b : Text,
      let whole := parse (a ++ ';' :: b)
      whole = update (parse a) (parse b) ∧ whole.properties.Nodup ∧
        whole.properties = (parse a).properties ++
          (parse b).properties.filter (· ∉ (parse a).properties) ∧
        ∀ p, whole.lookup p = ((parse b).lookup p).or ((parse a).lookup p)) ∧
      ∀ ds : Declarations, ds.properties.Nodup → (∀ d ∈ ds, Plain d.1 d.2) →
        parse (render ds) = ds := by
  refine ⟨fun a b => ?_, fun ds => parse_render⟩
  intro whole
  have hwhole : whole = update (parse a) (parse b) := parse_append_cons a b
  refine ⟨hwhole, nodup_parse _, ?_, fun p => ?_⟩
  · rw [hwhole]
    exact properties_update _ (nodup_parse b)
  · rw [hwhole]
    exact lookup_update _ (nodup_parse b) p

/-- A value with colons and a blank inside, and a property with an accent. -/
theorem parse_by_parts_and_rendered_colons :
    let ds : Declarations := [("src".toList, "url(a://b) c".toList), ("ñ-x".toList, ":".toList)]
    ds.properties.Nodup ∧ (∀ d ∈ ds, Plain d.1 d.2) ∧
      render ds = "src:url(a://b) c;ñ-x::".toList ∧ parse (render ds) = ds := by
  intro ds
  have hnodup : ds.properties.Nodup := by decide
  have hplain : ∀ d ∈ ds, Plain d.1 d.2 := by
    refine List.forall_mem_cons.mpr ⟨?_, List.forall_mem_singleton.mpr ?_⟩
    · constructor <;> decide
    · constructor <;> decide
  exact ⟨hnodup, hplain, by decide, parse_by_parts_and_rendered.2 ds hnodup hplain⟩

end Declarations

end MarkupCompiler
