import MarkupCompiler.Delivery.Submission
import MarkupCompiler.Proofs.Delivery.Attempts
import MarkupCompiler.Proofs.Json.Writable
import MarkupCompiler.Proofs.Text.Solid

/-!
# What an insertion submits

An insertion checks its input, puts the index on record, compiles the markup and submits the
requests. The submission checks its own input once more, as does the body of the call; both accept
what was accepted before. Since a submission writes, it is tried once, and makes its call then or
not at all.
-/

namespace MarkupCompiler

namespace Input

theorem documentId_eq_ok_iff {parameter id : String} {value : Json} :
    documentId parameter value = .ok id ↔ ∃ given : String, value = .str given ∧
      id = String.ofList (Text.trimBlank given.toList) ∧ id ≠ "" ∧
        ∀ c ∈ id.toList, isIdentifierChar c = true := by
  constructor
  · intro h
    cases value with
    | str given =>
      unfold documentId at h
      dsimp only at h
      split at h
      · cases h
      · next hne =>
        split at h
        · next hall =>
          obtain rfl := Except.ok.inj h
          refine ⟨given, rfl, rfl, ?_, ?_⟩
          · intro hempty
            have hnil := congrArg String.toList hempty
            rw [String.toList_ofList] at hnil
            exact hne (List.isEmpty_iff.mpr hnil)
          · rw [String.toList_ofList]
            exact List.all_eq_true.mp hall
        · cases h
    | _ => cases h
  · rintro ⟨given, rfl, rfl, hne, hchars⟩
    rw [String.toList_ofList] at hchars
    have hfull : ¬(Text.trimBlank given.toList).isEmpty = true := by
      intro hempty
      apply hne
      rw [List.isEmpty_iff.mp hempty]
    unfold documentId
    dsimp only
    rw [if_neg hfull, if_pos (List.all_eq_true.mpr hchars)]

/-- An identifier that was accepted is accepted again, as it is. -/
theorem documentId_of_ok {parameter id : String} {value : Json}
    (h : documentId parameter value = .ok id) : documentId parameter (.str id) = .ok id := by
  obtain ⟨given, -, hid, hne, hchars⟩ := documentId_eq_ok_iff.mp h
  refine documentId_eq_ok_iff.mpr ⟨id, rfl, ?_, hne, hchars⟩
  rw [hid, String.toList_ofList, Text.trimBlank, Text.trimBlank, Text.trim_trim]

theorem positive_eq_ok_iff {parameter : String} {value : Json} {n : Int} :
    positive parameter none value = .ok n ↔ value = .int n ∧ 1 ≤ n := by
  constructor
  · intro h
    cases value with
    | int m =>
      unfold positive at h
      dsimp only at h
      split at h
      · cases h
      · next hpos =>
        obtain rfl := Except.ok.inj h
        exact ⟨rfl, by omega⟩
    | _ => cases h
  · rintro ⟨rfl, hpos⟩
    unfold positive
    exact if_neg (by omega)

end Input

namespace Delivery

theorem submission_of_ok {value : Json} {id : String}
    (h : Input.documentId "document_id" value = .ok id) (items : List Json) (outcome : Outcome) :
    submission value (.arr items) outcome =
      if items = [] then (.returned (.obj [("documentId", .str id), ("replies", .arr [])]), [])
      else (counted outcome, [⟨id, .obj [("requests", .arr items)]⟩]) := by
  unfold submission
  rw [h]
  cases items with
  | nil => rfl
  | cons item items =>
    have hbody : Converter.checkedUpdateBody (.str id) (.arr (item :: items)) =
        .ok (Converter.updateBody (item :: items)) := by
      unfold Converter.checkedUpdateBody
      rw [Input.documentId_of_ok h]
      rfl
    simp only [Input.requests, hbody]
    rw [if_neg (List.cons_ne_nil item items)]
    rfl

/-- A submission makes the calls of a single try, and is decided by what it does. -/
theorem update_spec (value requests : Json) (service : Service) :
    (update value requests service).calls = (submission value requests (service 0)).2 ∧
      (updateOperation value).Decides (fun index => (submission value requests (service index)).1) 1
        (update value requests service).answer := by
  obtain ⟨hcalls, hdecides⟩ := Operation.attempt_of_write (updateOperation value) rfl
    fun index => (submission value requests (service index)).1
  refine ⟨?_, hdecides⟩
  unfold update
  simp only [hcalls, List.range_one, List.flatMap_singleton]

/-- A single call that returned has decided the answer. -/
theorem answer_of_returned {op : Operation} {outcome : Nat → Outcome} {value : Json}
    (hreturned : outcome 0 = .returned value) {answer : Except Raised Json}
    (h : op.Decides outcome 1 answer) : answer = .ok value := by
  cases h with
  | @settled n _ hn _ hsettles =>
    obtain rfl : n = 0 := by omega
    rw [hreturned] at hsettles
    cases hsettles
    rfl
  | lost hlost =>
    have hfirst := hlost 0 Nat.one_pos
    rw [hreturned] at hfirst
    exact absurd hfirst Bool.false_ne_true

/-- What is said in the end: what was inserted where, with how many requests. -/
def confirmationText (kind : MarkupKind) (position : Int) (id : String) (count : Nat) : String :=
  s!"Inserted {kind.label} content at index {position} in document {id} " ++
    (s!"({count} requests). Link: " ++ s!"https://docs.google.com/document/d/{id}/edit")

theorem confirmation_eq (kind : MarkupKind) (position : Int) (id : String) (count : Nat) :
    confirmation kind position id count = confirmationText kind position id count := rfl

/-- The identifier and the index are accepted, but the index is too long to be written. -/
structure Overlong (documentId index : Json) : Prop where
  id_accepted : ∃ id, Input.documentId "document_id" documentId = .ok id
  index_long : ∃ position : Int, index = .int position ∧ 1 ≤ position ∧
    IntegerText.isWritable position = false

section

variable (frontEnds : FrontEnds) (config : Config) (kind : MarkupKind)
  (documentId source index : Json)

/-- The input of an insertion is accepted, and its markup compiles to the requests. -/
structure Prepared (id : String) (position : Int) (requests : List Request) : Prop where
  id_accepted : ∃ given : String, documentId = .str given ∧
    id = String.ofList (Text.trimBlank given.toList) ∧ id ≠ "" ∧
      ∀ c ∈ id.toList, Input.isIdentifierChar c = true
  index_accepted : index = .int position ∧ 1 ≤ position
  index_written : IntegerText.isWritable position = true
  compiled : Converter.compile frontEnds config kind source index = .ok requests

/-- The first thing that an insertion refuses: its identifier, else its index, else its markup. -/
inductive Refused : CompilerError → Prop
  | documentId {fault : InputFault} (hid : Input.documentId "document_id" documentId = .error fault) :
    Refused fault.toError
  | index {id : String} {fault : InputFault}
    (hid : Input.documentId "document_id" documentId = .ok id)
    (hposition : Input.positive "index" none index = .error fault) :
    Refused fault.toError
  | compile {id : String} {position : Int} {e : CompilerError}
    (hid : Input.documentId "document_id" documentId = .ok id)
    (hposition : Input.positive "index" none index = .ok position)
    (hwritten : IntegerText.isWritable position = true)
    (hcompiled : Converter.compile frontEnds config kind source index = .error e) :
    Refused e

/-- What an insertion can come to, and the calls that it makes. -/
inductive Inserts (service : Service) : Delivered String → Prop
  | refused {e : CompilerError} (h : Refused frontEnds config kind documentId source index e) :
    Inserts service ⟨.error (.family e), []⟩
  | overlong {text : String} (h : Overlong documentId index) :
    Inserts service ⟨.error (.foreign text), []⟩
  | nothing {id : String} {position : Int}
    (h : Prepared frontEnds config kind documentId source index id position []) :
    Inserts service ⟨.ok (confirmationText kind position id 0), []⟩
  | once {id : String} {position : Int} {requests : List Request}
    (h : Prepared frontEnds config kind documentId source index id position requests)
    (hne : requests ≠ []) {reply : Except Raised Json}
    (hreply : (updateOperation (.str id)).Decides (fun n => counted (service n)) 1 reply) :
    Inserts service
      ⟨reply.map fun _ => confirmationText kind position id requests.length,
        [⟨id, .obj [("requests", .arr (requests.map Request.toJson))]⟩]⟩

end

section

variable {frontEnds : FrontEnds} {config : Config} {kind : MarkupKind}
  {documentId source index : Json}

theorem Refused.insert_eq {e : CompilerError}
    (h : Refused frontEnds config kind documentId source index e) (service : Service) :
    insert frontEnds config kind documentId source index service = ⟨.error (.family e), []⟩ := by
  unfold insert
  cases h with
  | documentId hid => rw [hid]
  | index hid hposition => simp only [hid, hposition]
  | compile hid hposition hwritten hcompiled =>
    simp only [hid, hposition, hwritten, hcompiled, Bool.not_true, Bool.false_eq_true, if_false]

theorem Overlong.insert_eq (h : Overlong documentId index) (service : Service) :
    insert frontEnds config kind documentId source index service =
      ⟨.error (.foreign IntegerFault.unwritable.message), []⟩ := by
  obtain ⟨⟨id, hid⟩, position, rfl, hpos, hlong⟩ := h
  have hposition : Input.positive "index" none (.int position) = .ok position :=
    Input.positive_eq_ok_iff.mpr ⟨rfl, hpos⟩
  unfold insert
  simp only [hid, hposition, hlong, Bool.not_false, if_true]

theorem Overlong.not_prepared (h : Overlong documentId index) {id : String} {position : Int}
    {requests : List Request} :
    ¬Prepared frontEnds config kind documentId source index id position requests := by
  rintro ⟨-, ⟨hindex, -⟩, hwritten, -⟩
  obtain ⟨-, position', hindex', -, hlong⟩ := h
  obtain rfl := Json.int.inj (hindex.symm.trans hindex')
  exact Bool.false_ne_true (hlong.symm.trans hwritten)

theorem Prepared.not_refused {id : String} {position : Int} {requests : List Request}
    (h : Prepared frontEnds config kind documentId source index id position requests)
    {e : CompilerError} : ¬Refused frontEnds config kind documentId source index e := by
  intro hrefused
  cases hrefused with
  | documentId hid =>
    rw [Input.documentId_eq_ok_iff.mpr h.id_accepted] at hid
    cases hid
  | index _ hposition =>
    rw [Input.positive_eq_ok_iff.mpr h.index_accepted] at hposition
    cases hposition
  | compile _ _ _ hcompiled =>
    rw [h.compiled] at hcompiled
    cases hcompiled

theorem Prepared.insert_eq {id : String} {position : Int} {requests : List Request}
    (h : Prepared frontEnds config kind documentId source index id position requests)
    (service : Service) :
    let delivered := update (.str id) (Request.listToJson requests) service
    insert frontEnds config kind documentId source index service =
      ⟨delivered.answer.map fun _ => confirmation kind position id requests.length,
        delivered.calls⟩ := by
  have hid : Input.documentId "document_id" documentId = .ok id :=
    Input.documentId_eq_ok_iff.mpr h.id_accepted
  have hposition : Input.positive "index" none index = .ok position :=
    Input.positive_eq_ok_iff.mpr h.index_accepted
  unfold insert
  simp only [hid, hposition, h.index_written, h.compiled, Bool.not_true, Bool.false_eq_true,
    if_false]

theorem Prepared.inserts {id : String} {position : Int} {requests : List Request}
    (h : Prepared frontEnds config kind documentId source index id position requests)
    (service : Service) :
    Inserts frontEnds config kind documentId source index service
      (insert frontEnds config kind documentId source index service) := by
  have haccepted : Input.documentId "document_id" (.str id) = .ok id :=
    Input.documentId_of_ok (Input.documentId_eq_ok_iff.mpr h.id_accepted)
  have hsubmission := submission_of_ok haccepted (requests.map Request.toJson)
  obtain ⟨hcalls, hdecides⟩ := update_spec (.str id) (Request.listToJson requests) service
  rw [h.insert_eq service, confirmation_eq]
  rw [Request.listToJson] at hcalls hdecides ⊢
  simp only [hsubmission, List.map_eq_nil_iff] at hcalls hdecides
  cases requests with
  | nil =>
    simp only [if_true] at hcalls hdecides
    rw [hcalls, answer_of_returned rfl hdecides]
    exact .nothing h
  | cons request requests =>
    have hne : request :: requests ≠ [] := List.cons_ne_nil request requests
    simp only [hne, if_false] at hcalls hdecides
    rw [hcalls]
    exact .once h hne hdecides

end

end Delivery

end MarkupCompiler
