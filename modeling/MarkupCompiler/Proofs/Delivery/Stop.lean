import MarkupCompiler.Proofs.Block.WellFormed
import MarkupCompiler.Proofs.Delivery.Insertion

/-!
# What stops a conversion or an insertion

A conversion is stopped by an empty text, by Markdown that cannot be rendered, by HTML that cannot
be read, by a start index below 1, or by blocks whose numbers are too large, in this order. An
insertion is stopped by its identifier, its index or its markup, or else by what the service does in
the one call. Each of these has an error of its own, and where nothing stops them, there are
requests or a confirmation.
-/

namespace MarkupCompiler

/-- The value is a positive integer, or no such integer. -/
theorem Json.positive_or_not (value : Json) :
    (∃ n : Int, value = .int n ∧ 1 ≤ n) ∨ ∀ n : Int, value = .int n → n < 1 := by
  by_cases h : ∃ n : Int, value = .int n ∧ 1 ≤ n
  · exact Or.inl h
  · refine Or.inr fun n hn => ?_
    by_contra hlt
    exact h ⟨n, hn, by omega⟩

namespace Input

variable {value : Json}

theorem startIndex_of_bad (h : ∀ n : Int, value = .int n → n < 1) :
    startIndex value = .error (.badStart value.literal) := by
  cases value with
  | int n => exact if_pos (h n rfl)
  | _ => rfl

theorem positive_of_bad (h : ∀ n : Int, value = .int n → n < 1) (parameter : String) :
    positive parameter none value = .error (.notPositive parameter) := by
  cases value with
  | int n => exact if_pos (h n rfl)
  | _ => rfl

end Input

def FrontEnds.htmlText (frontEnds : FrontEnds) : MarkupKind → String → Except String Text
  | .html, markup => .ok markup.toList
  | .markdown, markup => frontEnds.render markup.toList

namespace Converter

section

variable (frontEnds : FrontEnds) (config : Config) (kind : MarkupKind) (markup : String)
  (start : Json)

/-- A text is there, and its HTML is read into a tree. -/
structure Reads (nodes : List Node) : Prop where
  nonempty : markup ≠ ""
  read : ∃ html, frontEnds.htmlText kind markup = .ok html ∧ frontEnds.parse html = .ok nodes

/-- The first thing that a conversion refuses: the markup, or else the start index, or the blocks. -/
inductive Refuses : CompilerError → Prop
  | empty (h : markup = "") :
    Refuses (.emptyInput kind.label s!"{kind.label} input must be a non-empty string")
  | unrendered {reason : String} (hne : markup ≠ "")
    (hrender : frontEnds.htmlText kind markup = .error reason) :
    Refuses (.conversion (some "markdown") s!"Failed to convert Markdown to HTML: {reason}")
  | unreadable {html : Text} {reason : String} (hne : markup ≠ "")
    (hrender : frontEnds.htmlText kind markup = .ok html)
    (hparse : frontEnds.parse html = .error reason) :
    Refuses (.conversion (some "html") s!"Failed to parse HTML: {reason}")
  | start {nodes : List Node} (hread : Reads frontEnds kind markup nodes)
    (hstart : ∀ n : Int, start = .int n → n < 1) :
    Refuses (.validation s!"start_index must be an integer >= 1, got {start.literal}")
  | numbers {nodes : List Node} (hread : Reads frontEnds kind markup nodes) {n : Int}
    (hstart : start = .int n ∧ 1 ≤ n)
    (hlarge : ¬Generator.NumbersFit (Block.ofRoot (.document nodes)) n) {fault : GenerateFault}
    (hfault : (Generator.generate (Block.ofRoot (.document nodes)) start
      { config := config }).1 = .error fault) :
    Refuses
      (.conversion (some "compile") s!"Failed to convert HTML to document requests: {fault.message}")

end

variable {frontEnds : FrontEnds} {config : Config} {kind : MarkupKind} {markup : String}
  {start : Json}

theorem compile_empty (frontEnds : FrontEnds) (config : Config) (kind : MarkupKind)
    (start : Json) : compile frontEnds config kind (.str "") start =
      .error (.emptyInput kind.label s!"{kind.label} input must be a non-empty string") := by
  cases kind <;> rfl

theorem htmlOf_of_ne_empty (h : markup ≠ "") (frontEnds : FrontEnds) (kind : MarkupKind) :
    htmlOf frontEnds kind (.str markup) = (frontEnds.htmlText kind markup).mapError
      (stageError "markdown" "convert Markdown to HTML") := by
  have hmarkup : Input.markup kind.label (.str markup) = .ok markup.toList :=
    if_neg (by simpa using h)
  have hnonempty : ¬markup.toList.isEmpty = true := by simpa using h
  rw [htmlOf, hmarkup]
  cases kind with
  | html => rfl
  | markdown => exact if_neg hnonempty

theorem Reads.compile_eq {nodes : List Node} (h : Reads frontEnds kind markup nodes)
    (config : Config) (start : Json) : compile frontEnds config kind (.str markup) start =
      (Generator.generate (Block.ofRoot (.document nodes)) start
        { config := config }).1.mapError generateError := by
  obtain ⟨hne, html, hrender, hparse⟩ := h
  simp only [compile, htmlOf_of_ne_empty hne, hrender, Except.mapError, blocksOf, hparse]

/-- The error of a run that broke off. -/
theorem generateError_of_inner {fault : GenerateFault} (h : fault.IsInner) :
    generateError fault = .conversion (some "compile")
      s!"Failed to convert HTML to document requests: {fault.message}" := by
  cases fault with
  | input refused => exact absurd rfl (h refused)
  | _ => rfl

theorem Refuses.compile_eq {e : CompilerError}
    (h : Refuses frontEnds config kind markup start e) (hwritten : start.isWritable = true) :
    compile frontEnds config kind (.str markup) start = .error e := by
  cases h with
  | empty h =>
    rw [h]
    exact compile_empty frontEnds config kind start
  | unrendered hne hrender =>
    simp only [compile, htmlOf_of_ne_empty hne, hrender]
    rfl
  | unreadable hne hrender hparse =>
    simp only [compile, htmlOf_of_ne_empty hne, hrender, Except.mapError, blocksOf, hparse]
    rfl
  | start hread hstart =>
    rw [hread.compile_eq, Generator.generate, Input.startIndex_of_bad hstart, hwritten]
    rfl
  | numbers hread hstart hlarge hfault =>
    obtain ⟨rfl, hpos⟩ := hstart
    have hrun := hfault
    rw [Generator.generate_of_start hpos] at hrun
    rw [hread.compile_eq, hfault]
    exact congrArg Except.error (generateError_of_inner (Generator.isInner_of_run hrun))

/-- What is not refused is converted. -/
theorem refuses_or_compiles (hconfig : config.HoldsStyles) (frontEnds : FrontEnds)
    (kind : MarkupKind) (markup : String) (start : Json) :
    (∃ e, Refuses frontEnds config kind markup start e) ∨
      ∃ requests, compile frontEnds config kind (.str markup) start = .ok requests := by
  by_cases hne : markup = ""
  · exact Or.inl ⟨_, .empty hne⟩
  cases hrender : frontEnds.htmlText kind markup with
  | error reason => exact Or.inl ⟨_, .unrendered hne hrender⟩
  | ok html =>
    cases hparse : frontEnds.parse html with
    | error reason => exact Or.inl ⟨_, .unreadable hne hrender hparse⟩
    | ok nodes =>
      have hread : Reads frontEnds kind markup nodes := ⟨hne, html, hrender, hparse⟩
      rcases start.positive_or_not.symm with hstart | ⟨n, rfl, hpos⟩
      · exact Or.inl ⟨_, .start hread hstart⟩
      have hblocks := Block.wellFormed_of_gives (Block.gives_ofRoot (.document nodes))
      have hfit := Generator.exists_generate_iff (g := { config := config }) hconfig hblocks hpos
      cases hgenerate : (Generator.generate (Block.ofRoot (.document nodes)) (.int n)
          { config := config }).1 with
      | error fault =>
        refine Or.inl ⟨_, .numbers hread ⟨rfl, hpos⟩ (fun hsmall => ?_) hgenerate⟩
        obtain ⟨requests, cursor, hok⟩ := hfit.mpr hsmall
        rw [hok] at hgenerate
        cases hgenerate
      | ok requests =>
        refine Or.inr ⟨requests, ?_⟩
        rw [hread.compile_eq, hgenerate]
        rfl

end Converter

namespace Delivery

/-- The error that one call for a document ends with, if it does. -/
inductive Breaks (id : String) : Outcome → CompilerError → Prop
  | connectionLost (reason : String) :
    Breaks id (.connectionLost reason) (.network
      ("A transient SSL error occurred in 'batch_update_doc' after 1 attempt(s). " ++
        "This is likely a temporary network or certificate issue. Please try again shortly."))
  | refused {status : Option Int} {text : String} {refusal : Refusal} {code : Option Int}
    {message : String} (h : refusalError status text (some id) = .service refusal code message) :
    Breaks id (.refused status text)
      (.service refusal code s!"API error in {updateName}: {message}")
  | failed (e : CompilerError) : Breaks id (.failed e) e
  | crashed (reason : String) :
    Breaks id (.crashed reason)
      (.service .other none s!"An unexpected error occurred in {updateName}: {reason}")
  | uncountable {value : Json} {reason : String} (h : badResponse? value = some reason) :
    Breaks id (.returned value)
      (.service .other none s!"An unexpected error occurred in {updateName}: {reason}")

section

variable (frontEnds : FrontEnds) (config : Config) (kind : MarkupKind)
  (documentId markup : String) (index : Json) (service : Service)

/-- The first thing that stops an insertion: the identifier, the index, the markup or the call. -/
inductive Stops : CompilerError → Prop
  | noId (h : Text.trimBlank documentId.toList = []) :
    Stops (.validation "document_id is required")
  | badId {c : Char} (hmem : c ∈ Text.trimBlank documentId.toList)
    (hbad : Input.isIdentifierChar c = false) :
    Stops (.validation "document_id contains invalid characters")
  | index {id : String} (hid : Input.documentId "document_id" (.str documentId) = .ok id)
    (hindex : ∀ n : Int, index = .int n → n < 1) :
    Stops (.validation "index must be a positive integer")
  | markup {id : String} (hid : Input.documentId "document_id" (.str documentId) = .ok id)
    {position : Int} (hindex : index = .int position ∧ 1 ≤ position) {e : CompilerError}
    (h : Converter.Refuses frontEnds config kind markup index e) : Stops e
  | call {id : String} {position : Int} {requests : List Request}
    (h : Prepared frontEnds config kind (.str documentId) (.str markup) index id position requests)
    (hne : requests ≠ []) {e : CompilerError} (hbreaks : Breaks id (service 0) e) : Stops e

/-- The confirmation of an insertion that nothing stops. -/
inductive Confirms : String → Prop
  | nothing {id : String} {position : Int}
    (h : Prepared frontEnds config kind (.str documentId) (.str markup) index id position []) :
    Confirms (confirmationText kind position id 0)
  | submitted {id : String} {position : Int} {requests : List Request}
    (h : Prepared frontEnds config kind (.str documentId) (.str markup) index id position requests)
    (hne : requests ≠ []) {value : Json} (hreturned : service 0 = .returned value)
    (hcountable : badResponse? value = none) :
    Confirms (confirmationText kind position id requests.length)

end

variable {frontEnds : FrontEnds} {config : Config} {kind : MarkupKind}
  {documentId markup : String} {index : Json} {service : Service}

/-- The call breaks, or returns something that can be counted. -/
theorem breaks_or_returns (id : String) (outcome : Outcome) : (∃ e, Breaks id outcome e) ∨
    ∃ value, outcome = .returned value ∧ badResponse? value = none := by
  cases outcome with
  | returned value =>
    cases hbad : badResponse? value with
    | some reason => exact Or.inl ⟨_, .uncountable hbad⟩
    | none => exact Or.inr ⟨value, rfl, hbad⟩
  | connectionLost reason => exact Or.inl ⟨_, .connectionLost reason⟩
  | refused status text => exact Or.inl ⟨_, .refused rfl⟩
  | failed e => exact Or.inl ⟨e, .failed e⟩
  | crashed reason => exact Or.inl ⟨_, .crashed reason⟩

/-- What a submission comes to that makes one call for a document. -/
def reply (id : String) (outcome : Outcome) : Except Raised Json :=
  let op := updateOperation (.str id)
  (op.answer? (counted outcome)).getD (.error (.family (op.connectionError 1)))

theorem reply_of_decides {id : String} {answer : Except Raised Json}
    (h : (updateOperation (.str id)).Decides (fun n => counted (service n)) 1 answer) :
    answer = reply id (service 0) := by
  cases h with
  | @settled n _ hn _ hsettles =>
    obtain rfl : n = 0 := by omega
    rw [reply]
    generalize counted (service 0) = outcome at hsettles
    cases hsettles with
    | refused hrefusal =>
      cases hrefusal
      rfl
    | _ => rfl
  | lost hlost =>
    have hnone : (updateOperation (.str id)).answer? (counted (service 0)) = none :=
      Operation.answer?_eq_none_iff.mpr (hlost 0 Nat.one_pos)
    rw [reply, hnone]
    rfl

theorem connectionError_update (id : String) :
    (updateOperation (.str id)).connectionError 1 = .network
      ("A transient SSL error occurred in 'batch_update_doc' after 1 attempt(s). " ++
        "This is likely a temporary network or certificate issue. Please try again shortly.") := by
  refine congrArg CompilerError.network ?_
  show s!"A transient SSL error occurred in '{updateName}' after {1} attempt(s). " ++ _ = _
  decide +kernel

theorem Breaks.reply_eq {id : String} {outcome : Outcome} {e : CompilerError}
    (h : Breaks id outcome e) : reply id outcome = .error (.family e) := by
  cases h with
  | connectionLost reason =>
    rw [← connectionError_update id]
    rfl
  | refused hrefusal =>
    cases hrefusal
    rfl
  | uncountable hbad =>
    rw [reply, counted, hbad]
    rfl
  | _ => rfl

theorem reply_of_countable (id : String) {value : Json} (h : badResponse? value = none) :
    reply id (.returned value) = .ok value := by
  rw [reply, counted, h]
  rfl

theorem Prepared.unique {documentId source index : Json} {id id' : String}
    {position position' : Int} {requests requests' : List Request}
    (h : Prepared frontEnds config kind documentId source index id position requests)
    (h' : Prepared frontEnds config kind documentId source index id' position' requests') :
    id = id' ∧ position = position' ∧ requests = requests' := by
  have hid : Input.documentId "document_id" documentId = .ok id :=
    Input.documentId_eq_ok_iff.mpr h.id_accepted
  have hid' : Input.documentId "document_id" documentId = .ok id' :=
    Input.documentId_eq_ok_iff.mpr h'.id_accepted
  refine ⟨Except.ok.inj (hid.symm.trans hid'), ?_, ?_⟩
  · exact Json.int.inj (h.index_accepted.1.symm.trans h'.index_accepted.1)
  · exact Except.ok.inj (h.compiled.symm.trans h'.compiled)

/-- An empty list of requests is confirmed at once; others are decided by the first call. -/
theorem Prepared.answer_eq {documentId source : Json} {id : String} {position : Int}
    {requests : List Request}
    (h : Prepared frontEnds config kind documentId source index id position requests)
    (service : Service) :
    (insert frontEnds config kind documentId source index service).answer =
      if requests = [] then .ok (confirmationText kind position id 0)
      else (reply id (service 0)).map fun _ => confirmationText kind position id requests.length := by
  have hinserts := h.inserts service
  generalize insert frontEnds config kind documentId source index service = delivered at hinserts
  cases hinserts with
  | refused hrefused => exact absurd hrefused h.not_refused
  | overlong hlong => exact absurd h hlong.not_prepared
  | nothing hnothing =>
    obtain ⟨rfl, rfl, rfl⟩ := h.unique hnothing
    rw [if_pos rfl]
  | once honce hne hreply =>
    obtain ⟨rfl, rfl, rfl⟩ := h.unique honce
    rw [if_neg hne, reply_of_decides hreply]

theorem documentId_of_blank (h : Text.trimBlank documentId.toList = []) :
    Input.documentId "document_id" (.str documentId) = .error (.missing "document_id") := by
  rw [Input.documentId, h]
  rfl

theorem documentId_of_bad {c : Char} (hmem : c ∈ Text.trimBlank documentId.toList)
    (hbad : Input.isIdentifierChar c = false) :
    Input.documentId "document_id" (.str documentId) =
      .error (.invalidCharacters "document_id") := by
  have hne : ¬(Text.trimBlank documentId.toList).isEmpty = true := by
    intro hempty
    rw [List.isEmpty_iff.mp hempty] at hmem
    exact absurd hmem List.not_mem_nil
  have hall : ¬(Text.trimBlank documentId.toList).all Input.isIdentifierChar = true := by
    intro hall
    rw [List.all_eq_true.mp hall c hmem] at hbad
    exact Bool.false_ne_true hbad.symm
  rw [Input.documentId]
  simp only [if_neg hne, if_neg hall]

theorem documentId_of_good (hne : Text.trimBlank documentId.toList ≠ [])
    (hgood : ¬∃ c ∈ Text.trimBlank documentId.toList, Input.isIdentifierChar c = false) :
    Input.documentId "document_id" (.str documentId) =
      .ok (String.ofList (Text.trimBlank documentId.toList)) := by
  refine Input.documentId_eq_ok_iff.mpr ⟨documentId, rfl, rfl, ?_, ?_⟩
  · simpa using hne
  · rw [String.toList_ofList]
    intro c hc
    by_contra hbad
    exact hgood ⟨c, hc, by simpa using hbad⟩

theorem Stops.answer_eq {e : CompilerError}
    (h : Stops frontEnds config kind documentId markup index service e)
    (hwritten : index.isWritable = true) :
    (insert frontEnds config kind (.str documentId) (.str markup) index service).answer =
      .error (.family e) := by
  cases h with
  | noId h =>
    rw [(Refused.documentId (documentId_of_blank h)).insert_eq service]
    rfl
  | badId hmem hbad =>
    rw [(Refused.documentId (documentId_of_bad hmem hbad)).insert_eq service]
    rfl
  | index hid hindex =>
    rw [(Refused.index hid (Input.positive_of_bad hindex "index")).insert_eq service]
    rfl
  | @markup id hid position hindex e hrefuses =>
    have hposition : Input.positive "index" none index = .ok position :=
      Input.positive_eq_ok_iff.mpr hindex
    have hcompiled := hrefuses.compile_eq hwritten
    obtain ⟨rfl, -⟩ := hindex
    rw [(Refused.compile hid hposition hwritten hcompiled).insert_eq service]
  | call hprepared hne hbreaks =>
    rw [hprepared.answer_eq service, if_neg hne, hbreaks.reply_eq]
    rfl

theorem Confirms.answer_eq {text : String}
    (h : Confirms frontEnds config kind documentId markup index service text) :
    (insert frontEnds config kind (.str documentId) (.str markup) index service).answer =
      .ok text := by
  cases h with
  | nothing hprepared => rw [hprepared.answer_eq service, if_pos rfl]
  | submitted hprepared hne hreturned hcountable =>
    rw [hprepared.answer_eq service, if_neg hne, hreturned, reply_of_countable _ hcountable]
    rfl

/-- What nothing stops is confirmed. -/
theorem stops_or_confirms (hconfig : config.HoldsStyles) (frontEnds : FrontEnds)
    (kind : MarkupKind) (documentId markup : String) (hwritten : index.isWritable = true)
    (service : Service) :
    (∃ e, Stops frontEnds config kind documentId markup index service e) ∨
      ∃ text, Confirms frontEnds config kind documentId markup index service text := by
  by_cases hblank : Text.trimBlank documentId.toList = []
  · exact Or.inl ⟨_, .noId hblank⟩
  by_cases hbad : ∃ c ∈ Text.trimBlank documentId.toList, Input.isIdentifierChar c = false
  · obtain ⟨c, hmem, hc⟩ := hbad
    exact Or.inl ⟨_, .badId hmem hc⟩
  have hid := documentId_of_good hblank hbad
  rcases index.positive_or_not.symm with hindex | ⟨position, rfl, hpos⟩
  · exact Or.inl ⟨_, .index hid hindex⟩
  rcases Converter.refuses_or_compiles hconfig frontEnds kind markup (.int position) with
    ⟨e, hrefuses⟩ | ⟨requests, hcompiled⟩
  · exact Or.inl ⟨e, .markup hid ⟨rfl, hpos⟩ hrefuses⟩
  have hprepared : Prepared frontEnds config kind (.str documentId) (.str markup) (.int position) _
      position requests := ⟨Input.documentId_eq_ok_iff.mp hid, ⟨rfl, hpos⟩, hwritten, hcompiled⟩
  by_cases hne : requests = []
  · subst hne
    exact Or.inr ⟨_, .nothing hprepared⟩
  · rcases breaks_or_returns (String.ofList (Text.trimBlank documentId.toList)) (service 0) with
      ⟨e, hbreaks⟩ | ⟨value, hreturned, hcountable⟩
    · exact Or.inl ⟨e, .call hprepared hne hbreaks⟩
    · exact Or.inr ⟨_, .submitted hprepared hne hreturned hcountable⟩

end Delivery

end MarkupCompiler
