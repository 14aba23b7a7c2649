import MarkupCompiler.Proofs.Delivery.Stop
import MarkupCompiler.Proofs.Request.Written
import MarkupCompiler.Tool

/-!
# What tools answer

A tool that is given a text as markup and an index that can be put on record answers with a text, if
the settings of its server could be loaded: their check of the indent is that of a configuration.
The answer shows what the conversion or the insertion came to, and whatever stopped it, the answer
ends with the message of its error. A conversion does nothing with the service.
-/

namespace MarkupCompiler

/-! ## Settings that were loaded -/

theorem Settings.exists_readIndent {env : Environment} {settings : Settings}
    (h : ofEnvironment env = .ok settings) : ∃ raw, readIndent raw = .ok settings.listIndent := by
  unfold ofEnvironment at h
  cases hlevel : readLevel (valueOf env "GDOCS_COMPILER_LOG_LEVEL" "INFO") with
  | error fault => rw [hlevel] at h; cases h
  | ok level =>
    cases hindent : readIndent (valueOf env "GDOCS_COMPILER_LIST_INDENT_PT" "36.0") with
    | error fault => rw [hlevel, hindent] at h; cases h
    | ok indent =>
      cases htransport : readTransport (valueOf env "GDOCS_COMPILER_TRANSPORT" "stdio") with
      | error fault => rw [hlevel, hindent, htransport] at h; cases h
      | ok transport =>
        rw [hlevel, hindent, htransport] at h
        cases h
        exact ⟨_, hindent⟩

theorem Settings.not_neg_of_readIndent {raw : String} {x : Float} (h : readIndent raw = .ok x) :
    ¬x < 0 := by
  unfold readIndent at h
  split at h
  · cases h
  · split at h
    · cases h
    · next hneg =>
      cases h
      exact hneg

/-- An environment may set the indent and leave all else to the defaults. -/
theorem Settings.ofEnvironment_of_indent {raw : String} {x : Float} (h : readIndent raw = .ok x) :
    ofEnvironment [("GDOCS_COMPILER_LIST_INDENT_PT", raw)] = .ok
      { serverName := "GDocs HTML Compiler", logLevel := "INFO", listIndent := x
        transport := .stdio, credentials? := none } := by
  have hlevel : readLevel "INFO" = .ok "INFO" := by decide +kernel
  have htransport : readTransport "stdio" = .ok .stdio := by decide +kernel
  have hset : valueOf [("GDOCS_COMPILER_LIST_INDENT_PT", raw)] "GDOCS_COMPILER_LIST_INDENT_PT"
      "36.0" = raw := rfl
  have hdefault : ∀ name ∈ ["GDOCS_COMPILER_LOG_LEVEL", "GDOCS_COMPILER_TRANSPORT"], ∀ default,
      valueOf [("GDOCS_COMPILER_LIST_INDENT_PT", raw)] name default = default := by
    intro name hname default
    rw [valueOf, List.lookup_cons]
    rcases List.mem_pair.mp hname with rfl | rfl <;> rfl
  rw [ofEnvironment, hdefault _ (by simp), hlevel, hset, h, hdefault _ (by simp), htransport]
  rfl

/-- Settings that were loaded make a configuration. -/
theorem Tool.config_of_loaded {env : Environment} {settings : Settings}
    (h : Settings.ofEnvironment env = .ok settings) :
    config settings = .ok { listIndent := settings.listIndent } := by
  obtain ⟨raw, hraw⟩ := Settings.exists_readIndent h
  exact if_neg (Settings.not_neg_of_readIndent hraw)

/-! ## Requests in an answer -/

/-- Requests come from an index that is an integer. -/
theorem Generator.exists_start_of_ok {blocks : List Block} {start : Json} {g : Generator}
    {requests : List Request} (h : (generate blocks start g).1 = .ok requests) :
    ∃ n : Int, start = .int n := by
  cases start with
  | int n => exact ⟨n, rfl⟩
  | _ => cases h

/-- The requests of a conversion can be written. -/
theorem Converter.isWritable_of_compile {frontEnds : FrontEnds} {config : Config}
    {kind : MarkupKind} {source start : Json} {requests : List Request}
    (h : compile frontEnds config kind source start = .ok requests) :
    (Request.listToJson requests).isWritable = true := by
  unfold compile at h
  split at h
  · cases h
  · split at h
    · cases h
    · next blocks _ =>
      have hresult := Except.mapError_eq_ok_iff.mp h
      obtain ⟨n, rfl⟩ := Generator.exists_start_of_ok hresult
      exact Generator.isWritable_of_generate (Prod.ext hresult rfl)

namespace Tool

/-- A text that shows requests: a reader that knows infinities finds them in it, and a reader that
does not know them finds the requests unless there is one. -/
structure Shows (requests : List Request) (text : String) : Prop where
  extended : Json.parse? .extended text.toList = some (Request.listToJson requests)
  standard : Json.parse? .standard text.toList =
    if (Request.listToJson requests).isReadable .standard then some (Request.listToJson requests)
    else none

theorem exists_dumped {requests : List Request}
    (h : (Request.listToJson requests).isWritable = true) :
    ∃ text, dumped (Request.listToJson requests) = .ok text ∧ Shows requests text := by
  have hread : ∀ dialect, Json.parse? dialect (Request.listToJson requests).pretty.toList = _ :=
    fun _ => Json.parse?_write .indented (Request.namesDistinct_listToJson requests)
  refine ⟨_, if_pos h, ?_, hread .standard⟩
  rw [hread .extended, Json.isReadable_extended, if_pos h]

/-! ## Calls -/

/-- The arguments of a call by name, where the index may be left out. -/
def arguments (tool : Tool) (documentId markup : String) (index? : Option Json) :
    List (String × Json) :=
  let index := (index?.map fun index => (tool.parameters.2, index)).toList
  match tool with
  | .convert kind => (markupParameter kind, .str markup) :: index
  | .insert kind => ("document_id", .str documentId) :: (markupParameter kind, .str markup) :: index

section

variable (frontEnds : FrontEnds) (kind : MarkupKind) (settings : Settings)
  (connection : Except CompilerError Service) (documentId markup : String) (index? : Option Json)

theorem answer_convert :
    answer frontEnds (.convert kind) settings connection
        ((Tool.convert kind).arguments documentId markup index?) =
      convertAnswer frontEnds settings kind (.str markup) (index?.getD (.int 1)) := by
  cases kind <;> cases index? <;> rfl

theorem answer_insert :
    answer frontEnds (.insert kind) settings connection
        ((Tool.insert kind).arguments documentId markup index?) =
      insertAnswer frontEnds settings kind connection (.str documentId) (.str markup)
        (index?.getD (.int 1)) := by
  cases kind <;> cases index? <;> rfl

end

theorem errorText_eq (tool : Tool) (e : CompilerError) :
    tool.errorText e = s!"Error: {tool.name} failed: {e.message}" := by
  show "Error: " ++ (tool.name ++ " failed: " ++ e.message) =
    "Error: " ++ tool.name ++ " failed: " ++ e.message
  simp only [String.append_assoc]

theorem recorded_of_writable {shown : List Json} (h : ∀ v ∈ shown, v.isWritable = true) :
    recorded shown = .ok () := if_pos (List.all_eq_true.mpr h)

theorem recorded_of_unwritable {shown : List Json} {v : Json} (hv : v ∈ shown)
    (h : v.isWritable = false) :
    recorded shown = .error (.foreign IntegerFault.unwritable.message) := by
  refine if_neg fun hall => ?_
  rw [List.all_eq_true.mp hall v hv] at h
  exact Bool.false_ne_true h.symm

/-! ## What a call comes to -/

section

variable (frontEnds : FrontEnds) (config : Config) (connection : Except CompilerError Service)
  (documentId markup : String) (index : Json)

/-- The text of a tool that does what it is asked for. -/
inductive Succeeds : Tool → String → Prop
  | convert {kind : MarkupKind} {requests : List Request} {text : String}
    (h : Converter.compile frontEnds config kind (.str markup) index = .ok requests)
    (hshows : Shows requests text) :
    Succeeds (.convert kind) text
  | insert {kind : MarkupKind} {service : Service} {text : String}
    (hservice : connection = .ok service)
    (h : Delivery.Confirms frontEnds config kind documentId markup index service text) :
    Succeeds (.insert kind) text

/-- The error of a tool that is kept from what it is asked for. -/
inductive Fails : Tool → CompilerError → Prop
  | convert {kind : MarkupKind} {e : CompilerError}
    (h : Converter.Refuses frontEnds config kind markup index e) :
    Fails (.convert kind) e
  | unreachable {kind : MarkupKind} {e : CompilerError} (h : connection = .error e) :
    Fails (.insert kind) e
  | insert {kind : MarkupKind} {service : Service} {e : CompilerError}
    (hservice : connection = .ok service)
    (h : Delivery.Stops frontEnds config kind documentId markup index service e) :
    Fails (.insert kind) e

/-- The calls of a tool: those of the insertion, if the service is reached. -/
def callsOf : Tool → List ServiceCall
  | .convert _ => []
  | .insert kind =>
    match connection with
    | .error _ => []
    | .ok service =>
      (Delivery.insert frontEnds config kind (.str documentId) (.str markup) index service).calls

/-- An answer holds the text of a tool that does what it is asked for, or else that of its error. -/
structure Tells (tool : Tool) (a : ToolAnswer) : Prop where
  settled : Succeeds frontEnds config connection documentId markup index tool a.text ∨
    ∃ e, Fails frontEnds config connection documentId markup index tool e
  failure : ∀ e, Fails frontEnds config connection documentId markup index tool e →
    a.text = s!"Error: {tool.name} failed: {e.message}"
  calls : a.calls = callsOf frontEnds config connection documentId markup index tool

end

section

variable {settings : Settings} {config : Config} {index : Json}

theorem exists_convertText (hconfig : config.HoldsStyles) (frontEnds : FrontEnds)
    (kind : MarkupKind) (connection : Except CompilerError Service) (documentId markup : String)
    (hwritten : index.isWritable = true) :
    ∃ text, convertText frontEnds config kind (.str markup) index = .ok text ∧
      Tells frontEnds config connection documentId markup index (.convert kind) { text := text } := by
  rw [convertText]
  rcases Converter.refuses_or_compiles hconfig frontEnds kind markup index with
    ⟨e, hrefuses⟩ | ⟨requests, hcompiled⟩
  · refine ⟨_, by rw [hrefuses.compile_eq hwritten], Or.inr ⟨e, .convert hrefuses⟩, ?_, rfl⟩
    rintro e' ⟨hrefuses'⟩
    have heq := (hrefuses.compile_eq hwritten).symm.trans (hrefuses'.compile_eq hwritten)
    obtain rfl := Except.error.inj heq
    exact errorText_eq _ e
  · obtain ⟨text, hdumped, hshows⟩ := exists_dumped (Converter.isWritable_of_compile hcompiled)
    refine ⟨text, by rw [hcompiled]; exact hdumped, Or.inl (.convert hcompiled hshows), ?_, rfl⟩
    rintro e ⟨hrefuses⟩
    cases hcompiled.symm.trans (hrefuses.compile_eq hwritten)

theorem insertAnswer_of_writable (hsettings : Tool.config settings = .ok config)
    (frontEnds : FrontEnds) (kind : MarkupKind) (service : Service) (documentId : String)
    (source : Json) (hwritten : index.isWritable = true) :
    insertAnswer frontEnds settings kind (.ok service) (.str documentId) source index =
      relayed kind
        (Delivery.insert frontEnds config kind (.str documentId) source index service) := by
  have hrecorded : recorded [.str documentId, index] = .ok () :=
    recorded_of_writable (by simp [hwritten, Json.isWritable])
  rw [insertAnswer, hrecorded, hsettings]
  rfl

theorem insertAnswer_tells (hsettings : Tool.config settings = .ok config)
    (hconfig : config.HoldsStyles) (frontEnds : FrontEnds) (kind : MarkupKind)
    (connection : Except CompilerError Service) (documentId markup : String)
    (hwritten : index.isWritable = true) :
    ∃ a, insertAnswer frontEnds settings kind connection (.str documentId) (.str markup) index =
        .ok a ∧
      Tells frontEnds config connection documentId markup index (.insert kind) a := by
  cases connection with
  | error e =>
    have hrecorded : recorded [.str documentId, index] = .ok () :=
      recorded_of_writable (by simp [hwritten, Json.isWritable])
    refine ⟨{ text := errorText (.insert kind) e }, by rw [insertAnswer, hrecorded]; rfl,
      Or.inr ⟨e, .unreachable rfl⟩, ?_, rfl⟩
    intro e' hfails
    cases hfails with
    | unreachable h =>
      cases h
      exact errorText_eq _ e
    | insert hservice => cases hservice
  | ok service =>
    rw [insertAnswer_of_writable hsettings frontEnds kind service documentId _ hwritten, relayed]
    rcases Delivery.stops_or_confirms hconfig frontEnds kind documentId markup hwritten service with
      ⟨e, hstops⟩ | ⟨text, hconfirms⟩
    · rw [hstops.answer_eq hwritten]
      refine ⟨_, rfl, Or.inr ⟨e, .insert rfl hstops⟩, ?_, rfl⟩
      intro e' hfails
      cases hfails with
      | unreachable h => cases h
      | insert hservice hstops' =>
        cases hservice
        have heq := (hstops.answer_eq hwritten).symm.trans (hstops'.answer_eq hwritten)
        obtain rfl := Raised.family.inj (Except.error.inj heq)
        exact errorText_eq _ e
    · rw [hconfirms.answer_eq]
      refine ⟨_, rfl, Or.inl (.insert rfl hconfirms), ?_, rfl⟩
      intro e hfails
      cases hfails with
      | unreachable h => cases h
      | insert hservice hstops =>
        cases hservice
        cases hconfirms.answer_eq.symm.trans (hstops.answer_eq hwritten)

theorem convertAnswer_of_convertText (hsettings : Tool.config settings = .ok config)
    {frontEnds : FrontEnds} {kind : MarkupKind} {markup text : String}
    (hwritten : index.isWritable = true)
    (h : convertText frontEnds config kind (.str markup) index = .ok text) :
    convertAnswer frontEnds settings kind (.str markup) index = .ok { text := text } := by
  have hrecorded : recorded [index] = .ok () := recorded_of_writable (by simpa using hwritten)
  simp only [convertAnswer, hasLength, if_true, hrecorded, hsettings]
  show (convertText frontEnds config kind (.str markup) index >>= fun text => _) = _
  rw [h]
  rfl

theorem convertAnswer_of_unwritable (hlong : index.isWritable = false) (frontEnds : FrontEnds)
    (settings : Settings) (kind : MarkupKind) (markup : String) :
    convertAnswer frontEnds settings kind (.str markup) index =
      .error (.foreign IntegerFault.unwritable.message) := by
  simp only [convertAnswer, hasLength, if_true,
    recorded_of_unwritable (List.mem_singleton_self index) hlong]
  rfl

theorem insertAnswer_of_unwritable (hlong : index.isWritable = false) (frontEnds : FrontEnds)
    (settings : Settings) (kind : MarkupKind) (connection : Except CompilerError Service)
    (documentId source : Json) :
    insertAnswer frontEnds settings kind connection documentId source index =
      .error (.foreign IntegerFault.unwritable.message) := by
  have hmem : index ∈ [documentId, index] := List.mem_cons_of_mem _ (List.mem_singleton_self index)
  unfold insertAnswer
  rw [recorded_of_unwritable hmem hlong]
  rfl

end

/--
Every call of a tool with a text as markup, an index and, for an insertion, an identifier is
answered with a text, once the settings are loaded, whatever the front ends and the service do and
if the index can be put on record. The answer shows the requests that the markup gives under the
configured indent, so that they can be read back, or it is the confirmation of the insertion. If
anything stops the tool, be it an unreachable service, the input or the call, the answer names the
tool and gives the message of that very error. The calls are those of the insertion; a conversion
makes none and is the same for every service. With an index that is too long to be put on record there is no answer.
-/
theorem answer_tells {env : Environment} {settings : Settings}
    (hsettings : Settings.ofEnvironment env = .ok settings) (frontEnds : FrontEnds) (tool : Tool)
    (connection : Except CompilerError Service) (documentId markup : String)
    (index? : Option Json) :
    let config : Config := { listIndent := settings.listIndent }
    let arguments := tool.arguments documentId markup index?
    let index := index?.getD (.int 1)
    (index.isWritable = true →
      ∃ a, tool.answer frontEnds settings connection arguments = .ok a ∧
        Tells frontEnds config connection documentId markup index tool a ∧
        ∀ kind, tool = .convert kind →
          a.calls = [] ∧ ∀ other, tool.answer frontEnds settings other arguments = .ok a) ∧
      (index.isWritable = false →
        tool.answer frontEnds settings connection arguments = .error (.foreign
          ("Exceeds the limit (4300 digits) for integer string conversion; " ++
            "use sys.set_int_max_str_digits() to increase the limit"))) := by
  intro config arguments index
  have hconfig : Tool.config settings = .ok config := config_of_loaded hsettings
  have hstyles : config.HoldsStyles := ⟨rfl, rfl, rfl⟩
  cases tool with
  | convert kind =>
    have hanswer := fun connection =>
      answer_convert frontEnds kind settings connection documentId markup index?
    refine ⟨fun hwritten => ?_, fun hlong => ?_⟩
    · obtain ⟨text, htext, htells⟩ :=
        exists_convertText hstyles frontEnds kind connection documentId markup hwritten
      have hconverted := convertAnswer_of_convertText hconfig hwritten htext
      refine ⟨_, (hanswer connection).trans hconverted, htells, ?_⟩
      rintro _ ⟨⟩
      exact ⟨rfl, fun other => (hanswer other).trans hconverted⟩
    · exact (hanswer connection).trans
        (convertAnswer_of_unwritable hlong frontEnds settings kind markup)
  | insert kind =>
    have hanswer := answer_insert frontEnds kind settings connection documentId markup index?
    refine ⟨fun hwritten => ?_, fun hlong => ?_⟩
    · obtain ⟨a, ha, htells⟩ :=
        insertAnswer_tells hconfig hstyles frontEnds kind connection documentId markup hwritten
      refine ⟨a, hanswer.trans ha, htells, ?_⟩
      rintro _ ⟨⟩
    · exact hanswer.trans
        (insertAnswer_of_unwritable hlong frontEnds settings kind connection _ _)

/-- A heading in Markdown, submitted to a service that cannot be reached any more. -/
theorem answer_tells_crashed :
    let env : Environment := [("GDOCS_COMPILER_LIST_INDENT_PT", "18")]
    let settings : Settings :=
      { serverName := "GDocs HTML Compiler", logLevel := "INFO", listIndent := 18.0
        transport := .stdio, credentials? := none }
    let service : Service := fun _ => .crashed "no route"
    Settings.ofEnvironment env = .ok settings ∧ (Json.int 1).isWritable = true ∧
      ∃ a, answer .standard (.insert .markdown) settings (.ok service)
          ((Tool.insert .markdown).arguments " d-1 " "# T" none) = .ok a ∧
        a.text = "Error: insert_markdown_into_doc failed: " ++
          "An unexpected error occurred in batch_update_doc: no route" := by
  intro env settings service
  have hsettings : Settings.ofEnvironment env = .ok settings :=
    Settings.ofEnvironment_of_indent (by decide +kernel)
  have hid : Input.documentId "document_id" (.str " d-1 ") = .ok "d-1" := by decide +kernel
  have hwritten : IntegerText.isWritable 1 = true := by decide +kernel
  have hcompiled :
      Converter.compile .standard { listIndent := 18.0 } .markdown (.str "# T") (.int 1) =
        .ok [.insertText 1 ['T', '\n'],
          .setParagraphStyle 1 3 { namedStyle := some "HEADING_1" }] := by
    decide +kernel
  have hprepared : Delivery.Prepared .standard { listIndent := 18.0 } .markdown (.str " d-1 ")
      (.str "# T") (.int 1) "d-1" 1 _ :=
    ⟨Input.documentId_eq_ok_iff.mp hid, ⟨rfl, by decide⟩, hwritten, hcompiled⟩
  obtain ⟨a, ha, htells, -⟩ := (answer_tells hsettings .standard (.insert .markdown) (.ok service)
    " d-1 " "# T" none).1 hwritten
  have hstops : Delivery.Stops .standard { listIndent := 18.0 } .markdown " d-1 " "# T" (.int 1)
      service _ := .call hprepared (List.cons_ne_nil _ _) (.crashed "no route")
  exact ⟨hsettings, hwritten, a, ha, htells.failure _ (.insert rfl hstops)⟩

/-- A conversion gives no answer if its index is too long, and an answer that is no JSON if the
configured indent is infinite. -/
theorem answers_missing_or_unreadable :
    let env : Environment := [("GDOCS_COMPILER_LIST_INDENT_PT", "inf")]
    let settings : Settings :=
      { serverName := "GDocs HTML Compiler", logLevel := "INFO", listIndent := 1.0 / 0.0
        transport := .stdio, credentials? := none }
    let tool : Tool := .convert .html
    let answered (index : Int) := tool.answer .standard settings (.error noCredentials)
      (tool.arguments "" "<ul><ul><li>a</li></ul></ul>" (some (.int index)))
    Settings.ofEnvironment env = .ok settings ∧
      answered IntegerText.bound = .error (.foreign IntegerFault.unwritable.message) ∧
      ∃ a, answered 1 = .ok a ∧ Json.parse? .standard a.text.toList = none := by
  intro env settings tool answered
  have hsettings : Settings.ofEnvironment env = .ok settings :=
    Settings.ofEnvironment_of_indent (by decide +kernel)
  have hcompiled : Converter.compile .standard { listIndent := 1.0 / 0.0 } .html
      (.str "<ul><ul><li>a</li></ul></ul>") (.int 1) =
        .ok [.insertText 1 ['a', '\n'],
          .setParagraphStyle 1 3 { namedStyle := some "NORMAL_TEXT" },
          .setListBullet 1 2 false,
          .setParagraphStyle 1 3
            { indentStart := some (1.0 / 0.0), indentFirstLine := some (1.0 / 0.0) }] := by
    decide +kernel
  have hunwritable : (Json.int IntegerText.bound).isWritable = false := by decide +kernel
  have hwritable : (Json.int 1).isWritable = true := by decide +kernel
  refine ⟨hsettings, ?_, ?_⟩
  · exact (answer_convert ..).trans (convertAnswer_of_unwritable hunwritable _ _ _ _)
  · obtain ⟨text, hdumped, hshows⟩ := exists_dumped (Converter.isWritable_of_compile hcompiled)
    have htext : convertText .standard { listIndent := 1.0 / 0.0 } .html
        (.str "<ul><ul><li>a</li></ul></ul>") (.int 1) = .ok text := by
      rw [convertText, hcompiled]
      exact hdumped
    have hconverted := convertAnswer_of_convertText (config_of_loaded hsettings) hwritable htext
    refine ⟨_, (answer_convert ..).trans hconverted, ?_⟩
    rw [hshows.standard]
    decide +kernel

end Tool

end MarkupCompiler
