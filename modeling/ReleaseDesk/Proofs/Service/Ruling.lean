import ReleaseDesk.Proofs.Service.Catalogue
import ReleaseDesk.Proofs.Service.Invocation

/-! The possible outcomes of dispatch. A request names something unknown, has malformed parameters,
is for a prompt and lacks arguments, is answered by the dispatcher, or is for a handler; the
predicates below define the five cases from the method and the parameters, and determine how the
request is carried out. -/

namespace ReleaseDesk.Service

open ReleaseDesk.Protocol ReleaseDesk.Wire

/-! ### Parameters -/

/-- Parameters that do not decode as the record, with the error message. -/
inductive Unreadable (record : Record α) : Option Json → String → Prop
  | absent : Unreadable record none "Missing params"
  | null : Unreadable record (some .null) (Fault.invalidType .null record.title).message
  | undecodable {v : Json} {fault : Fault} (h : record.codec.ofJson v = .error fault) :
    Unreadable record (some v) fault.message

theorem readParams_error {record : Record α} {params : Option Json} {fault : Rpc.Fault} :
    readParams record.codec params = .error fault ↔
      ∃ detail, Unreadable record params detail ∧ fault = .invalidParams detail := by
  constructor
  · intro h
    cases params with
    | none =>
      cases h
      exact ⟨_, .absent, rfl⟩
    | some v =>
      cases hv : record.codec.ofJson v with
      | ok a =>
        rw [readParams, hv] at h
        cases h
      | error cause =>
        rw [readParams, hv] at h
        cases h
        exact ⟨_, .undecodable hv, rfl⟩
  · rintro ⟨detail, hdetail, rfl⟩
    cases hdetail with
    | absent => rfl
    | null => rfl
    | undecodable h =>
      rw [readParams, h]
      rfl

theorem readable_or (record : Record α) (params : Option Json) :
    (∃ a, readParams record.codec params = .ok a) ∨ ∃ detail, Unreadable record params detail := by
  cases h : readParams record.codec params with
  | ok a => exact .inl ⟨a, rfl⟩
  | error fault =>
    obtain ⟨detail, hdetail, -⟩ := readParams_error.mp h
    exact .inr ⟨detail, hdetail⟩

/-- The missing arguments are the required ones that are not given, in the order of the prompt. -/
theorem missing_eq (p : Prompt) (given : List (String × String)) :
    p.missing given = ((p.arguments.getD []).filter fun a =>
      a.required = some true ∧ a.name ∉ given.map (·.1)).map (·.name) := by
  unfold Prompt.missing
  congr 2
  funext a
  rw [Bool.decide_and, decide_not]
  congr 2
  rw [Bool.eq_iff_iff]
  simp [List.any_eq_true]

theorem missing_eq_nil {p : Prompt} {given : List (String × String)} :
    p.missing given = [] ↔
      ∀ a ∈ p.arguments.getD [], a.required = some true → a.name ∈ given.map (·.1) := by
  rw [missing_eq, List.map_eq_nil_iff, List.filter_eq_nil_iff]
  simp only [decide_eq_true_eq, not_and, not_not]

namespace Dispatcher

theorem asked_of_read {codec : Codec α} {name : α → String} {params : Option Json} {a : α}
    (h : readParams codec params = .ok a) : (readParams codec params).toOption.map name = some (name a) := by
  rw [h]
  rfl

theorem withParams_of_unreadable {record : Record α} {params : Option Json} {detail : String}
    (h : Unreadable record params detail) (go : α → Action ω (Except Rpc.Fault Json)) :
    withParams record.codec params go = pure (.error (.invalidParams detail)) := by
  rw [withParams, readParams_error.mpr ⟨detail, h, rfl⟩]

/-! ### Cases -/

def builtIn : List String :=
  ["initialize", "initialized", "notifications/initialized", "ping", "tools/list", "tools/call",
    "resources/list", "resources/read", "prompts/list", "prompts/get", "logging/setLevel"]

variable (o : Dispatcher ω)

/-- The server has the method: it is built in, and logging methods need the logging capability. -/
def Offers (name : String) : Prop :=
  name ∈ builtIn ∧ (name = "logging/setLevel" → o.capabilities.logging.isSome)

/-- The method decodes its parameters as a record. -/
inductive Takes : String → (α : Type) → Record α → Prop
  | greet : Takes "initialize" InitializeParams InitializeParams.record
  | call : Takes "tools/call" ToolCall ToolCall.record
  | read : Takes "resources/read" ResourceRead ResourceRead.record
  | fill : Takes "prompts/get" PromptFill PromptFill.record
  | level (hlogging : o.capabilities.logging.isSome) :
    Takes "logging/setLevel" LevelSetting LevelSetting.record

variable (name : String) (params : Option Json)

/-- The method, or the handler that a call names, is unknown. -/
inductive Unknown : String → Prop
  | method (h : ¬o.Offers name) : Unknown name
  | key {kind : Kind} {key : String} (hname : name = kind.callMethod)
    (hasked : kind.requestedKey? params = some key) (habsent : key ∉ (kind.table o.registry).keys) :
    Unknown key

/-- The parameters do not decode, with the error message. -/
def Malformed (detail : String) : Prop :=
  ∃ (α : Type) (record : Record α), o.Takes name α record ∧ Unreadable record params detail

/-- A prompt request that lacks the required arguments `names`. -/
def LacksArguments (names : List String) : Prop :=
  ∃ fill h, name = "prompts/get" ∧ readParams PromptFill.codec params = .ok fill ∧
    o.registry.prompts.get? fill.name = some h ∧ names ≠ [] ∧
    names = ((h.prompt.arguments.getD []).filter fun a =>
      a.required = some true ∧ a.name ∉ fill.arguments.map (·.1)).map (·.name)

/-- The dispatcher answers the request itself, with this result, and sets the level filter or leaves
it. -/
inductive Answers : Json → Option LogLevel → Prop
  | greet {greeting : InitializeParams} (hname : name = "initialize")
    (hread : readParams InitializeParams.codec params = .ok greeting) :
    Answers (Welcome.codec.toJson o.welcome) none
  | heard (hname : name ∈ ["initialized", "notifications/initialized", "ping"]) :
    Answers nothing none
  | list (kind : Kind) (hname : name = kind.listMethod) :
    Answers (kind.page (kind.listed o.registry)) none
  | level {setting : LevelSetting} (hname : name = "logging/setLevel")
    (hlogging : o.capabilities.logging.isSome)
    (hread : readParams LevelSetting.codec params = .ok setting) :
    Answers nothing (some setting.level)

/-- The request is for this handler. -/
inductive Invokes : Invocation ω → Prop
  | call {call : ToolCall} {h : ToolHandler ω} (hname : name = "tools/call")
    (hread : readParams ToolCall.codec params = .ok call)
    (hfound : o.registry.tools.get? call.name = some h) : Invokes (.call h call.arguments)
  | read {read : ResourceRead} {h : ResourceHandler ω} (hname : name = "resources/read")
    (hread : readParams ResourceRead.codec params = .ok read)
    (hfound : o.registry.resources.get? read.uri = some h) : Invokes (.read h)
  | fill {fill : PromptFill} {h : PromptHandler ω} (hname : name = "prompts/get")
    (hread : readParams PromptFill.codec params = .ok fill)
    (hfound : o.registry.prompts.get? fill.name = some h)
    (hgiven : ∀ a ∈ h.prompt.arguments.getD [], a.required = some true →
      a.name ∈ fill.arguments.map (·.1)) : Invokes (.fill h fill.arguments)

end Dispatcher

/-- What dispatch does with a request: refuse it, answer it, or invoke a handler. -/
inductive Ruling (ω : Type)
  | refuse (fault : Rpc.Fault)
  | answer (result : Json) (level : Option LogLevel)
  | ask (i : Invocation ω)

def Ruling.carryOut (c : Context) : Ruling ω → Action ω (Except Rpc.Fault Json)
  | refuse fault => pure (.error fault)
  | answer result level => do
    modify fun scene => { scene with level := level.getD scene.level }
    pure (.ok result)
  | ask i => handlerOutcome <$> i.perform c

namespace Dispatcher

/-- The case of a request. -/
inductive Rules (o : Dispatcher ω) (name : String) (params : Option Json) : Ruling ω → Prop
  | unknown {key : String} (h : o.Unknown name params key) :
    Rules o name params (.refuse (.methodNotFound key))
  | malformed {detail : String} (h : o.Malformed name params detail) :
    Rules o name params (.refuse (.invalidParams detail))
  | lacksArguments {names : List String} (h : o.LacksArguments name params names) :
    Rules o name params
      (.refuse (.invalidParams ("missing required arguments: " ++ ", ".intercalate names)))
  | answers {result : Json} {level : Option LogLevel} (h : o.Answers name params result level) :
    Rules o name params (.answer result level)
  | invokes {i : Invocation ω} (h : o.Invokes name params i) : Rules o name params (.ask i)

variable {o : Dispatcher ω} {name : String} {params : Option Json}

/-! ### Routes -/

theorem ofName?_eq_none {name : String} : Method.ofName? name = none ↔ name ∉ builtIn := by
  constructor
  · intro h hname
    simp only [builtIn, List.mem_cons, List.not_mem_nil, or_false] at hname
    rcases hname with rfl | rfl | rfl | rfl | rfl | rfl | rfl | rfl | rfl | rfl | rfl <;> cases h
  · intro h
    unfold Method.ofName?
    split <;> first | rfl | exact absurd (by decide) h

theorem method?_of_not_offers (h : ¬o.Offers name) : o.method? name = none := by
  by_cases hname : name ∈ builtIn
  · have hlevel : ¬(name = "logging/setLevel" → o.capabilities.logging.isSome) := fun hl => h ⟨hname, hl⟩
    obtain ⟨rfl, hlogging⟩ := Classical.not_imp.mp hlevel
    simp [method?, Method.ofName?, hlogging]
  · rw [method?, ofName?_eq_none.mpr hname, Option.filter_none]

theorem route_of_not_offers (h : ¬o.Offers name) (params : Option Json) (c : Context) :
    o.route name params c = pure (.error (.methodNotFound name)) := by
  rw [route, method?_of_not_offers h]

theorem method?_level (h : o.capabilities.logging.isSome) :
    o.method? "logging/setLevel" = some .setLevel := by
  simp [method?, Method.ofName?, h]

theorem route_level (h : o.capabilities.logging.isSome) (params : Option Json) (c : Context) :
    o.route "logging/setLevel" params c = o.carryOut params c .setLevel := by
  rw [route, method?_level h]

theorem route_of_takes {record : Record α} (h : o.Takes name α record) (params : Option Json)
    (c : Context) : ∃ go, o.route name params c = withParams record.codec params go := by
  cases h with
  | greet => exact ⟨_, rfl⟩
  | call => exact ⟨_, rfl⟩
  | read => exact ⟨_, rfl⟩
  | fill => exact ⟨_, rfl⟩
  | level hlogging => exact ⟨_, route_level hlogging params c⟩

theorem route_of_unknown {key : String} (h : o.Unknown name params key) (c : Context) :
    o.route name params c = pure (.error (.methodNotFound key)) := by
  cases h with
  | method h => exact route_of_not_offers h params c
  | key hname hasked habsent =>
    subst hname
    exact (route_call c hasked).1 (SortedMap.get?_eq_none.mpr habsent)

theorem route_of_malformed {detail : String} (h : o.Malformed name params detail) (c : Context) :
    o.route name params c = pure (.error (.invalidParams detail)) := by
  obtain ⟨α, record, htakes, hunreadable⟩ := h
  obtain ⟨go, hroute⟩ := route_of_takes htakes params c
  rw [hroute, withParams_of_unreadable hunreadable]

theorem route_of_lacksArguments {names : List String} (h : o.LacksArguments name params names) (c : Context) :
    o.route name params c =
      pure (.error (.invalidParams ("missing required arguments: " ++ ", ".intercalate names))) := by
  obtain ⟨fill, h, rfl, hread, hfound, hne, hnames⟩ := h
  have hroute : o.route "prompts/get" params c = o.getPrompt fill c := withParams_of_read hread _
  rw [hroute, getPrompt, hfound]
  dsimp only
  rw [missing_eq, ← hnames]
  cases names with
  | nil => exact absurd rfl hne
  | cons first rest => rfl

theorem route_of_answers {result : Json} {level : Option LogLevel}
    (h : o.Answers name params result level) (c : Context) :
    o.route name params c = (Ruling.answer result level).carryOut c := by
  cases h with
  | greet hname hread =>
    subst hname
    exact withParams_of_read hread _
  | heard hname =>
    simp only [List.mem_cons, List.not_mem_nil, or_false] at hname
    obtain rfl | rfl | rfl := hname <;> rfl
  | list kind hname =>
    subst hname
    exact route_list o kind params c
  | level hname hlogging hread =>
    subst hname
    exact (route_level hlogging params c).trans (withParams_of_read hread _)

theorem handled_map (codec : Codec α) (action : Action ω (Except Failure α)) :
    handled codec <$> action = handlerOutcome <$> (Except.map codec.toJson <$> action) := by
  rw [Functor.map_map]
  congr 1
  funext outcome
  exact handled_eq_told codec outcome

theorem route_of_invokes {i : Invocation ω} (h : o.Invokes name params i) (c : Context) :
    o.route name params c = (Ruling.ask i).carryOut c := by
  cases h with
  | @call call h hname hread hfound =>
    subst hname
    have hroute : o.route "tools/call" params c = o.callTool call c := withParams_of_read hread _
    rw [hroute, callTool, hfound]
    exact handled_map _ _
  | @read read h hname hread hfound =>
    subst hname
    have hroute : o.route "resources/read" params c = o.readResource read c := withParams_of_read hread _
    rw [hroute, readResource, hfound]
    exact handled_map _ _
  | @fill fill h hname hread hfound hgiven =>
    subst hname
    have hroute : o.route "prompts/get" params c = o.getPrompt fill c := withParams_of_read hread _
    rw [hroute, getPrompt, hfound]
    dsimp only
    rw [missing_eq_nil.mpr hgiven]
    exact handled_map _ _

/-- Dispatch carries out the ruling on the request. -/
theorem route_of_rules {ruling : Ruling ω} (h : o.Rules name params ruling) (c : Context) :
    o.route name params c = ruling.carryOut c := by
  cases h with
  | unknown h => exact route_of_unknown h c
  | malformed h => exact route_of_malformed h c
  | lacksArguments h => exact route_of_lacksArguments h c
  | answers h => exact route_of_answers h c
  | invokes h => exact route_of_invokes h c

/-! ### Completeness -/

theorem rules_call (o : Dispatcher ω) (params : Option Json) :
    ∃ ruling, o.Rules "tools/call" params ruling := by
  obtain ⟨call, hread⟩ | ⟨detail, hdetail⟩ := readable_or ToolCall.record params
  · cases hfound : o.registry.tools.get? call.name with
    | none =>
      have hasked : Kind.tool.requestedKey? params = some call.name := asked_of_read hread
      exact ⟨_, .unknown (.key rfl hasked (SortedMap.get?_eq_none.mp hfound))⟩
    | some h => exact ⟨_, .invokes (.call rfl hread hfound)⟩
  · exact ⟨_, .malformed ⟨_, _, .call, hdetail⟩⟩

theorem rules_read (o : Dispatcher ω) (params : Option Json) :
    ∃ ruling, o.Rules "resources/read" params ruling := by
  obtain ⟨read, hread⟩ | ⟨detail, hdetail⟩ := readable_or ResourceRead.record params
  · cases hfound : o.registry.resources.get? read.uri with
    | none =>
      have hasked : Kind.resource.requestedKey? params = some read.uri := asked_of_read hread
      exact ⟨_, .unknown (.key rfl hasked (SortedMap.get?_eq_none.mp hfound))⟩
    | some h => exact ⟨_, .invokes (.read rfl hread hfound)⟩
  · exact ⟨_, .malformed ⟨_, _, .read, hdetail⟩⟩

theorem rules_fill (o : Dispatcher ω) (params : Option Json) :
    ∃ ruling, o.Rules "prompts/get" params ruling := by
  obtain ⟨fill, hread⟩ | ⟨detail, hdetail⟩ := readable_or PromptFill.record params
  · cases hfound : o.registry.prompts.get? fill.name with
    | none =>
      have hasked : Kind.prompt.requestedKey? params = some fill.name := asked_of_read hread
      exact ⟨_, .unknown (.key rfl hasked (SortedMap.get?_eq_none.mp hfound))⟩
    | some h =>
      by_cases hnone : h.prompt.missing fill.arguments = []
      · exact ⟨_, .invokes (.fill rfl hread hfound (missing_eq_nil.mp hnone))⟩
      · exact ⟨_, .lacksArguments ⟨fill, h, rfl, hread, hfound, hnone, missing_eq _ _⟩⟩
  · exact ⟨_, .malformed ⟨_, _, .fill, hdetail⟩⟩

theorem exists_rules (o : Dispatcher ω) (name : String) (params : Option Json) :
    ∃ ruling, o.Rules name params ruling := by
  by_cases hoffers : o.Offers name
  · obtain ⟨hname, hlevel⟩ := hoffers
    simp only [builtIn, List.mem_cons, List.not_mem_nil, or_false] at hname
    rcases hname with rfl | rfl | rfl | rfl | rfl | rfl | rfl | rfl | rfl | rfl | rfl
    · obtain ⟨greeting, hread⟩ | ⟨detail, hdetail⟩ := readable_or InitializeParams.record params
      · exact ⟨_, .answers (.greet rfl hread)⟩
      · exact ⟨_, .malformed ⟨_, _, .greet, hdetail⟩⟩
    · exact ⟨_, .answers (.heard (by simp))⟩
    · exact ⟨_, .answers (.heard (by simp))⟩
    · exact ⟨_, .answers (.heard (by simp))⟩
    · exact ⟨_, .answers (.list .tool rfl)⟩
    · exact rules_call o params
    · exact ⟨_, .answers (.list .resource rfl)⟩
    · exact rules_read o params
    · exact ⟨_, .answers (.list .prompt rfl)⟩
    · exact rules_fill o params
    · obtain ⟨setting, hread⟩ | ⟨detail, hdetail⟩ := readable_or LevelSetting.record params
      · exact ⟨_, .answers (.level rfl (hlevel rfl) hread)⟩
      · exact ⟨_, .malformed ⟨_, _, .level (hlevel rfl), hdetail⟩⟩
  · exact ⟨_, .unknown (.method hoffers)⟩

end Dispatcher

end ReleaseDesk.Service
