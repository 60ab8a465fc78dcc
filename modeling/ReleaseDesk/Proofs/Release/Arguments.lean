import ReleaseDesk.Proofs.Wire.Conveyance
import ReleaseDesk.Release.Tools

/-! The arguments of the step tools. The encoding of an input decodes as this input, null and absent
arguments decode as the default input, and other arguments are refused with a message. Every value
of the arguments has exactly one of these meanings, and the tool implements it. -/

namespace ReleaseDesk.Release

open ReleaseDesk.Wire ReleaseDesk.Wire.Fields ReleaseDesk.Text

/-! ### Inputs -/

theorem PlanInput.conveys (a : PlanInput) : PlanInput.codec.Conveys a a := by
  have hfields : PlanInput.record.fields.Conveys ["from", "analyze"] a a :=
    ((conveys_nothing a PlanInput.mk).both (conveys_explicit a "from")).both
      (conveys_defaulted (Codec.conveys_bool a.analyze) "analyze" false)
  exact Record.conveys hfields (by decide)

theorem NotesInput.conveys (a : NotesInput) : NotesInput.codec.Conveys a a := by
  have hfields : NotesInput.record.fields.Conveys ["ai", "include_all"] a a :=
    ((conveys_nothing a NotesInput.mk).both
      (conveys_defaulted (Codec.conveys_bool a.ai) "ai" false)).both
      (conveys_defaulted (Codec.conveys_bool a.includeAll) "include_all" false)
  exact Record.conveys hfields (by decide)

theorem EvaluateInput.conveys (a : EvaluateInput) : EvaluateInput.codec.Conveys a a := by
  have hfields : EvaluateInput.record.fields.Conveys [] a a := conveys_nothing a a
  exact Record.conveys hfields (by decide)

theorem ApproveInput.conveys (a : ApproveInput) : ApproveInput.codec.Conveys a a := by
  have hfields : ApproveInput.record.fields.Conveys ["approver", "notes"] a a :=
    ((conveys_nothing a ApproveInput.mk).both (conveys_explicit a "approver")).both
      (conveys_explicit a "notes")
  exact Record.conveys hfields (by decide)

theorem PublishInput.conveys (a : PublishInput) : PublishInput.codec.Conveys a a := by
  have hfields : PublishInput.record.fields.Conveys ["dry_run"] a a :=
    (conveys_nothing a PublishInput.mk).both
      (conveys_defaulted (Codec.conveys_bool a.dryRun) "dry_run" false)
  exact Record.conveys hfields (by decide)

theorem BumpArguments.conveys (a : BumpArguments) :
    BumpArguments.record.codec.Conveys a a := by
  have hfields : BumpArguments.record.fields.Conveys ["bump", "prerelease", "dry_run"] a a :=
    (((conveys_nothing a BumpArguments.mk).both (conveys_explicit a "bump")).both
      (conveys_explicit a "prerelease")).both
      (conveys_defaulted (Codec.conveys_bool a.dryRun) "dry_run" false)
  exact Record.conveys hfields (by decide)

/-- The arguments as which the input of a bump is encoded, with the kind as a text. -/
def BumpInput.arguments (a : BumpInput) : BumpArguments :=
  { bump := some a.bump.name, prerelease := a.prerelease, dryRun := a.dryRun }

theorem BumpInput.toJson_eq (a : BumpInput) :
    BumpInput.codec.toJson a = BumpArguments.record.codec.toJson a.arguments := rfl

/-! ### Kinds of bump -/

namespace BumpKind

theorem ofName?_eq_none {s : String} : choice.ofName? s = none ↔ s ∉ choice.names := by
  simp only [Choice.ofName?, Choice.names, List.find?_eq_none, List.mem_map, decide_eq_true_eq,
    not_exists, not_and]

theorem parse_name (k : BumpKind) : parse k.name = .ok k := by
  cases k <;> decide

/-- A nonempty lower-case text that names no kind is refused. -/
theorem parse_eq_error {s t : String} :
    parse s = .error t ↔ t = lowercase s ∧ lowercase s ∉ "" :: choice.names := by
  simp only [parse]
  split_ifs with hempty
  · simp [hempty]
  · rw [List.mem_cons, not_or, ← ofName?_eq_none]
    cases h : choice.ofName? (lowercase s) with
    | some k => simp
    | none => simp [hempty, eq_comm]

end BumpKind

/-! ### Meanings -/

namespace Step

def defaultInput : (s : Step) → s.Input
  | status => ()
  | plan => {}
  | bump => {}
  | notes => {}
  | evaluate => {}
  | approve => {}
  | publish => {}

def undecodable (fault : Fault) : String := "invalid arguments: " ++ fault.message

/-- The meaning of arguments for a step: an input or an error message. The arguments of a bump
decode with a text for the kind, which must name one in any case. -/
inductive Means : (s : Step) → Option Json → Except String s.Input → Prop
  | absent (s : Step) : Means s none (.ok s.defaultInput)
  | null (s : Step) : Means s (some .null) (.ok s.defaultInput)
  | written (s : Step) (input : s.Input) : Means s (some (s.input.toJson input)) (.ok input)
  | anything (v : Json) : Means .status (some v) (.ok ())
  | decoded {s : Step} {v : Json} {input : s.Input} (hs : s ≠ .bump) (hv : v ≠ .null)
    (h : s.input.ofJson v = .ok input) : Means s (some v) (.ok input)
  | undecoded {s : Step} {v : Json} {fault : Fault} (hs : s ≠ .bump) (hv : v ≠ .null)
    (h : s.input.ofJson v = .error fault) : Means s (some v) (.error (undecodable fault))
  | bumpDecoded {v : Json} {a : BumpArguments} {kind : BumpKind} (hv : v ≠ .null)
    (h : BumpArguments.record.codec.ofJson v = .ok a)
    (hkind : BumpKind.parse (a.bump.getD "") = .ok kind) :
    Means .bump (some v) (.ok { bump := kind, prerelease := a.prerelease, dryRun := a.dryRun })
  | bumpUndecoded {v : Json} {fault : Fault} (hv : v ≠ .null)
    (h : BumpArguments.record.codec.ofJson v = .error fault) :
    Means .bump (some v) (.error (undecodable fault))
  | bumpUnnamed {v : Json} {a : BumpArguments} (hv : v ≠ .null)
    (h : BumpArguments.record.codec.ofJson v = .ok a)
    (hname : lowercase (a.bump.getD "") ∉ "" :: BumpKind.choice.names) :
    Means .bump (some v) (.error (badBump (lowercase (a.bump.getD ""))).message)

theorem readArguments_eq {v : Json} (hv : v ≠ .null) (c : Codec α) (a : α) :
    readArguments c a v = (c.ofJson v).mapError undecodable := by
  cases v <;> first | exact absurd rfl hv | rfl

theorem readInput_eq {s : Step} (hs : s ≠ .bump) {v : Json} (hv : v ≠ .null) :
    s.readInput v = (s.input.ofJson v).mapError undecodable := by
  cases s with
  | status => rfl
  | bump => exact absurd rfl hs
  | plan | notes | evaluate | approve | publish => exact readArguments_eq hv _ _

theorem readInput_bump {v : Json} (hv : v ≠ .null) :
    Step.bump.readInput v =
      ((BumpArguments.record.codec.ofJson v).mapError undecodable).bind BumpArguments.input := by
  rw [← readArguments_eq hv _ {}]
  rfl

theorem readInput_null (s : Step) : s.readInput .null = .ok s.defaultInput := by
  cases s with
  | bump =>
    have hauto : BumpKind.parse "" = .ok .auto := by decide
    have hinput : BumpArguments.input {} = .ok {} := by simp only [BumpArguments.input, Option.getD, hauto]
    exact hinput
  | status | plan | notes | evaluate | approve | publish => rfl

/-- A tool reads arguments and their normal form alike. -/
theorem readInput_normal (s : Step) (v : Json) : s.readInput v.normal = s.readInput v := by
  by_cases hv : v = .null
  · rw [hv]
    rfl
  have hv' : v.normal ≠ .null := fun heq => hv (Codec.normal_eq_null.mp heq)
  by_cases hs : s = .bump
  · subst hs
    rw [readInput_bump hv, readInput_bump hv', Codec.ofJson_normal]
  · rw [readInput_eq hs hv, readInput_eq hs hv', Codec.ofJson_normal]

theorem toJson_ne_null (s : Step) (input : s.Input) : s.input.toJson input ≠ .null := by
  cases s <;> exact Json.noConfusion

theorem ofJson_toJson {s : Step} (hs : s ≠ .bump) (input : s.Input) :
    s.input.ofJson (s.input.toJson input) = .ok input := by
  cases s with
  | status => rfl
  | plan => exact (PlanInput.conveys input).ofJson_toJson
  | bump => exact absurd rfl hs
  | notes => exact (NotesInput.conveys input).ofJson_toJson
  | evaluate => exact (EvaluateInput.conveys input).ofJson_toJson
  | approve => exact (ApproveInput.conveys input).ofJson_toJson
  | publish => exact (PublishInput.conveys input).ofJson_toJson

theorem readInput_bump_toJson (input : BumpInput) :
    Step.bump.readInput (BumpInput.codec.toJson input) = .ok input := by
  have hdecoded : BumpArguments.record.codec.ofJson (BumpInput.codec.toJson input) =
      .ok input.arguments := by
    rw [BumpInput.toJson_eq]
    exact input.arguments.conveys.ofJson_toJson
  have hkind : BumpKind.parse (input.arguments.bump.getD "") = .ok input.bump :=
    BumpKind.parse_name input.bump
  have hinput : input.arguments.input = .ok input := by
    rw [BumpArguments.input, hkind]
    rfl
  have hwritten : BumpInput.codec.toJson input ≠ .null := toJson_ne_null .bump input
  rw [readInput_bump hwritten, hdecoded]
  exact hinput

/-- The encoding of an input is read as this input. -/
theorem readInput_toJson (s : Step) (input : s.Input) :
    s.readInput (s.input.toJson input) = .ok input := by
  by_cases hs : s = .bump
  · subst hs
    exact readInput_bump_toJson input
  · rw [readInput_eq hs (toJson_ne_null s input), ofJson_toJson hs]
    rfl

/-- The tool of a step reads arguments as what they mean, and the meaning is unique. -/
theorem means_iff {s : Step} {arguments : Option Json} {meaning : Except String s.Input} :
    Means s arguments meaning ↔ s.readInput (arguments.getD .null) = meaning := by
  constructor
  · intro h
    cases h with
    | absent | null => exact readInput_null s
    | written _ input => exact readInput_toJson s input
    | anything v => rfl
    | decoded hs hv h | undecoded hs hv h =>
      rw [Option.getD_some, readInput_eq hs hv, h]
      rfl
    | bumpDecoded hv h hkind =>
      rw [Option.getD_some, readInput_bump hv, h]
      simp only [Except.mapError, Except.bind, BumpArguments.input, hkind]
    | bumpUndecoded hv h =>
      rw [Option.getD_some, readInput_bump hv, h]
      rfl
    | bumpUnnamed hv h hname =>
      rw [Option.getD_some, readInput_bump hv, h]
      simp only [Except.mapError, Except.bind, BumpArguments.input,
        BumpKind.parse_eq_error.mpr ⟨rfl, hname⟩]
  · rintro rfl
    cases arguments with
    | none =>
      rw [Option.getD_none, readInput_null]
      exact .absent s
    | some v =>
      rw [Option.getD_some]
      by_cases hv : v = .null
      · subst hv
        rw [readInput_null]
        exact .null s
      by_cases hs : s = .bump
      · subst hs
        rw [readInput_bump hv]
        cases h : BumpArguments.record.codec.ofJson v with
        | error fault => exact .bumpUndecoded hv h
        | ok a =>
          simp only [Except.mapError, Except.bind, BumpArguments.input]
          cases hkind : BumpKind.parse (a.bump.getD "") with
          | ok kind => exact .bumpDecoded hv h hkind
          | error text =>
            obtain ⟨rfl, hname⟩ := BumpKind.parse_eq_error.mp hkind
            exact .bumpUnnamed hv h hname
      · rw [readInput_eq hs hv]
        cases h : s.input.ofJson v with
        | error fault => exact .undecoded hs hv h
        | ok input => exact .decoded hs hv h

example : Step.bump.Means (some (.object [("bump", .string "MAJOR"), ("dry_run", .bool true)]))
    (.ok { bump := .major, dryRun := true }) := means_iff.mpr rfl

end Step

end ReleaseDesk.Release
