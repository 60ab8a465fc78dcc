import ReleaseDesk.Plugin.Tools
import ReleaseDesk.Proofs.Release.Arguments
import ReleaseDesk.Proofs.Stream.Wire

/-! Arguments and summaries of hooks. Arguments request a hook if they can be decoded and name it.
The summary of a hook counts the successes and the failures, lists all outcomes in order, and is
decoded from its text. -/

namespace ReleaseDesk.Plugin

open ReleaseDesk.Json ReleaseDesk.Release ReleaseDesk.Wire ReleaseDesk.Wire.Fields

/-! ### Arguments -/

namespace Hook

theorem ofName?_eq_some_iff {s : String} {hook : Hook} : choice.ofName? s = some hook ↔ s = hook.name := by
  constructor
  · intro h
    have hname := List.find?_some h
    exact (of_decide_eq_true hname).symm
  · rintro rfl
    cases hook <;> decide

theorem parse_eq_ok_iff {s : String} {hook : Hook} : parse s = .ok hook ↔ s = hook.name := by
  rw [← ofName?_eq_some_iff, parse]
  cases choice.ofName? s <;> simp

end Hook

/-- The arguments request a hook, named exactly, with a description of the release. -/
def OrdersHook (arguments : Json) (hook : Hook) (context : ReleaseContext) : Prop :=
  HookArguments.record.codec.ofJson arguments = .ok { hook := hook.name, context }

theorem readHook_eq_ok_iff {v : Json} {hook : Hook} {context : ReleaseContext} :
    readHook v = .ok (hook, context) ↔ OrdersHook v hook context := by
  by_cases hv : v = .null
  · subst hv
    constructor
    · intro h
      cases h
    · intro h
      cases h
  · rw [readHook, Step.readArguments_eq hv, OrdersHook]
    cases hread : HookArguments.record.codec.ofJson v with
    | error fault =>
      constructor
      · intro h
        cases h
      · intro h
        cases h
    | ok a =>
      obtain ⟨name, given⟩ := a
      have hgiven : Except.ok (HookArguments.mk name given) =
          (.ok { hook := hook.name, context } : Except Wire.Fault HookArguments) ↔
          Hook.parse name = .ok hook ∧ given = context := by
        rw [Except.ok.injEq, HookArguments.mk.injEq, Hook.parse_eq_ok_iff]
      rw [hgiven]
      change (do
        let hook ← (Hook.parse name).mapError Fault.message
        pure (hook, given) : Except String (Hook × ReleaseContext)) = .ok (hook, context) ↔ _
      cases Hook.parse name with
      | error fault => simp [Except.mapError, bind, Except.bind]
      | ok hook' => simp [Except.mapError, bind, Except.bind, pure, Except.pure]

theorem OrdersHook.unique {v : Json} {hook hook' : Hook} {context context' : ReleaseContext}
    (h : OrdersHook v hook context) (h' : OrdersHook v hook' context') :
    hook = hook' ∧ context = context' := by
  have hsame := (readHook_eq_ok_iff.mpr h).symm.trans (readHook_eq_ok_iff.mpr h')
  cases hsame
  exact ⟨rfl, rfl⟩

/-! ### Summaries -/

/-- The summary of a list of outcomes. -/
structure Sums (hook : Hook) (outcomes : List HookOutcome) (now : Timestamp) (s : HookSummary) : Prop where
  hook : s.hook = hook
  executed : s.executed = outcomes.length
  succeeded : s.succeeded = outcomes.countP (·.success)
  failed : s.failed = outcomes.countP (!·.success)
  total : s.succeeded + s.failed = s.executed
  results : s.results = outcomes
  executedAt : s.executedAt = now

theorem sums_ofOutcomes (hook : Hook) (outcomes : List HookOutcome) (now : Timestamp) :
    Sums hook outcomes now (.ofOutcomes hook outcomes now) := by
  have hlength := List.length_eq_countP_add_countP (·.success) (l := outcomes)
  have hfilter : (outcomes.filter (·.success)).length = outcomes.countP (·.success) :=
    List.countP_eq_length_filter.symm
  have hrest : outcomes.length - (outcomes.filter (·.success)).length = outcomes.countP (!·.success) := by
    have hnot : outcomes.countP (fun a => decide ¬a.success = true) = outcomes.countP (!·.success) := by
      simp
    omega
  have htotal : (outcomes.filter (·.success)).length +
      (outcomes.length - (outcomes.filter (·.success)).length) = outcomes.length :=
    Nat.add_sub_of_le (List.length_filter_le _ _)
  exact ⟨rfl, rfl, hfilter, hrest, htotal, rfl, rfl⟩

/-! ### Texts -/

theorem HookOutcome.conveys (a : HookOutcome) : HookOutcome.codec.Conveys a a := by
  have hartifacts : (((Member.required "artifacts" (.list .string)).orElse []).omitWhen
      List.isEmpty).Conveys a.artifacts a.artifacts := by
    refine Member.conveys_omitWhen (fun h => ?_) fun _ => ?_
    · rw [List.isEmpty_iff.mp h]
      rfl
    · exact (Member.conveys_required (Codec.conveys_list fun s _ => Codec.conveys_string s) _).orElse rfl []
  have hfields : HookOutcome.record.fields.Conveys ["plugin", "success", "message", "artifacts"] a a :=
    ((((conveys_nothing a HookOutcome.mk).both
      (conveys_one (Member.conveys_required (Codec.conveys_string a.plugin) "plugin"))).both
      (conveys_one (Member.conveys_required (Codec.conveys_bool a.success) "success"))).both
      (conveys_one (Member.conveys_optional_string a.message "message"))).both
      (conveys_one hartifacts)
  exact Record.conveys hfields (by decide)

/-- The counts of a summary fit 64 bits. -/
structure HookSummary.Countable (s : HookSummary) : Prop where
  executed : (s.executed : Int) < Number.bound
  succeeded : (s.succeeded : Int) < Number.bound
  failed : (s.failed : Int) < Number.bound

theorem Sums.countable {hook : Hook} {outcomes : List HookOutcome} {now : Timestamp} {s : HookSummary}
    (h : Sums hook outcomes now s) (hlength : (outcomes.length : Int) < Number.bound) : s.Countable := by
  have hexecuted := h.executed
  have htotal := h.total
  constructor <;> omega

theorem HookSummary.conveys {s : HookSummary} (h : s.Countable) : HookSummary.codec.Conveys s s := by
  have hhook : Hook.choice.codec.Conveys s.hook s.hook :=
    Choice.conveys (Hook.ofName?_eq_some_iff.mpr rfl)
  have hresults : (Codec.list HookOutcome.codec).Conveys s.results s.results :=
    Codec.conveys_list fun a _ => a.conveys
  have hfields : HookSummary.record.fields.Conveys
      ["hook", "executed", "succeeded", "failed", "results", "executed_at"] s s :=
    ((((((conveys_nothing s HookSummary.mk).both
      (conveys_one (Member.conveys_required hhook "hook"))).both
      (conveys_one (Member.conveys_required (Codec.conveys_natural h.executed) "executed"))).both
      (conveys_one (Member.conveys_required (Codec.conveys_natural h.succeeded) "succeeded"))).both
      (conveys_one (Member.conveys_required (Codec.conveys_natural h.failed) "failed"))).both
      (conveys_one (Member.conveys_required hresults "results"))).both
      (conveys_one (Member.conveys_required (Codec.conveys_time s.executedAt) "executed_at"))
  exact Record.conveys hfields (by decide)

theorem HookOutcome.members_eq (a : HookOutcome) :
    HookOutcome.record.members a = ("plugin", .string a.plugin) :: ("success", .bool a.success) ::
      ((a.message.map fun text => ("message", .string text)).toList ++
        if a.artifacts.isEmpty then [] else [("artifacts", .array (a.artifacts.map .string))]) := by
  obtain ⟨plugin, success, message, artifacts⟩ := a
  cases message <;> cases artifacts <;> rfl

theorem HookOutcome.write_plain (a : HookOutcome) :
    (HookOutcome.codec.write a).depth ≤ 2 ∧ (HookOutcome.codec.write a).Legible := by
  have hartifacts : (Json.array (a.artifacts.map .string)).depth ≤ 1 ∧
      (Json.array (a.artifacts.map .string)).Legible :=
    array_plain (List.forall_mem_map.mpr fun _ _ => ⟨Nat.le_refl 0, trivial⟩)
  have hmembers : ∀ m ∈ HookOutcome.record.members a, m.2.depth ≤ 1 ∧ m.2.Legible := by
    intro m hm
    simp only [members_eq, List.mem_cons, List.mem_append, Option.mem_toList,
      Option.map_eq_some_iff] at hm
    rcases hm with rfl | rfl | ⟨text, -, rfl⟩ | hm
    · exact ⟨Nat.zero_le _, trivial⟩
    · exact ⟨Nat.zero_le _, trivial⟩
    · exact ⟨Nat.zero_le _, trivial⟩
    · split_ifs at hm with hempty
      · cases hm
      · rw [List.mem_singleton.mp hm]
        exact hartifacts
  exact object_plain hmembers

theorem HookSummary.members_eq (s : HookSummary) :
    HookSummary.record.members s = [("hook", .string s.hook.name), ("executed", .natural s.executed),
      ("succeeded", .natural s.succeeded), ("failed", .natural s.failed),
      ("results", .array (s.results.map HookOutcome.codec.write)),
      ("executed_at", .string s.executedAt.text)] := rfl

theorem HookSummary.fits {s : HookSummary} (h : s.Countable) : (HookSummary.codec.write s).Fits := by
  have hnumber {n : Nat} (hn : (n : Int) < Number.bound) :
      (Json.natural n).depth ≤ 3 ∧ (Json.natural n).Legible := by
    have hleast : Number.least ≤ n := Int.le_trans (by decide) (Int.natCast_nonneg n)
    exact ⟨Nat.zero_le _, readsBack_integer hleast hn⟩
  have hresults : (Json.array (s.results.map HookOutcome.codec.write)).depth ≤ 3 ∧
      (Json.array (s.results.map HookOutcome.codec.write)).Legible :=
    array_plain (List.forall_mem_map.mpr fun a _ => a.write_plain)
  have hmembers : ∀ m ∈ HookSummary.record.members s, m.2.depth ≤ 3 ∧ m.2.Legible := by
    simp only [members_eq, List.forall_mem_cons]
    exact ⟨⟨Nat.zero_le _, trivial⟩, hnumber h.executed, hnumber h.succeeded, hnumber h.failed, hresults,
      ⟨Nat.zero_le _, trivial⟩, List.forall_mem_nil _⟩
  obtain ⟨hdepth, hlegible⟩ := object_plain hmembers
  exact ⟨Nat.le_trans hdepth (by decide), hlegible⟩

theorem HookSummary.ofTree_pretty {s : HookSummary} (h : s.Countable) :
    HookSummary.codec.ofTree (HookSummary.codec.pretty s) = .ok s := by
  have hfits := HookSummary.fits h
  have hparse : parse? (HookSummary.codec.pretty s) = some (HookSummary.codec.toJson s) :=
    parse?_pretty hfits.legible hfits.shallow
  rw [Codec.ofTree, hparse]
  exact (HookSummary.conveys h).ofJson_toJson

end ReleaseDesk.Plugin
