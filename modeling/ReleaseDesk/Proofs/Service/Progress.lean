import Mathlib.Data.List.Induction
import Mathlib.Tactic.Common
import ReleaseDesk.Proofs.Service.Answer
import ReleaseDesk.Stream.Server

/-! The notifications of interleaved progress operations. The notifications for a token are one for
its start, one for every update before its completion, and one for its completion, if there is one.
Operations on inactive tokens send nothing, and lost notifications do not change what is sent later.
-/

namespace ReleaseDesk.Service

open ReleaseDesk.Protocol

/-- A progress operation. `start` carries the token drawn for it. -/
inductive Operation
  | start (token : ProgressToken) (total : Nat) (message : String)
  | update (token : ProgressToken) (done : Nat) (message : String)
  | complete (token : ProgressToken) (message : String)

namespace Operation

def token : Operation → ProgressToken
  | start token _ _ => token
  | update token _ _ => token
  | complete token _ => token

/-- The token that the operation starts. -/
def begun? : Operation → Option ProgressToken
  | start token _ _ => some token
  | update _ _ _ => none
  | complete _ _ => none

/-- The notification of an update, for a token with `total` steps. -/
def report? (token : ProgressToken) (total : Nat) : Operation → Option Progress
  | update other done message =>
    if other = token then
      some { token, kind := .report, done, total := some total
             percentage := percentage done total, message := some message }
    else none
  | start _ _ _ => none
  | complete _ _ => none

/-- The notification of a completion, for a token with `total` steps. -/
def ending? (token : ProgressToken) (total : Nat) : Operation → Option Progress
  | complete other message =>
    if other = token then
      some { token, kind := .finish, done := total, total := some total
             percentage := .hundred, message := some message }
    else none
  | start _ _ _ => none
  | update _ _ _ => none

def completes (token : ProgressToken) : Operation → Bool
  | complete other _ => other = token
  | start _ _ _ => false
  | update _ _ _ => false

end Operation

/-- The notifications for a token after its start: one for each update before the first completion,
and one for this completion. -/
def expected (token : ProgressToken) (total : Nat) (ops : List Operation) : List Progress :=
  (ops.takeWhile fun op => !op.completes token).filterMap (Operation.report? token total) ++
    (ops.findSome? (Operation.ending? token total)).toList

/-- Operations on other tokens do not contribute. -/
theorem expected_of_ne {op : Operation} {token : ProgressToken} (h : op.token ≠ token) (total : Nat)
    (ops : List Operation) : expected token total (op :: ops) = expected token total ops := by
  have hquiet : op.completes token = false ∧ op.report? token total = none ∧
      op.ending? token total = none := by
    cases op with
    | start other n message => exact ⟨rfl, rfl, rfl⟩
    | update other done message => exact ⟨rfl, if_neg h, rfl⟩
    | complete other message => exact ⟨decide_eq_false h, rfl, if_neg h⟩
  obtain ⟨hcompletes, hreport, hending⟩ := hquiet
  simp [expected, hcompletes, hreport, hending]

theorem expected_update (token : ProgressToken) (total done : Nat) (message : String)
    (ops : List Operation) :
    expected token total (.update token done message :: ops) =
      { token, kind := .report, done, total := some total
        percentage := percentage done total, message := some message } ::
        expected token total ops := by
  have hcompletes : (Operation.update token done message).completes token = false := rfl
  have hending : (Operation.update token done message).ending? token total = none := rfl
  simp [expected, hcompletes, hending, Operation.report?]

theorem expected_complete (token : ProgressToken) (total : Nat) (message : String)
    (ops : List Operation) :
    expected token total (.complete token message :: ops) =
      [{ token, kind := .finish, done := total, total := some total
         percentage := .hundred, message := some message }] := by
  have hcompletes : (Operation.complete token message).completes token = true := decide_eq_true rfl
  simp [expected, hcompletes, Operation.ending?]

namespace Tracker

/-! ### Operations -/

/-- The notification of an operation, if any, and the tracker after it. -/
def step (t : Tracker) : Operation → Option Progress × Tracker
  | .start token total message =>
    let (report, t) := t.start token total message
    (some report, t)
  | .update token done message => (t.update token done message, t)
  | .complete token message => t.complete token message

def run (t : Tracker) (ops : List Operation) : Tracker := ops.foldl (fun t op => (t.step op).2) t

/-- The notifications of a run, in order. -/
def reports (t : Tracker) : List Operation → List Progress
  | [] => []
  | op :: ops => (t.step op).1.toList ++ (t.step op).2.reports ops

/-- The tokens started in a run, in order. -/
def begun (ops : List Operation) : List ProgressToken := ops.filterMap Operation.begun?

/-- The notifications include a completion of the token. -/
def ends (token : ProgressToken) (sent : List Progress) : Bool :=
  sent.any fun report => report.kind = .finish ∧ report.token = token

/-- The tokens started and not completed, in the order of their starts. -/
def unfinished (ops : List Operation) : List ProgressToken :=
  (begun ops).filter fun token => !ends token (reports {} ops)

theorem run_append (t : Tracker) (before after : List Operation) :
    t.run (before ++ after) = (t.run before).run after :=
  List.foldl_append

theorem reports_append (t : Tracker) (before after : List Operation) :
    t.reports (before ++ after) = t.reports before ++ (t.run before).reports after := by
  induction before generalizing t with
  | nil => rfl
  | cons op before ih =>
    simp only [List.cons_append, reports, ih, List.append_assoc]
    rfl

theorem reports_append_singleton (t : Tracker) (ops : List Operation) (op : Operation) :
    t.reports (ops ++ [op]) = t.reports ops ++ ((t.run ops).step op).1.toList := by
  simp only [reports_append, reports, List.append_nil]

theorem begun_append (before after : List Operation) :
    begun (before ++ after) = begun before ++ begun after :=
  List.filterMap_append

theorem of_notMem_begun_cons {op : Operation} {ops : List Operation} {token : ProgressToken}
    (h : token ∉ begun (op :: ops)) :
    (op.token = token → op.begun? = none) ∧ token ∉ begun ops := by
  cases op with
  | start other total message =>
    have hcons : token ∉ other :: begun ops := h
    obtain ⟨hne, hlater⟩ := not_or.mp (mt List.mem_cons.mpr hcons)
    exact ⟨fun htoken => absurd htoken.symm hne, hlater⟩
  | update other done message => exact ⟨fun _ => rfl, h⟩
  | complete other message => exact ⟨fun _ => rfl, h⟩

/-! ### One operation -/

theorem total?_eq_none_iff {t : Tracker} {token : ProgressToken} :
    t.total? token = none ↔ token ∉ t.active.map (·.1) := by
  simp only [total?, Option.map_eq_none_iff, List.find?_eq_none, decide_eq_true_eq, List.mem_map,
    not_exists, not_and]

theorem total?_drop_self (t : Tracker) (token : ProgressToken) : (t.drop token).total? token = none := by
  simp [total?_eq_none_iff, drop]

theorem total?_drop_of_ne (t : Tracker) {token other : ProgressToken} (h : other ≠ token) :
    (t.drop other).total? token = t.total? token := by
  have hpred : (fun entry : ProgressToken × Nat => decide (entry.1 ≠ other ∧ entry.1 = token)) =
      fun entry => decide (entry.1 = token) := by
    funext entry
    rw [decide_eq_decide]
    exact ⟨And.right, fun he => ⟨fun ho => h (ho.symm.trans he), he⟩⟩
  simp only [total?, drop, List.find?_filter, decide_eq_true_eq]
  rw [hpred]

theorem drop_of_total?_eq_none {t : Tracker} {token : ProgressToken} (h : t.total? token = none) :
    t.drop token = t := by
  have hkeep : t.active.filter (·.1 ≠ token) = t.active := by
    rw [List.filter_eq_self]
    intro entry he
    have hne : entry.1 ≠ token := fun heq =>
      total?_eq_none_iff.mp h (heq ▸ List.mem_map_of_mem he)
    exact decide_eq_true hne
  rw [drop, hkeep]

theorem total?_start_self (t : Tracker) (token : ProgressToken) (total : Nat) (message : String) :
    (t.step (.start token total message)).2.total? token = some total := by
  simp [step, start, total?]

/-- An operation does not affect other tokens. -/
theorem total?_step_of_ne (t : Tracker) {op : Operation} {token : ProgressToken}
    (h : op.token ≠ token) : (t.step op).2.total? token = t.total? token := by
  cases op with
  | start other total message =>
    have hne : other ≠ token := h
    have hcons : (t.step (.start other total message)).2.total? token =
        (t.drop other).total? token := by
      simp [step, start, total?, hne]
    rw [hcons, total?_drop_of_ne t hne]
  | update other done message => rfl
  | complete other message => exact total?_drop_of_ne t h

theorem token_of_mem_step {t : Tracker} {op : Operation} {report : Progress}
    (h : report ∈ (t.step op).1) : report.token = op.token := by
  cases op with
  | start token total message =>
    cases h
    rfl
  | update token done message =>
    obtain ⟨total, -, rfl⟩ := Option.map_eq_some_iff.mp h
    rfl
  | complete token message =>
    obtain ⟨total, -, rfl⟩ := Option.map_eq_some_iff.mp h
    rfl

/-- An operation on an inactive token has no effect, unless it starts the token. -/
theorem step_of_total?_eq_none {t : Tracker} {op : Operation} (hb : op.begun? = none)
    (h : t.total? op.token = none) : t.step op = (none, t) := by
  cases op with
  | start token total message => cases hb
  | update token done message =>
    have hnone : t.total? token = none := h
    simp [step, update, hnone]
  | complete token message =>
    have hnone : t.total? token = none := h
    simp [step, complete, hnone, drop_of_total?_eq_none hnone]

/-! ### The notifications for one token -/

theorem filter_step_of_ne (t : Tracker) {op : Operation} {token : ProgressToken}
    (h : op.token ≠ token) : (t.step op).1.toList.filter (·.token = token) = [] := by
  rw [List.filter_eq_nil_iff]
  intro report hr
  have htoken := token_of_mem_step (Option.mem_toList.mp hr)
  simpa [htoken] using h

/-- An inactive token that is not started has no notifications and stays inactive. -/
theorem reports_of_idle {t : Tracker} {token : ProgressToken} {ops : List Operation}
    (h : t.total? token = none) (hb : token ∉ begun ops) :
    (t.reports ops).filter (·.token = token) = [] ∧ (t.run ops).total? token = none := by
  induction ops generalizing t with
  | nil => exact ⟨rfl, h⟩
  | cons op ops ih =>
    obtain ⟨hbegun, hlater⟩ := of_notMem_begun_cons hb
    have hnext : (t.step op).1.toList.filter (·.token = token) = [] ∧
        (t.step op).2.total? token = none := by
      by_cases htoken : op.token = token
      · rw [step_of_total?_eq_none (hbegun htoken) (htoken ▸ h)]
        exact ⟨rfl, h⟩
      · exact ⟨filter_step_of_ne t htoken, (total?_step_of_ne t htoken).trans h⟩
    obtain ⟨hsilent, hidle⟩ := ih hnext.2 hlater
    refine ⟨?_, hidle⟩
    rw [reports, List.filter_append, hnext.1, hsilent, List.append_nil]

/-- The notifications for an active token that is not started again. -/
theorem reports_of_active {t : Tracker} {token : ProgressToken} {total : Nat} {ops : List Operation}
    (h : t.total? token = some total) (hb : token ∉ begun ops) :
    (t.reports ops).filter (·.token = token) = expected token total ops := by
  induction ops generalizing t with
  | nil => rfl
  | cons op ops ih =>
    obtain ⟨hbegun, hlater⟩ := of_notMem_begun_cons hb
    rw [reports, List.filter_append]
    by_cases htoken : op.token = token
    · cases op with
      | start other total message => cases hbegun htoken
      | update other done message =>
        obtain rfl : other = token := htoken
        have hreport : (t.step (.update other done message)).1 =
            some { token := other, kind := .report, done, total := some total
                   percentage := percentage done total, message := some message } := by
          simp [step, update, h]
        rw [hreport, expected_update, ← ih h hlater]
        simp [step]
      | complete other message =>
        obtain rfl : other = token := htoken
        have hending : t.step (.complete other message) =
            (some { token := other, kind := .finish, done := total, total := some total
                    percentage := .hundred, message := some message }, t.drop other) := by
          simp [step, complete, h]
        rw [hending, (reports_of_idle (total?_drop_self t other) hlater).1, expected_complete]
        simp
    · have hactive := (total?_step_of_ne t htoken).trans h
      rw [filter_step_of_ne t htoken, expected_of_ne htoken, ih hactive hlater, List.nil_append]

/-- From the initial tracker, the notifications for a token that is started once. -/
theorem reports_of_start {before after : List Operation} {token : ProgressToken} {total : Nat}
    {message : String} (h : (begun (before ++ .start token total message :: after)).Nodup) :
    (reports {} (before ++ .start token total message :: after)).filter (·.token = token) =
      { token, kind := .begin, done := 0, total := some total
        percentage := .zero, message := some message } :: expected token total after := by
  have hbegun : begun (before ++ .start token total message :: after) =
      begun before ++ token :: begun after := begun_append _ _
  rw [hbegun, List.nodup_append, List.nodup_cons] at h
  obtain ⟨-, ⟨hafter, -⟩, hdisjoint⟩ := h
  have hbefore : token ∉ begun before := fun hmem =>
    hdisjoint token hmem token List.mem_cons_self rfl
  have hidle : (reports {} before).filter (·.token = token) = [] := (reports_of_idle rfl hbefore).1
  have hactive := reports_of_active
    (total?_start_self (run {} before) token total message) hafter
  have hreport : ((run {} before).step (.start token total message)).1 =
      some { token, kind := .begin, done := 0, total := some total
             percentage := .zero, message := some message } := rfl
  rw [reports_append, List.filter_append, hidle, List.nil_append, reports, List.filter_append,
    hactive, hreport]
  simp

/-! ### Active tokens -/

theorem mem_begun_of_mem_reports {ops : List Operation} {report : Progress}
    (h : report ∈ reports {} ops) : report.token ∈ begun ops := by
  by_contra hnot
  have hsilent := (reports_of_idle (t := {}) rfl hnot).1
  rw [List.filter_eq_nil_iff] at hsilent
  exact hsilent report h (decide_eq_true rfl)

theorem ends_append (token : ProgressToken) (sent more : List Progress) :
    ends token (sent ++ more) = (ends token sent || ends token more) :=
  List.any_append

/-- An operation inserts the token that it starts and erases the token that it completes. -/
theorem active_step {t : Tracker} {op : Operation}
    (h : ∀ token, op.begun? = some token → t.total? token = none) :
    (t.step op).2.active.map (·.1) = op.begun?.toList ++
      (t.active.map (·.1)).filter fun token => !ends token (t.step op).1.toList := by
  cases op with
  | start token total message =>
    have hdrop : (t.drop token).active = t.active :=
      congrArg active (drop_of_total?_eq_none (h token rfl))
    have hends : ∀ other ∈ t.active.map (·.1),
        (!ends other (t.step (.start token total message)).1.toList) = true := by
      simp [step, start, ends]
    rw [List.filter_eq_self.mpr hends]
    simp [step, start, hdrop, Operation.begun?]
  | update token done message =>
    have hends : ∀ other ∈ t.active.map (·.1),
        (!ends other (t.step (.update token done message)).1.toList) = true := by
      cases htotal : t.total? token <;> simp [step, update, htotal, ends]
    rw [List.filter_eq_self.mpr hends]
    rfl
  | complete token message =>
    have hends : ∀ other ∈ t.active.map (·.1),
        (!ends other (t.step (.complete token message)).1.toList) = decide (other ≠ token) := by
      intro other hother
      cases htotal : t.total? token with
      | none =>
        have hne : other ≠ token := fun heq => total?_eq_none_iff.mp htotal (heq ▸ hother)
        simp [step, complete, htotal, ends, hne]
      | some total => simp [step, complete, htotal, ends, eq_comm]
    rw [List.filter_congr hends]
    simp [step, complete, drop, Operation.begun?, List.filter_map, Function.comp_def]

theorem ends_eq_false_iff {token : ProgressToken} {sent : List Progress} :
    ends token sent = false ↔ ∀ report ∈ sent, report.token = token → report.kind ≠ .finish := by
  simp only [ends, List.any_eq_false, decide_eq_true_eq, not_and, ne_eq]
  exact forall₂_congr fun _ _ => ⟨fun h ht hk => h hk ht, fun h hk ht => h ht hk⟩

/-- The operation that starts a token does not complete it. -/
theorem ends_of_begun {ops : List Operation} {op : Operation} {token : ProgressToken}
    (hop : op.begun? = some token) (hfresh : token ∉ begun ops) :
    ends token (reports {} (ops ++ [op])) = false := by
  rw [ends_eq_false_iff, reports_append_singleton, List.forall_mem_append]
  constructor
  · exact fun report hr htoken => absurd (htoken ▸ mem_begun_of_mem_reports hr) hfresh
  · intro report hr _ hfinish
    cases op with
    | start other total message =>
      obtain rfl : _ = report := Option.some.inj (Option.mem_toList.mp hr)
      cases hfinish
    | update other done message => cases hop
    | complete other message => cases hop

/-- The active tokens are those started and not completed, the latest first. -/
theorem active_eq_unfinished {ops : List Operation} (h : (begun ops).Nodup) :
    (run {} ops).active.map (·.1) = (unfinished ops).reverse := by
  induction ops using List.reverseRecOn with
  | nil => rfl
  | append_singleton ops op ih =>
    have hbegun : begun (ops ++ [op]) = begun ops ++ op.begun?.toList := by
      rw [begun_append]
      cases op <;> rfl
    rw [hbegun, List.nodup_append] at h
    obtain ⟨hbefore, -, hdisjoint⟩ := h
    have hfresh : ∀ token, op.begun? = some token → token ∉ begun ops := fun token hop hmem =>
      hdisjoint token hmem token (Option.mem_toList.mpr hop) rfl
    have hrun : run {} (ops ++ [op]) = ((run {} ops).step op).2 := run_append {} ops [op]
    have hstep := active_step fun token hop => (reports_of_idle (t := {}) rfl (hfresh token hop)).2
    have hstays : op.begun?.toList.filter (fun token =>
        !ends token (reports {} (ops ++ [op]))) = op.begun?.toList := by
      rw [List.filter_eq_self]
      intro token hmem
      have hop := Option.mem_toList.mp hmem
      rw [ends_of_begun hop (hfresh token hop)]
      rfl
    have hleft : (begun ops).filter (fun token => !ends token (reports {} (ops ++ [op]))) =
        (unfinished ops).filter fun token => !ends token ((run {} ops).step op).1.toList := by
      simp only [unfinished, List.filter_filter, reports_append_singleton, ends_append, Bool.not_or,
        Bool.and_comm]
    have hunderway : unfinished (ops ++ [op]) =
        (unfinished ops).filter (fun token => !ends token ((run {} ops).step op).1.toList) ++
          op.begun?.toList := by
      rw [unfinished, hbegun, List.filter_append, hstays, hleft]
    rw [hrun, hstep, ih hbefore, hunderway, List.reverse_append, List.filter_reverse]
    cases op <;> rfl

theorem total?_eq_none_of_notMem {ops : List Operation} (h : (begun ops).Nodup)
    {token : ProgressToken} (hnot : token ∉ unfinished ops) : (run {} ops).total? token = none := by
  rw [total?_eq_none_iff, active_eq_unfinished h, List.mem_reverse]
  exact hnot

theorem count_run {ops : List Operation} (h : (begun ops).Nodup) :
    (run {} ops).count = (unfinished ops).length := by
  rw [count, ← List.length_map, active_eq_unfinished h, List.length_reverse]

end Tracker

/-! ### Outlets -/

open Tracker

/-- A tracker with the outlet of its notifications. -/
structure Reporter (τ : Type) where
  tracker : Tracker := {}
  sink : τ

namespace Reporter

/-- Performs an operation; a notification that cannot be sent is lost. -/
def perform [Outlet τ] (r : Reporter τ) (op : Operation) : Reporter τ :=
  let (report, tracker) := r.tracker.step op
  match report with
  | some report => { tracker, sink := (Outlet.notify report.notification r.sink).2 }
  | none => { r with tracker }

def performAll [Outlet τ] (r : Reporter τ) (ops : List Operation) : Reporter τ :=
  ops.foldl perform r

theorem perform_eq [Outlet τ] (r : Reporter τ) (op : Operation) :
    r.perform op =
      { tracker := (r.tracker.step op).2
        sink := (r.tracker.step op).1.toList.foldl
          (fun sink report => (Outlet.notify report.notification sink).2) r.sink } := by
  unfold perform
  generalize r.tracker.step op = result
  obtain ⟨report | _, tracker⟩ := result <;> rfl

/-- The tracker and the notifications do not depend on the outlet. -/
theorem performAll_eq [Outlet τ] (r : Reporter τ) (ops : List Operation) :
    r.performAll ops =
      { tracker := r.tracker.run ops
        sink := (r.tracker.reports ops).foldl
          (fun sink report => (Outlet.notify report.notification sink).2) r.sink } := by
  induction ops generalizing r with
  | nil => rfl
  | cons op ops ih =>
    have hcons : r.performAll (op :: ops) = (r.perform op).performAll ops := rfl
    rw [hcons, ih, perform_eq, reports, List.foldl_append]
    rfl

end Reporter

/-- For every run of operations in which no token is started twice, and every outlet: the
notifications for a token are one for its start, one for each update before its first completion,
and one for this completion; operations on inactive tokens have no effect; after each operation the
active tokens are those started and not completed. Lost notifications make no difference. -/
theorem progress_wellFormed [Outlet τ] {ops : List Operation} (h : (begun ops).Nodup) (sink : τ) :
    (∀ before token total message after, ops = before ++ .start token total message :: after →
      (reports {} ops).filter (·.token = token) =
        { token, kind := .begin, done := 0, total := some total
          percentage := .zero, message := some message } :: expected token total after) ∧
    (∀ before op after, ops = before ++ op :: after → op.begun? = none →
      op.token ∉ unfinished before → (run {} before).step op = (none, run {} before)) ∧
    ∀ before after, ops = before ++ after →
      (run {} before).count = (unfinished before).length ∧
      Reporter.performAll { sink } before =
        { tracker := run {} before
          sink := (reports {} before).foldl
            (fun sink report => (Outlet.notify report.notification sink).2) sink } := by
  have hbegun : ∀ before after, ops = before ++ after → (begun before).Nodup := by
    rintro before after rfl
    rw [begun_append] at h
    exact (List.nodup_append.mp h).1
  refine ⟨?_, ?_, ?_⟩
  · rintro before token total message after rfl
    exact reports_of_start h
  · intro before op after heq hop hnot
    exact step_of_total?_eq_none hop (total?_eq_none_of_notMem (hbegun _ _ heq) hnot)
  · intro before after heq
    exact ⟨count_run (hbegun _ _ heq), Reporter.performAll_eq _ _⟩

/-- Two interleaved tokens, one of them updated after its completion, and an operation on an unknown
token, with a closed outlet. -/
theorem progress_wellFormed_closed :
    let ops : List Operation :=
      [.update (.number 7) 1 "unheard of", .start (.string "a") 4 "first", .start (.string "b") 0 "second",
        .update (.string "a") 9 "past the end", .complete (.string "a") "done",
        .complete (.string "a") "again", .update (.string "a") 1 "late", .update (.string "b") 0 "on"]
    let sink : Stream.Pipe := { closed := true }
    (begun ops).Nodup ∧
    (∀ before token total message after, ops = before ++ .start token total message :: after →
      (reports {} ops).filter (·.token = token) =
        { token, kind := .begin, done := 0, total := some total
          percentage := .zero, message := some message } :: expected token total after) ∧
    (∀ before op after, ops = before ++ op :: after → op.begun? = none →
      op.token ∉ unfinished before → (run {} before).step op = (none, run {} before)) ∧
    ∀ before after, ops = before ++ after →
      (run {} before).count = (unfinished before).length ∧
      Reporter.performAll { sink } before =
        { tracker := run {} before
          sink := (reports {} before).foldl
            (fun sink report => (Outlet.notify report.notification sink).2) sink } := by
  intro ops sink
  have hbegun : (begun ops).Nodup := by decide
  exact ⟨hbegun, progress_wellFormed hbegun sink⟩

end ReleaseDesk.Service
