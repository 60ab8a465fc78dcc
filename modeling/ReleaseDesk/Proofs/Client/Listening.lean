import Mathlib.Tactic.Common
import ReleaseDesk.Client.Router

/-! The notifications that listeners receive over a run of registrations and arrivals. A progress
listener receives the reports under its token from its registration up to the first event that
reassigns the token: another registration, an unregistration, or the last report of the sequence,
which it still receives. The listener for log messages receives them until it is replaced.
Undecodable and other notifications are ignored. -/

namespace ReleaseDesk.Client

open ReleaseDesk.Protocol ReleaseDesk.Wire

/-- The events at a router. Listeners do not act on it themselves. -/
inductive Event (κ : Type)
  | register (token : ProgressToken) (label : κ)
  | unregister (token : ProgressToken)
  | onLog (label : κ)
  | arrive (n : Rpc.Notification)

namespace Event

def report? : Event κ → Option Progress
  | arrive n => if n.method = progressMethod then Router.params? Progress.codec n else none
  | _ => none

def reportOn? (token : ProgressToken) (e : Event κ) : Option Progress :=
  e.report?.filter (·.token = token)

def message? : Event κ → Option LogMessage
  | arrive n => if n.method = messageMethod then Router.params? LogMessage.codec n else none
  | _ => none

/-- The listener assigned to a token by an event, if it reassigns the token: a registration, an
unregistration and a last report do. -/
def settled? (token : ProgressToken) : Event κ → Option (Option κ)
  | register other label => if other = token then some (some label) else none
  | unregister other => if other = token then some none else none
  | onLog _ => none
  | arrive n =>
    match (arrive n : Event κ).reportOn? token with
    | some report => if report.kind = .finish then some none else none
    | none => none

def settles (token : ProgressToken) (e : Event κ) : Bool := (e.settled? token).isSome

def logger? : Event κ → Option κ
  | onLog label => some label
  | _ => none

end Event

/-- The listener of a token after a list of events, as assigned by the last event that reassigns it.
-/
def listening? (token : ProgressToken) (events : List (Event κ)) : Option κ :=
  (events.filterMap (Event.settled? token)).getLast?.join

def logging? (events : List (Event κ)) : Option κ := (events.filterMap Event.logger?).getLast?

/-- The notifications received on an event after a list of events, by specification. -/
def heardOf (before : List (Event κ)) (e : Event κ) : List (Heard κ) :=
  (e.report?.bind fun report =>
      (listening? report.token before).map fun label => .progress label report).toList ++
    (e.message?.bind fun message => (logging? before).map fun label => .log label message).toList

def heardOver (before : List (Event κ)) : List (Event κ) → List (Heard κ)
  | [] => []
  | e :: rest => heardOf before e ++ heardOver (before ++ [e]) rest

theorem listening?_concat (token : ProgressToken) (events : List (Event κ)) (e : Event κ) :
    listening? token (events ++ [e]) = (e.settled? token).getD (listening? token events) := by
  rw [listening?, List.filterMap_append]
  cases h : e.settled? token with
  | none => simp [h, listening?]
  | some settled => simp [h]

theorem logging?_concat (events : List (Event κ)) (e : Event κ) :
    logging? (events ++ [e]) = e.logger?.or (logging? events) := by
  rw [logging?, List.filterMap_append]
  cases h : e.logger? with
  | none => simp [h, logging?]
  | some label => simp [h]

theorem heardOver_append (before first second : List (Event κ)) :
    heardOver before (first ++ second) =
      heardOver before first ++ heardOver (before ++ first) second := by
  induction first generalizing before with
  | nil => simp [heardOver]
  | cons e first ih => simp [heardOver, ih]

/-! ### The router -/

namespace Router

def apply (r : Router κ) : Event κ → List (Heard κ) × Router κ
  | .register token label => ([], r.register token { label })
  | .unregister token => ([], (r.unregister token).2)
  | .onLog label => ([], r.onLog label)
  | .arrive n => r.handle n

def run (r : Router κ) : List (Event κ) → List (Heard κ) × Router κ
  | [] => ([], r)
  | e :: rest => ((r.apply e).1 ++ ((r.apply e).2.run rest).1, ((r.apply e).2.run rest).2)

theorem listener?_unregister (r : Router κ) (other token : ProgressToken) :
    (r.unregister other).2.listener? token = if other = token then none else r.listener? token := by
  simp only [listener?, unregister, List.find?_filter]
  split_ifs with h
  · subst h
    simp
  · congr 2
    funext entry
    by_cases ht : entry.1 = token
    · simp [ht, Ne.symm h]
    · simp [ht]

theorem listener?_register (r : Router κ) (other token : ProgressToken) (l : Listener κ) :
    (r.register other l).listener? token = if other = token then some l else r.listener? token := by
  have hrest := r.listener?_unregister other token
  simp only [listener?, register, List.find?_cons] at hrest ⊢
  split_ifs with h
  · simp [h]
  · simpa [h] using hrest

theorem route_of_some {r : Router κ} {report : Progress} {label : κ}
    (h : r.listener? report.token = some { label }) :
    r.route report = ([.progress label report],
      if report.kind = .finish then (r.unregister report.token).2 else r) := by
  simp only [route, h]
  rfl

theorem route_of_none {r : Router κ} {report : Progress} (h : r.listener? report.token = none) :
    r.route report = ([], r) := by
  simp only [route, h]

variable {r : Router κ} {n : Rpc.Notification}

theorem handle_report {report : Progress} (h : (.arrive n : Event κ).report? = some report) :
    r.handle n = r.route report := by
  simp only [Event.report?] at h
  split_ifs at h with hm
  simp only [handle, hm, if_true, h]

theorem handle_message {message : LogMessage} (h : (.arrive n : Event κ).message? = some message) :
    r.handle n = ((r.log.map fun label => .log label message).toList, r) := by
  simp only [Event.message?] at h
  split_ifs at h with hm
  have hother : messageMethod ≠ progressMethod := by decide
  rw [handle, hm, if_neg hother, if_pos rfl, h]
  cases r.log <;> rfl

theorem handle_other (hr : (.arrive n : Event κ).report? = none)
    (hm : (.arrive n : Event κ).message? = none) : r.handle n = ([], r) := by
  simp only [Event.report?, Event.message?] at hr hm
  unfold handle
  split_ifs with hp hl
  · rw [if_pos hp] at hr
    rw [hr]
  · rw [if_pos hl] at hm
    rw [hm]
    cases r.log <;> rfl
  · rfl

theorem message?_of_report {report : Progress} (h : (.arrive n : Event κ).report? = some report) :
    (.arrive n : Event κ).message? = none := by
  simp only [Event.report?] at h
  split_ifs at h with hm
  have hother : n.method ≠ messageMethod := by
    rw [hm]
    decide
  simp [Event.message?, hother]

/-- The listeners of a router are those assigned by a list of events. -/
structure ListensAs (events : List (Event κ)) (r : Router κ) : Prop where
  progress : ∀ token, r.listener? token = (listening? token events).map fun label => { label }
  log : r.log = logging? events

namespace ListensAs

variable {before : List (Event κ)}

theorem empty : ListensAs [] ({} : Router κ) := ⟨fun _ => rfl, rfl⟩

theorem concat (h : ListensAs before r) {e : Event κ} {r' : Router κ}
    (hp : ∀ token, r'.listener? token = match e.settled? token with
      | some settled => settled.map fun label => { label }
      | none => r.listener? token)
    (hl : r'.log = e.logger?.or r.log) : ListensAs (before ++ [e]) r' where
  progress token := by
    rw [hp, listening?_concat]
    cases e.settled? token with
    | none => exact h.progress token
    | some settled => rfl
  log := by rw [hl, logging?_concat, h.log]

theorem report (h : ListensAs before r) {report : Progress}
    (hr : (.arrive n : Event κ).report? = some report) :
    (r.handle n).1 = heardOf before (.arrive n) ∧ ListensAs (before ++ [.arrive n]) (r.handle n).2 := by
  have hsettled : ∀ token, (.arrive n : Event κ).settled? token =
      if report.token = token ∧ report.kind = .finish then some none else none := by
    intro token
    by_cases ht : report.token = token <;>
      simp [Event.settled?, Event.reportOn?, hr, Option.filter, ht]
  have hheard : heardOf before (.arrive n) =
      ((listening? report.token before).map fun label => .progress label report).toList := by
    simp [heardOf, hr, message?_of_report hr]
  have hlistener := h.progress report.token
  rw [handle_report hr, hheard]
  cases hl : listening? report.token before with
  | none =>
    rw [hl] at hlistener
    rw [route_of_none hlistener]
    refine ⟨rfl, h.concat (fun token => ?_) rfl⟩
    rw [hsettled]
    split_ifs with hend
    · exact hend.1 ▸ hlistener
    · rfl
  | some label =>
    rw [hl] at hlistener
    rw [route_of_some hlistener]
    refine ⟨rfl, h.concat (fun token => ?_) ?_⟩
    · rw [hsettled]
      by_cases hf : report.kind = .finish
      · simp only [hf, if_true, and_true, listener?_unregister]
        split_ifs <;> rfl
      · simp [hf]
    · dsimp only
      split_ifs <;> rfl

/-- One event at a router behaves as specified. -/
theorem apply (h : ListensAs before r) (e : Event κ) :
    (r.apply e).1 = heardOf before e ∧ ListensAs (before ++ [e]) (r.apply e).2 := by
  cases e with
  | register other label =>
    refine ⟨rfl, h.concat (fun token => ?_) rfl⟩
    simp only [Router.apply, listener?_register, Event.settled?]
    split_ifs <;> rfl
  | unregister other =>
    refine ⟨rfl, h.concat (fun token => ?_) rfl⟩
    simp only [Router.apply, listener?_unregister, Event.settled?]
    split_ifs <;> rfl
  | onLog label => exact ⟨rfl, h.concat (fun _ => rfl) rfl⟩
  | arrive n =>
    simp only [Router.apply]
    cases hr : (.arrive n : Event κ).report? with
    | some report => exact h.report hr
    | none =>
      have hkeeps : ListensAs (before ++ [.arrive n]) r :=
        h.concat (fun _ => by simp [Event.settled?, Event.reportOn?, hr]) rfl
      cases hm : (.arrive n : Event κ).message? with
      | none =>
        rw [handle_other hr hm]
        exact ⟨by simp [heardOf, hr, hm], hkeeps⟩
      | some message =>
        rw [handle_message hm]
        exact ⟨by simp [heardOf, hr, hm, h.log], hkeeps⟩

/-- A run of events at a router behaves as specified. -/
theorem run (h : ListensAs before r) (events : List (Event κ)) :
    (r.run events).1 = heardOver before events ∧ ListensAs (before ++ events) (r.run events).2 := by
  induction events generalizing before r with
  | nil =>
    rw [List.append_nil]
    exact ⟨rfl, h⟩
  | cons e events ih =>
    obtain ⟨hheard, hfollows⟩ := h.apply e
    obtain ⟨hrest, hend⟩ := ih hfollows
    refine ⟨by simp only [Router.run, heardOver, hheard, hrest], ?_⟩
    rw [List.append_cons]
    exact hend

end ListensAs

end Router

/-! ### The period of a registration -/

section Listener

variable [DecidableEq κ]

def Heard.reportTo? (label : κ) : Heard κ → Option Progress
  | progress other report => if other = label then some report else none
  | _ => none

def Heard.messageTo? (label : κ) : Heard κ → Option LogMessage
  | log other message => if other = label then some message else none
  | _ => none

def reportsTo (label : κ) (heard : List (Heard κ)) : List Progress :=
  heard.filterMap (Heard.reportTo? label)

def messagesTo (label : κ) (heard : List (Heard κ)) : List LogMessage :=
  heard.filterMap (Heard.messageTo? label)

end Listener

/-- The events up to the first that reassigns a token, inclusive. -/
def period (token : ProgressToken) (events : List (Event κ)) : List (Event κ) :=
  events.takeWhile (fun e => !e.settles token) ++
    (events.dropWhile fun e => !e.settles token).take 1

theorem period_cons (token : ProgressToken) (e : Event κ) (rest : List (Event κ)) :
    period token (e :: rest) = e :: if e.settles token then [] else period token rest := by
  unfold period
  cases h : e.settles token <;> simp [h]

variable {token : ProgressToken} {label : κ} {before after : List (Event κ)} {e : Event κ}

theorem eq_register_of_settled? (h : e.settled? token = some (some label)) :
    e = .register token label := by
  cases e with
  | register other given =>
    simp only [Event.settled?] at h
    split_ifs at h with ht
    cases h
    rw [ht]
  | unregister other =>
    simp only [Event.settled?] at h
    split_ifs at h
    cases h
  | onLog given => cases h
  | arrive n =>
    simp only [Event.settled?] at h
    split at h
    · split_ifs at h
      cases h
    · cases h

theorem register_mem_of_listening? (h : listening? token before = some label) :
    .register token label ∈ before := by
  have hlast := List.mem_of_getLast? (Option.join_eq_some_iff.mp h)
  obtain ⟨e, he, hsettled⟩ := List.mem_filterMap.mp hlast
  exact eq_register_of_settled? hsettled ▸ he

theorem listening?_concat_ne (h : listening? token before ≠ some label)
    (he : e ≠ .register token label) : listening? token (before ++ [e]) ≠ some label := by
  rw [listening?_concat]
  cases hs : e.settled? token with
  | none => exact h
  | some settled =>
    rintro rfl
    exact he (eq_register_of_settled? hs)

theorem eq_onLog_of_logger? (h : e.logger? = some label) : e = .onLog label := by
  cases e <;> cases h
  rfl

theorem logging?_concat_ne (h : logging? before ≠ some label) (he : e ≠ .onLog label) :
    logging? (before ++ [e]) ≠ some label := by
  rw [logging?_concat]
  cases hs : e.logger? with
  | none => exact h
  | some other =>
    rintro ⟨rfl⟩
    exact he (eq_onLog_of_logger? hs)

variable [DecidableEq κ]

theorem reportsTo_heardOf (label : κ) (before : List (Event κ)) (e : Event κ) :
    reportsTo label (heardOf before e) =
      (e.report?.filter fun report => listening? report.token before = some label).toList := by
  have hmessage : (e.message?.bind fun message =>
      (logging? before).map fun other => .log other message).toList.filterMap
        (Heard.reportTo? label) = [] := by
    cases e.message? with
    | none => rfl
    | some message => cases logging? before <;> rfl
  rw [heardOf, reportsTo, List.filterMap_append, hmessage, List.append_nil]
  cases e.report? with
  | none => rfl
  | some report =>
    cases hl : listening? report.token before with
    | none => simp [hl]
    | some other => by_cases ho : other = label <;> simp [hl, ho, Heard.reportTo?, Option.filter]

theorem reportsTo_heardOver_cons (label : κ) (before : List (Event κ)) (e : Event κ)
    (after : List (Event κ)) :
    reportsTo label (heardOver before (e :: after)) =
      (e.report?.filter fun report => listening? report.token before = some label).toList ++
        reportsTo label (heardOver (before ++ [e]) after) := by
  rw [heardOver, reportsTo, List.filterMap_append]
  exact congrArg (· ++ _) (reportsTo_heardOf label before e)

theorem reportsTo_of_absent (h : ∀ token, listening? token before ≠ some label)
    (hafter : ∀ token, .register token label ∉ after) :
    reportsTo label (heardOver before after) = [] := by
  induction after generalizing before with
  | nil => rfl
  | cons e after ih =>
    simp only [List.mem_cons, not_or] at hafter
    have hrest := ih (fun token => listening?_concat_ne (h token) (Ne.symm (hafter token).1))
      fun token => (hafter token).2
    have hnone : (e.report?.filter fun report => listening? report.token before = some label) = none := by
      simp [h]
    rw [reportsTo_heardOver_cons, hnone, hrest]
    rfl

theorem reportsTo_of_sole (h : ∀ other, listening? other before = some label ↔ other = token)
    (hafter : ∀ other, .register other label ∉ after) :
    reportsTo label (heardOver before after) =
      (period token after).filterMap (Event.reportOn? token) := by
  induction after generalizing before with
  | nil => rfl
  | cons e after ih =>
    simp only [List.mem_cons, not_or] at hafter
    have hothers : ∀ other, other ≠ token → listening? other (before ++ [e]) ≠ some label :=
      fun other hother => listening?_concat_ne (mt (h other).mp hother) (Ne.symm (hafter other).1)
    have hheard : (e.report?.filter fun report => listening? report.token before = some label) =
        e.reportOn? token := by
      simp [Event.reportOn?, h]
    rw [reportsTo_heardOver_cons, hheard, period_cons]
    cases hs : e.settled? token with
    | none =>
      -- the period continues
      have hsole : ∀ other, listening? other (before ++ [e]) = some label ↔ other = token := by
        intro other
        refine ⟨fun hl => by_contra fun hother => hothers other hother hl, ?_⟩
        rintro rfl
        rw [listening?_concat, hs]
        exact (h other).mpr rfl
      rw [ih hsole fun other => (hafter other).2]
      cases hr : e.reportOn? token <;> simp [Event.settles, hs, hr]
    | some settled =>
      -- the period ends with this event
      have habsent : ∀ other, listening? other (before ++ [e]) ≠ some label := by
        intro other
        by_cases hother : other = token
        · rw [hother, listening?_concat, hs]
          rintro rfl
          exact (hafter token).1 (eq_register_of_settled? hs).symm
        · exact hothers other hother
      rw [reportsTo_of_absent habsent fun other => (hafter other).2]
      cases hr : e.reportOn? token <;> simp [Event.settles, hs, hr]

/-- A listener receives the reports under its token during the period of its registration. -/
theorem reportsTo_registered (hother : ∀ other, .register other label ∉ before ++ after) :
    reportsTo label (heardOver [] (before ++ .register token label :: after)) =
      (period token after).filterMap (Event.reportOn? token) := by
  simp only [List.mem_append, not_or] at hother
  have hbefore : reportsTo label (heardOver [] before) = [] :=
    reportsTo_of_absent (fun _ => (Option.some_ne_none label).symm) fun other => (hother other).1
  have habsent : ∀ other, listening? other before ≠ some label :=
    fun other hl => (hother other).1 (register_mem_of_listening? hl)
  have hsole : ∀ other, listening? other (before ++ [.register token label]) = some label ↔
      other = token := by
    intro other
    by_cases ht : token = other
    · simp [listening?_concat, Event.settled?, ht]
    · simp [listening?_concat, Event.settled?, ht, habsent other, Ne.symm ht]
  have happend := heardOver_append ([] : List (Event κ)) before (.register token label :: after)
  rw [happend, reportsTo, List.filterMap_append]
  refine (congrArg (· ++ _) hbefore).trans ?_
  exact (reportsTo_heardOver_cons label _ _ _).trans (reportsTo_of_sole hsole fun other => (hother other).2)

theorem messagesTo_heardOf (label : κ) (before : List (Event κ)) (e : Event κ) :
    messagesTo label (heardOf before e) = if logging? before = some label then e.message?.toList else [] := by
  have hreport : (e.report?.bind fun report =>
      (listening? report.token before).map fun other => .progress other report).toList.filterMap
        (Heard.messageTo? label) = [] := by
    cases e.report? with
    | none => rfl
    | some report => cases hl : listening? report.token before <;> simp [hl, Heard.messageTo?]
  rw [heardOf, messagesTo, List.filterMap_append, hreport, List.nil_append]
  cases e.message? with
  | none => simp
  | some message =>
    cases hl : logging? before with
    | none => simp
    | some other => by_cases ho : other = label <;> simp [ho, Heard.messageTo?]

theorem messagesTo_heardOver_cons (label : κ) (before : List (Event κ)) (e : Event κ)
    (after : List (Event κ)) :
    messagesTo label (heardOver before (e :: after)) =
      (if logging? before = some label then e.message?.toList else []) ++
        messagesTo label (heardOver (before ++ [e]) after) := by
  rw [heardOver, messagesTo, List.filterMap_append]
  exact congrArg (· ++ _) (messagesTo_heardOf label before e)

theorem messagesTo_of_absent (h : logging? before ≠ some label) (hafter : .onLog label ∉ after) :
    messagesTo label (heardOver before after) = [] := by
  induction after generalizing before with
  | nil => rfl
  | cons e after ih =>
    simp only [List.mem_cons, not_or] at hafter
    rw [messagesTo_heardOver_cons, if_neg h, ih (logging?_concat_ne h (Ne.symm hafter.1)) hafter.2]
    rfl

theorem messagesTo_of_logging (h : logging? before = some label) (hafter : .onLog label ∉ after) :
    messagesTo label (heardOver before after) =
      (after.takeWhile fun e => e.logger?.isNone).filterMap Event.message? := by
  induction after generalizing before with
  | nil => rfl
  | cons e after ih =>
    simp only [List.mem_cons, not_or] at hafter
    rw [messagesTo_heardOver_cons, if_pos h]
    cases hl : e.logger? with
    | none =>
      have hkeeps : logging? (before ++ [e]) = some label := by rw [logging?_concat, hl, Option.none_or, h]
      rw [ih hkeeps hafter.2]
      cases hm : e.message? <;> simp [hl, hm]
    | some other =>
      obtain rfl := eq_onLog_of_logger? hl
      have habsent : logging? (before ++ [.onLog other]) ≠ some label := by
        rw [logging?_concat]
        rintro ⟨rfl⟩
        exact hafter.1 rfl
      rw [messagesTo_of_absent habsent hafter.2]
      rfl

theorem messagesTo_onLog (hother : .onLog label ∉ before ++ after) :
    messagesTo label (heardOver [] (before ++ .onLog label :: after)) =
      (after.takeWhile fun e => e.logger?.isNone).filterMap Event.message? := by
  simp only [List.mem_append, not_or] at hother
  have hbefore : messagesTo label (heardOver [] before) = [] :=
    messagesTo_of_absent (Option.some_ne_none label).symm hother.1
  have hplace : logging? (before ++ [.onLog label]) = some label := logging?_concat before _
  have happend := heardOver_append ([] : List (Event κ)) before (.onLog label :: after)
  rw [happend, messagesTo, List.filterMap_append]
  refine (congrArg (· ++ _) hbefore).trans ((messagesTo_heardOver_cons label _ _ _).trans ?_)
  rw [List.nil_append, messagesTo_of_logging hplace hother.2]
  split_ifs <;> rfl

/-- The notifications received over any run of events are as specified, event by event. A progress
listener, with a label that is registered only once, receives exactly the reports under its token
during the period of its registration; a listener for log messages receives exactly the messages
until it is replaced; each once and in order. The listeners at any time are those assigned by the
events, and undecodable and other notifications are ignored. -/
theorem hears_exactly (events : List (Event κ)) :
    (({} : Router κ).run events).1 = heardOver [] events ∧
    (∀ before token label after, events = before ++ .register token label :: after →
      (∀ other, .register other label ∉ before ++ after) →
      reportsTo label (({} : Router κ).run events).1 =
        (period token after).filterMap (Event.reportOn? token)) ∧
    (∀ before label after, events = before ++ .onLog label :: after → .onLog label ∉ before ++ after →
      messagesTo label (({} : Router κ).run events).1 =
        (after.takeWhile fun e => e.logger?.isNone).filterMap Event.message?) ∧
    (∀ token, (({} : Router κ).run events).2.listener? token =
      (listening? token events).map fun label => { label }) ∧
    (({} : Router κ).run events).2.log = logging? events ∧
    ∀ n : Rpc.Notification,
      (n.method = progressMethod → Router.params? Progress.codec n = none) →
      (n.method = messageMethod → Router.params? LogMessage.codec n = none) →
      (({} : Router κ).run events).2.handle n = ([], (({} : Router κ).run events).2) := by
  obtain ⟨hheard, hfollows⟩ := Router.ListensAs.empty.run events
  refine ⟨hheard, ?_, ?_, hfollows.progress, hfollows.log, ?_⟩
  · rintro before token label after rfl hother
    rw [hheard, reportsTo_registered hother]
  · rintro before label after rfl hother
    rw [hheard, messagesTo_onLog hother]
  · intro n hreport hmessage
    refine Router.handle_other ?_ ?_
    · simpa only [Event.report?, ite_eq_right_iff] using hreport
    · simpa only [Event.message?, ite_eq_right_iff] using hmessage

def workReport (token : ProgressToken) (kind : ProgressKind) (done : Nat) : Progress :=
  { token, kind, done, percentage := .zero }

def emptyMessage (level : LogLevel) : LogMessage := { level, data := .null }

/-- Listeners under a string and a numeric token, replacements for a progress listener and for the
log listener, and notifications in between: a last report, one without parameters, and some before a
registration or after its end. -/
def interleavedEvents : List (Event Nat) :=
  [.register (.string "build") 1,
    .arrive (emptyMessage .debug).notification,
    .register (.number 7) 2,
    .arrive (workReport (.string "build") .begin 0).notification,
    .onLog 4,
    .arrive { method := progressMethod },
    .arrive (workReport (.number 7) .finish 1).notification,
    .arrive (emptyMessage .info).notification,
    .register (.string "build") 3,
    .arrive (workReport (.string "build") .report 2).notification,
    .arrive (workReport (.number 7) .report 3).notification,
    .onLog 5,
    .arrive (emptyMessage .error).notification,
    .unregister (.string "build"),
    .arrive (workReport (.string "build") .finish 4).notification]

/-- What the listeners of `interleavedEvents` receive. -/
theorem hears_exactly_interleaved :
    reportsTo 1 (({} : Router Nat).run interleavedEvents).1 = [workReport (.string "build") .begin 0] ∧
    reportsTo 2 (({} : Router Nat).run interleavedEvents).1 = [workReport (.number 7) .finish 1] ∧
    reportsTo 3 (({} : Router Nat).run interleavedEvents).1 = [workReport (.string "build") .report 2] ∧
    messagesTo 4 (({} : Router Nat).run interleavedEvents).1 = [emptyMessage .info] := by
  obtain ⟨-, hreports, hmessages, -⟩ := hears_exactly interleavedEvents
  refine ⟨(hreports [] (.string "build") 1 _ rfl ?_).trans ?_,
    (hreports [_, _] (.number 7) 2 _ rfl ?_).trans ?_,
    (hreports [_, _, _, _, _, _, _, _] (.string "build") 3 _ rfl ?_).trans ?_,
    (hmessages [_, _, _, _] 4 _ rfl ?_).trans ?_⟩
  · simp
  · decide
  · simp
  · decide
  · simp
  · decide
  · simp
  · rfl

end ReleaseDesk.Client
