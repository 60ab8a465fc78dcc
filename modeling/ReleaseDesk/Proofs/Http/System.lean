import Mathlib.Data.List.Nodup
import Mathlib.Data.List.Pairwise
import Mathlib.Logic.Relation
import Mathlib.Tactic.Common
import ReleaseDesk.Http.Binding
import ReleaseDesk.Proofs.Service.Answer
import ReleaseDesk.Proofs.Stream.Wire
import ReleaseDesk.Proofs.Text.Utf8

/-! The concurrent system of HTTP posts and a session. Posts arrive, are queued when there is room,
collect their answers or are abandoned, while the session reads, carries out and writes, in any
interleaving. By the invariants of the queue and of the posts, a ticket belongs to one post, and the
answer delivered under it is the one to its message, whatever happens to the other posts. -/

namespace ReleaseDesk.Service.Server

def handleAll (s : Server ω) : List Rpc.Request → List (Option Rpc.Response) × Server ω
  | [] => ([], s)
  | r :: rs =>
    let (_, response, s) := s.handle r
    let (responses, s) := handleAll s rs
    (response :: responses, s)

theorem handleAll_concat (s : Server ω) (rs : List Rpc.Request) (r : Rpc.Request) :
    s.handleAll (rs ++ [r]) =
      ((s.handleAll rs).1 ++ [((s.handleAll rs).2.handle r).2.1],
        ((s.handleAll rs).2.handle r).2.2) := by
  induction rs generalizing s with
  | nil => rfl
  | cons r' rs ih => simp only [List.cons_append, handleAll, ih]

theorem handleAll_getElem? (s : Server ω) {rs : List Rpc.Request} {n : Nat} {r : Rpc.Request}
    (h : rs[n]? = some r) :
    (s.handleAll rs).1[n]? = some ((s.handleAll (rs.take n)).2.handle r).2.1 := by
  induction rs generalizing s n with
  | nil => simp at h
  | cons r' rs ih =>
    cases n with
    | zero =>
      cases h
      rfl
    | succ n => exact ih _ h

theorem handleAll_stopRequested (s : Server ω) (rs : List Rpc.Request) :
    (s.handleAll rs).2.stopRequested = s.stopRequested := by
  induction rs generalizing s with
  | nil => rfl
  | cons r rs ih => exact ih _

theorem handleAll_service (s : Server ω) (rs : List Rpc.Request) :
    (s.handleAll rs).2.service = s.service := by
  induction rs generalizing s with
  | nil => rfl
  | cons r rs ih => exact ih _

theorem handle_id (s : Server ω) (r : Rpc.Request) :
    (s.handle r).2.1.map (·.id) = r.id.map some := by
  rw [handle_answer, Option.map_map]
  congr 1
  funext id
  exact answerOf_id id _

end ReleaseDesk.Service.Server

namespace ReleaseDesk.Http

open ReleaseDesk.Service ReleaseDesk.Text Relation

/-! ### Operations of the binding -/

namespace Binding

variable {b b' : Binding}

theorem exists_enqueue (hopen : b.closed = false) (hroom : b.queue.length < queueSize)
    (r : Rpc.Request) : ∃ ticket b', b.enqueue r = some (ticket, b') := by
  unfold enqueue
  rw [if_neg (by simp [hopen, hroom])]
  split_ifs
  · exact ⟨_, _, rfl⟩
  · exact ⟨_, _, rfl⟩

theorem enqueue_cases {r : Rpc.Request} {ticket : Option Nat} (h : b.enqueue r = some (ticket, b')) :
    b.queue.length < queueSize ∧
      (r.id = none ∧ ticket = none ∧ b' = { b with queue := b.queue ++ [{ request := r }] } ∨
        r.id.isSome ∧ ticket = some b.tickets ∧
          b' = { b with
            queue := b.queue ++ [{ request := r, ticket := some b.tickets }]
            tickets := b.tickets + 1 }) := by
  unfold enqueue at h
  split_ifs at h with hfull hn
  all_goals
    cases h
    simp only [Bool.or_eq_true, decide_eq_true_eq, not_or, Nat.not_le] at hfull
    refine ⟨hfull.2, ?_⟩
  · exact .inl ⟨Option.isNone_iff_eq_none.mp hn, rfl, rfl⟩
  · exact .inr ⟨by simpa [Rpc.Request.isNotification, Option.isSome_iff_ne_none] using hn, rfl, rfl⟩

theorem take?_request {r : Rpc.Request} (h : b.take? = some (.request r, b')) :
    ∃ e rest, b.queue = e :: rest ∧ e.request = r ∧
      b' = { b with queue := rest, pending := e.ticket } := by
  unfold take? at h
  split_ifs at h
  · cases h
  · cases hq : b.queue with
    | nil =>
      rw [hq] at h
      cases h
    | cons e rest =>
      rw [hq] at h
      cases h
      exact ⟨e, rest, rfl, rfl, rfl⟩

theorem take?_cons (hopen : b.closed = false) {e : Exchange} {rest : List Exchange}
    (hq : b.queue = e :: rest) :
    b.take? = some (.request e.request, { b with queue := rest, pending := e.ticket }) := by
  unfold take?
  rw [if_neg (by simp [hopen]), hq]

theorem respond_eq (hopen : b.closed = false) (response : Rpc.Response) :
    b.respond response = (.ok (), { b with
      pending := none
      answers := b.pending.toList.map (fun ticket => (ticket, response)) ++ b.answers }) := by
  obtain ⟨queue, pending, answers, tickets, closed⟩ := b
  obtain rfl : closed = false := hopen
  cases pending <;> rfl

theorem respond_ok {response : Rpc.Response} (h : b.respond response = (.ok (), b')) :
    b' = { b with
      pending := none
      answers := b.pending.toList.map (fun ticket => (ticket, response)) ++ b.answers } := by
  have hopen : b.closed = false := by
    by_contra hclosed
    rw [respond, if_pos (by simpa using hclosed)] at h
    cases h
  exact (Prod.mk.inj (h.symm.trans (respond_eq hopen response))).2

theorem collect_some {ticket : Nat} {response : Rpc.Response}
    (h : b.collect ticket = (some response, b')) :
    (ticket, response) ∈ b.answers ∧
      b' = { b with answers := b.answers.filter (·.1 ≠ ticket) } := by
  obtain ⟨hfind, rfl⟩ := Prod.mk.inj h
  obtain ⟨⟨n, response'⟩, ha, rfl⟩ := Option.map_eq_some_iff.mp hfind
  obtain rfl : n = ticket := by simpa using List.find?_some ha
  exact ⟨List.mem_of_find?_eq_some ha, rfl⟩

theorem exists_collect {ticket : Nat} (h : ∃ a ∈ b.answers, a.1 = ticket) :
    ∃ response b', b.collect ticket = (some response, b') := by
  obtain ⟨a, ha, rfl⟩ := h
  obtain ⟨found, hfound⟩ : ∃ found, b.answers.find? (·.1 = a.1) = some found :=
    Option.isSome_iff_exists.mp (List.find?_isSome.mpr ⟨a, ha, by simp⟩)
  exact ⟨found.2, _, by rw [collect, hfound]; rfl⟩

/-- The answer under a ticket is expected, or delivered and not collected. -/
def HoldsTicket (b : Binding) (ticket : Nat) : Prop :=
  (∃ e ∈ b.queue, e.ticket = some ticket) ∨ b.pending = some ticket ∨ ∃ a ∈ b.answers, a.1 = ticket

theorem HoldsTicket.take (h : b.pending = none) {e : Exchange} {rest : List Exchange}
    (hq : b.queue = e :: rest) {ticket : Nat} (hk : b.HoldsTicket ticket) :
    HoldsTicket { b with queue := rest, pending := e.ticket } ticket := by
  rcases hk with ⟨e', he, ht⟩ | hp | ha
  · rw [hq] at he
    rcases List.mem_cons.mp he with rfl | he
    · exact .inr (.inl ht)
    · exact .inl ⟨e', he, ht⟩
  · rw [h] at hp
    cases hp
  · exact .inr (.inr ha)

theorem HoldsTicket.respond {ticket : Nat} (hk : b.HoldsTicket ticket) (response : Rpc.Response) :
    HoldsTicket { b with
      pending := none
      answers := b.pending.toList.map (fun ticket => (ticket, response)) ++ b.answers } ticket := by
  rcases hk with hq | hp | ⟨a, ha, ht⟩
  · exact .inl hq
  · exact .inr (.inr ⟨(ticket, response), by simp [hp], rfl⟩)
  · exact .inr (.inr ⟨a, List.mem_append_right _ ha, ht⟩)

theorem HoldsTicket.collect {ticket other : Nat} (hk : b.HoldsTicket ticket) (h : ticket ≠ other) :
    HoldsTicket { b with answers := b.answers.filter (·.1 ≠ other) } ticket := by
  rcases hk with hq | hp | ⟨a, ha, rfl⟩
  · exact .inl hq
  · exact .inr (.inl hp)
  · exact .inr (.inr ⟨a, List.mem_filter.mpr ⟨ha, by simpa using h⟩, rfl⟩)

end Binding

/-! ### The transition system -/

/-- The states of a post: not queued yet, waiting under a ticket, answered, or abandoned by its
sender. -/
inductive PostState
  | arriving (message : Rpc.Request)
  | waiting (ticket : Nat)
  | answered (answer : Answer)
  | abandoned

namespace PostState

def isOpen : PostState → Bool
  | arriving _ => true
  | waiting _ => true
  | _ => false

/-- The state of a post whose message has been queued. A notification is acknowledged. -/
def entered : Option Nat → PostState
  | none => answered (.empty 202)
  | some ticket => waiting ticket

end PostState

/-- An HTTP request with its progress. -/
structure Post where
  request : Request
  state : PostState

/-- The next action of the session. -/
inductive NextAction
  | read
  | carryOut (message : Rpc.Request)
  | write (response : Rpc.Response)

def NextAction.after : Option Rpc.Response → NextAction
  | none => read
  | some response => write response

/-- The state of the system, with two history variables: the messages queued, each with the index of
its post, and the messages carried out, each with its outcome. -/
structure SystemState (ω : Type) where
  server : Server ω
  binding : Binding := {}
  nextAction : NextAction := .read
  posts : List Post := []
  entered : List (Nat × Exchange) := []
  settled : List (Exchange × Option Rpc.Response) := []

/-- The steps of the system. After a stop request the session takes no further step, while the posts
continue. -/
inductive Step (path : String) : SystemState ω → SystemState ω → Prop
  | refuse (t : SystemState ω) (r : Request) (answer : Answer) (h : accept path r = .error answer) :
    Step path t { t with posts := t.posts ++ [⟨r, .answered answer⟩] }
  | arrive (t : SystemState ω) (r : Request) (message : Rpc.Request) (h : accept path r = .ok message) :
    Step path t { t with posts := t.posts ++ [⟨r, .arriving message⟩] }
  | enter (t : SystemState ω) (i : Nat) (r : Request) (message : Rpc.Request) (ticket : Option Nat)
      (binding : Binding) (hp : t.posts[i]? = some ⟨r, .arriving message⟩)
      (hb : t.binding.enqueue message = some (ticket, binding)) :
    Step path t { t with
      binding
      posts := t.posts.set i ⟨r, .entered ticket⟩
      entered := t.entered ++ [(i, { request := message, ticket })] }
  | read (t : SystemState ω) (message : Rpc.Request) (binding : Binding) (hd : t.nextAction = .read)
      (hb : t.binding.take? = some (.request message, binding)) :
    Step path t { t with binding, nextAction := .carryOut message }
  | carryOut (t : SystemState ω) (message : Rpc.Request) (hd : t.nextAction = .carryOut message) :
    Step path t { t with
      server := (t.server.handle message).2.2
      nextAction := .after (t.server.handle message).2.1
      settled := t.settled ++
        [({ request := message, ticket := t.binding.pending }, (t.server.handle message).2.1)] }
  | write (t : SystemState ω) (response : Rpc.Response) (binding : Binding)
      (hd : t.nextAction = .write response) (hb : t.binding.respond response = (.ok (), binding)) :
    Step path t { t with binding, nextAction := .read }
  | collect (t : SystemState ω) (i : Nat) (r : Request) (ticket : Nat) (response : Rpc.Response)
      (binding : Binding) (hp : t.posts[i]? = some ⟨r, .waiting ticket⟩)
      (hb : t.binding.collect ticket = (some response, binding)) :
    Step path t { t with binding, posts := t.posts.set i ⟨r, .answered (.ofResponse response)⟩ }
  | disconnect (t : SystemState ω) (i : Nat) (r : Request) (ticket : Nat)
      (hp : t.posts[i]? = some ⟨r, .waiting ticket⟩) (hb : ¬ t.binding.HoldsTicket ticket) :
    Step path t { t with posts := t.posts.set i ⟨r, .answered (.empty 503)⟩ }
  | abandon (t : SystemState ω) (i : Nat) (p : Post) (hp : t.posts[i]? = some p)
      (hf : p.state.isOpen = true) :
    Step path t { t with posts := t.posts.set i ⟨p.request, .abandoned⟩ }

/-! ### The invariant of the queue -/

namespace SystemState

/-- The message being carried out. -/
def inProgress (t : SystemState ω) : List Exchange :=
  match t.nextAction with
  | .carryOut message => [{ request := message, ticket := t.binding.pending }]
  | _ => []

@[simp] theorem inProgress_after (t : SystemState ω) (response : Option Rpc.Response)
    (h : t.nextAction = .after response) : t.inProgress = [] := by
  unfold inProgress
  rw [h]
  cases response <;> rfl

end SystemState

/-- The invariant of the queue and the session. The queued messages are those carried out, the one
in progress and those in the queue, in this order. No post waits at a session that is about to read.
Every ticket was issued once, to a message that expects a response, and the answers under tickets
are those to their messages. -/
structure QueueInvariant (start : Server ω) (t : SystemState ω) : Prop where
  isOpen : t.binding.closed = false
  room : t.binding.queue.length ≤ queueSize
  order : t.entered.map Prod.snd = t.settled.map Prod.fst ++ (t.inProgress ++ t.binding.queue)
  free : t.nextAction = .read → t.binding.pending = none
  owed : ∀ response, t.nextAction = .write response →
    ∃ e, (e, some response) ∈ t.settled ∧ e.ticket = t.binding.pending
  tickets : t.entered.filterMap (·.2.ticket) = List.range t.binding.tickets
  wanted : ∀ x ∈ t.entered, x.2.ticket.isSome = x.2.request.id.isSome
  carriedOut : start.handleAll (t.settled.map (·.1.request)) = (t.settled.map Prod.snd, t.server)
  held : ∀ a ∈ t.binding.answers, ∃ e, (e, some a.2) ∈ t.settled ∧ e.ticket = some a.1

namespace QueueInvariant

theorem start (server : Server ω) : QueueInvariant server { server } where
  isOpen := rfl
  room := Nat.zero_le _
  order := rfl
  free _ := rfl
  owed := nofun
  tickets := rfl
  wanted := nofun
  carriedOut := rfl
  held := nofun

variable {start : Server ω} {t t' : SystemState ω} {path : String}

theorem withPosts (h : QueueInvariant start t) (posts : List Post) : QueueInvariant start { t with posts } :=
  { h with }

theorem enter (h : QueueInvariant start t) {i : Nat} {message : Rpc.Request} {ticket : Option Nat}
    {binding : Binding} (hb : t.binding.enqueue message = some (ticket, binding)) :
    QueueInvariant start { t with
      binding, entered := t.entered ++ [(i, { request := message, ticket })] } := by
  have order (queue : List Exchange) (e : Exchange) (hq : queue = t.binding.queue ++ [e]) :
      (t.entered ++ [(i, e)]).map Prod.snd = t.settled.map Prod.fst ++ (t.inProgress ++ queue) := by
    simp [h.order, hq]
  have wanted (e : Exchange) (he : e.ticket.isSome = e.request.id.isSome) :
      ∀ x ∈ t.entered ++ [(i, e)], x.2.ticket.isSome = x.2.request.id.isSome :=
    List.forall_mem_append.mpr ⟨h.wanted, List.forall_mem_singleton.mpr he⟩
  obtain ⟨hroom, ⟨hid, rfl, rfl⟩ | ⟨hid, rfl, rfl⟩⟩ := Binding.enqueue_cases hb
  · exact {
      h with
      room := by simpa using Nat.succ_le_of_lt hroom
      order := order _ _ rfl
      tickets := by simp [h.tickets]
      wanted := wanted _ (by simp [hid]) }
  · exact {
      h with
      room := by simpa using Nat.succ_le_of_lt hroom
      order := order _ _ rfl
      tickets := by simp [h.tickets, List.range_succ]
      wanted := wanted _ (by simp [hid]) }

theorem read (h : QueueInvariant start t) {message : Rpc.Request} {binding : Binding}
    (hd : t.nextAction = .read) (hb : t.binding.take? = some (.request message, binding)) :
    QueueInvariant start { t with binding, nextAction := .carryOut message } := by
  obtain ⟨e, rest, hq, rfl, rfl⟩ := Binding.take?_request hb
  exact {
    h with
    room := by
      have hroom := h.room
      rw [hq, List.length_cons] at hroom
      exact Nat.le_of_succ_le hroom
    order := by
      rw [h.order, hq, SystemState.inProgress, hd]
      rfl
    free := nofun
    owed := nofun }

theorem pending_of_unanswered (h : QueueInvariant start t) {message : Rpc.Request}
    (hd : t.nextAction = .carryOut message) (hr : (t.server.handle message).2.1 = none) :
    t.binding.pending = none := by
  have hmem : ({ request := message, ticket := t.binding.pending } : Exchange) ∈
      t.entered.map Prod.snd := by
    rw [h.order, SystemState.inProgress, hd]
    simp
  obtain ⟨⟨i, e⟩, hx, he⟩ := List.mem_map.mp hmem
  have hwanted := h.wanted _ hx
  have hid := t.server.handle_id message
  rw [hr, Option.map_none, eq_comm, Option.map_eq_none_iff] at hid
  rw [he, hid] at hwanted
  simpa using hwanted

theorem carryOut (h : QueueInvariant start t) {message : Rpc.Request}
    (hd : t.nextAction = .carryOut message) :
    QueueInvariant start { t with
      server := (t.server.handle message).2.2
      nextAction := .after (t.server.handle message).2.1
      settled := t.settled ++
        [({ request := message, ticket := t.binding.pending }, (t.server.handle message).2.1)] } where
  isOpen := h.isOpen
  room := h.room
  order := by
    rw [SystemState.inProgress_after _ _ rfl, h.order, SystemState.inProgress, hd]
    simp
  free hread := by
    refine h.pending_of_unanswered hd ?_
    generalize (t.server.handle message).2.1 = response at hread
    cases response with
    | none => rfl
    | some response => cases hread
  owed response hwrite := by
    generalize (t.server.handle message).2.1 = outcome at hwrite ⊢
    cases outcome with
    | none => cases hwrite
    | some response' =>
      cases hwrite
      exact ⟨_, List.mem_append_right _ List.mem_cons_self, rfl⟩
  tickets := h.tickets
  wanted := h.wanted
  carriedOut := by
    rw [List.map_append, List.map_cons, List.map_nil, Server.handleAll_concat, h.carriedOut]
    simp
  held a ha := by
    obtain ⟨e, he, ht⟩ := h.held a ha
    exact ⟨e, List.mem_append_left _ he, ht⟩

theorem write (h : QueueInvariant start t) {response : Rpc.Response} {binding : Binding}
    (hd : t.nextAction = .write response) (hb : t.binding.respond response = (.ok (), binding)) :
    QueueInvariant start { t with binding, nextAction := .read } := by
  obtain rfl := Binding.respond_ok hb
  exact {
    h with
    order := by
      rw [h.order, SystemState.inProgress, hd]
      rfl
    free := fun _ => rfl
    owed := nofun
    held := fun a ha => by
      rcases List.mem_append.mp ha with ha | ha
      · obtain ⟨ticket, hp, rfl⟩ := List.mem_map.mp ha
        obtain ⟨e, he, ht⟩ := h.owed response hd
        exact ⟨e, he, ht.trans (Option.mem_toList.mp hp)⟩
      · exact h.held a ha }

theorem collect (h : QueueInvariant start t) {ticket : Nat} {response : Rpc.Response} {binding : Binding}
    (hb : t.binding.collect ticket = (some response, binding)) :
    QueueInvariant start { t with binding } := by
  obtain ⟨-, rfl⟩ := Binding.collect_some hb
  exact { h with held := fun a ha => h.held a (List.mem_of_mem_filter ha) }

theorem step (h : QueueInvariant start t) (hstep : Step path t t') : QueueInvariant start t' := by
  cases hstep with
  | refuse r answer hr => exact h.withPosts _
  | arrive r message hr => exact h.withPosts _
  | enter i r message ticket binding hp hb => exact (h.enter hb).withPosts _
  | read message binding hd hb => exact h.read hd hb
  | carryOut message hd => exact h.carryOut hd
  | write response binding hd hb => exact h.write hd hb
  | collect i r ticket response binding hp hb => exact (h.collect hb).withPosts _
  | disconnect i r ticket hp hb => exact h.withPosts _
  | abandon i p hp hf => exact h.withPosts _

theorem eq_of_ticket (h : QueueInvariant start t) {x y : Nat × Exchange} (hx : x ∈ t.entered)
    (hy : y ∈ t.entered) {ticket : Nat} (htx : x.2.ticket = some ticket)
    (hty : y.2.ticket = some ticket) : x = y := by
  have hnodup : (t.entered.filterMap (·.2.ticket)).Nodup := h.tickets ▸ List.nodup_range
  have hpairwise := List.pairwise_filterMap.mp hnodup
  have : Std.Symm fun x y : Nat × Exchange =>
      ∀ n, x.2.ticket = some n → ∀ m, y.2.ticket = some m → n ≠ m :=
    ⟨fun _ _ h n hn m hm => (h m hm n hn).symm⟩
  by_contra hne
  exact hpairwise.forall hx hy hne ticket htx ticket hty rfl

theorem entered_of_settled (h : QueueInvariant start t) {e : Exchange} {response : Option Rpc.Response}
    (he : (e, response) ∈ t.settled) : ∃ i, (i, e) ∈ t.entered := by
  have hmem : e ∈ t.entered.map Prod.snd := by
    rw [h.order]
    exact List.mem_append_left _ (List.mem_map_of_mem he)
  obtain ⟨⟨i, e'⟩, hx, rfl⟩ := List.mem_map.mp hmem
  exact ⟨i, hx⟩

end QueueInvariant

/-! ### The invariant of the posts -/

/-- The admissible states of a post. -/
inductive Admissible (path : String) (t : SystemState ω) (i : Nat) : Post → Prop
  | refused {r : Request} {answer : Answer} (h : accept path r = .error answer) :
    Admissible path t i ⟨r, .answered answer⟩
  | arriving {r : Request} {message : Rpc.Request} (h : accept path r = .ok message)
      (hi : i ∉ t.entered.map Prod.fst) : Admissible path t i ⟨r, .arriving message⟩
  | noted {r : Request} {message : Rpc.Request} (h : accept path r = .ok message)
      (hid : message.id = none) : Admissible path t i ⟨r, .answered (.empty 202)⟩
  | waiting {r : Request} {e : Exchange} {ticket : Nat} (h : accept path r = .ok e.request)
      (he : (i, e) ∈ t.entered) (ht : e.ticket = some ticket) (hk : t.binding.HoldsTicket ticket) :
    Admissible path t i ⟨r, .waiting ticket⟩
  | answered {r : Request} {e : Exchange} {response : Rpc.Response}
      (h : accept path r = .ok e.request) (he : (i, e) ∈ t.entered) (ht : e.ticket.isSome = true)
      (hr : (e, some response) ∈ t.settled) : Admissible path t i ⟨r, .answered (.ofResponse response)⟩
  | abandoned {r : Request} {message : Rpc.Request} (h : accept path r = .ok message) :
    Admissible path t i ⟨r, .abandoned⟩

/-- Admissibility is monotone as long as nothing is queued, the history grows, and the ticket is
kept. -/
theorem Admissible.mono {path : String} {t t' : SystemState ω} {i : Nat} {p : Post}
    (h : Admissible path t i p)
    (he : t'.entered = t.entered) (hs : t.settled ⊆ t'.settled)
    (hk : ∀ ticket, p.state = .waiting ticket → t.binding.HoldsTicket ticket →
    t'.binding.HoldsTicket ticket) :
    Admissible path t' i p := by
  cases h with
  | refused h => exact .refused h
  | arriving h hi => exact .arriving h (he ▸ hi)
  | noted h hid => exact .noted h hid
  | waiting h hentered ht hkept => exact .waiting h (he ▸ hentered) ht (hk _ rfl hkept)
  | answered h hentered ht hr => exact .answered h (he ▸ hentered) ht (hs hr)
  | abandoned h => exact .abandoned h

/-- The invariant of the posts: the queued messages are those of the posts, each queued at most
once, and every post is in an admissible state. -/
structure PostInvariant (path : String) (t : SystemState ω) : Prop where
  posted : ∀ x ∈ t.entered, ∃ p, t.posts[x.1]? = some p ∧ accept path p.request = .ok x.2.request
  once : (t.entered.map Prod.fst).Nodup
  admissible : ∀ i p, t.posts[i]? = some p → Admissible path t i p

section Places

variable {α : Type} {as : List α} {a b : α} {i j : Nat}

theorem getElem?_concat_cases (h : (as ++ [b])[i]? = some a) :
    as[i]? = some a ∨ i = as.length ∧ a = b := by
  rw [List.getElem?_append] at h
  split_ifs at h with hi
  · exact .inl h
  · obtain ⟨hlt, rfl⟩ := List.getElem?_eq_some_iff.mp h
    rw [List.length_singleton] at hlt
    exact .inr ⟨by omega, by simp⟩

theorem getElem?_set_cases (h : (as.set i b)[j]? = some a) :
    j = i ∧ a = b ∨ j ≠ i ∧ as[j]? = some a := by
  rw [List.getElem?_set] at h
  split_ifs at h with hij hi
  · cases h
    exact .inl ⟨hij.symm, rfl⟩
  · exact .inr ⟨Ne.symm hij, h⟩

end Places

namespace PostInvariant

theorem start (path : String) (server : Server ω) : PostInvariant path { server := server } where
  posted := nofun
  once := List.nodup_nil
  admissible := nofun

variable {path : String} {start : Server ω} {t t' : SystemState ω}

theorem lt_length (h : PostInvariant path t) {i : Nat} (hi : i ∈ t.entered.map Prod.fst) :
    i < t.posts.length := by
  obtain ⟨x, hx, rfl⟩ := List.mem_map.mp hi
  obtain ⟨p, hp, -⟩ := h.posted x hx
  exact (List.getElem?_eq_some_iff.mp hp).1

theorem ofSession (h : PostInvariant path t) (hp : t'.posts = t.posts) (he : t'.entered = t.entered)
    (hs : t.settled ⊆ t'.settled)
    (hk : ∀ ticket, t.binding.HoldsTicket ticket → t'.binding.HoldsTicket ticket) :
    PostInvariant path t' where
  posted := by
    rw [hp, he]
    exact h.posted
  once := he ▸ h.once
  admissible i p hi := (h.admissible i p (hp ▸ hi)).mono he hs fun ticket _ => hk ticket

theorem concat (h : PostInvariant path t) {p : Post} (hp : Admissible path t t.posts.length p) :
    PostInvariant path { t with posts := t.posts ++ [p] } where
  posted x hx := by
    obtain ⟨p', hp', hr⟩ := h.posted x hx
    exact ⟨p', (List.getElem?_append_left (h.lt_length (List.mem_map_of_mem hx))).trans hp', hr⟩
  once := h.once
  admissible i p' hi := by
    have hbefits : Admissible path t i p' := by
      rcases getElem?_concat_cases hi with hi | ⟨rfl, rfl⟩
      · exact h.admissible i p' hi
      · exact hp
    exact hbefits.mono rfl (List.Subset.refl _) fun _ _ hk => hk

theorem set (h : PostInvariant path t) {i : Nat} {r : Request} {state state' : PostState} {binding : Binding}
    (hp : t.posts[i]? = some ⟨r, state⟩) (hb : Admissible path t i ⟨r, state'⟩)
    (hf : ∀ ticket, state' ≠ .waiting ticket)
    (hk : ∀ j ticket r', j ≠ i → t.posts[j]? = some ⟨r', .waiting ticket⟩ →
      t.binding.HoldsTicket ticket → binding.HoldsTicket ticket) :
    PostInvariant path { t with binding, posts := t.posts.set i ⟨r, state'⟩ } where
  posted x hx := by
    obtain ⟨p', hp', hr⟩ := h.posted x hx
    by_cases hi : x.1 = i
    · rw [hi, hp] at hp'
      cases hp'
      refine ⟨⟨r, state'⟩, ?_, hr⟩
      rw [hi]
      exact List.getElem?_set_self (List.getElem?_eq_some_iff.mp hp).1
    · exact ⟨p', (List.getElem?_set_ne (Ne.symm hi)).trans hp', hr⟩
  once := h.once
  admissible j p' hj := by
    rcases getElem?_set_cases hj with ⟨rfl, rfl⟩ | ⟨hne, hj⟩
    · exact hb.mono rfl (List.Subset.refl _) fun ticket ht => absurd ht (hf ticket)
    · refine (h.admissible j p' hj).mono rfl (List.Subset.refl _) fun ticket ht => ?_
      obtain ⟨r', state''⟩ := p'
      cases ht
      exact hk j ticket r' hne hj

theorem enter (h : PostInvariant path t) {i : Nat} {r : Request} {message : Rpc.Request}
    {ticket : Option Nat} {binding : Binding} (hp : t.posts[i]? = some ⟨r, .arriving message⟩)
    (hb : t.binding.enqueue message = some (ticket, binding)) :
    PostInvariant path { t with
      binding
      posts := t.posts.set i ⟨r, .entered ticket⟩
      entered := t.entered ++ [(i, { request := message, ticket })] } := by
  obtain ⟨hr, hi⟩ : accept path r = .ok message ∧ i ∉ t.entered.map Prod.fst := by
    cases h.admissible i _ hp with
    | arriving hr hi => exact ⟨hr, hi⟩
  have hlt := (List.getElem?_eq_some_iff.mp hp).1
  have hkeeps {n : Nat} (hk : t.binding.HoldsTicket n) : binding.HoldsTicket n := by
    obtain ⟨-, ⟨-, -, rfl⟩ | ⟨-, -, rfl⟩⟩ := Binding.enqueue_cases hb <;>
      exact hk.imp_left fun ⟨e, he, ht⟩ => ⟨e, List.mem_append_left _ he, ht⟩
  refine ⟨?_, ?_, fun j p hj => ?_⟩
  · refine List.forall_mem_append.mpr ⟨fun x hx => ?_, List.forall_mem_singleton.mpr ?_⟩
    · obtain ⟨p, hp', hr'⟩ := h.posted x hx
      have hne : x.1 ≠ i := fun hxi => hi (hxi ▸ List.mem_map_of_mem hx)
      exact ⟨p, (List.getElem?_set_ne (Ne.symm hne)).trans hp', hr'⟩
    · exact ⟨_, List.getElem?_set_self hlt, hr⟩
  · rw [List.map_append, List.nodup_append]
    refine ⟨h.once, List.nodup_singleton i, ?_⟩
    rintro a ha _ hb rfl
    obtain rfl : a = i := List.mem_singleton.mp hb
    exact hi ha
  · rcases getElem?_set_cases hj with ⟨rfl, rfl⟩ | ⟨hne, hj⟩
    · obtain ⟨-, ⟨hid, rfl, rfl⟩ | ⟨-, rfl, rfl⟩⟩ := Binding.enqueue_cases hb
      · exact .noted hr hid
      · refine .waiting (e := { request := message, ticket := some t.binding.tickets }) hr ?_ rfl
          (.inl ⟨{ request := message, ticket := some t.binding.tickets }, ?_, rfl⟩) <;> simp
    · cases h.admissible j p hj with
      | refused h => exact .refused h
      | arriving h hi => exact .arriving h (by simpa [hne] using hi)
      | noted h hid => exact .noted h hid
      | waiting h he ht hk => exact .waiting h (List.mem_append_left _ he) ht (hkeeps hk)
      | answered h he ht hs => exact .answered h (List.mem_append_left _ he) ht hs
      | abandoned h => exact .abandoned h

theorem collect (h : PostInvariant path t) (ho : QueueInvariant start t) {i : Nat} {r : Request}
    {ticket : Nat}
    {response : Rpc.Response} {binding : Binding}
    (hp : t.posts[i]? = some ⟨r, .waiting ticket⟩)
    (hb : t.binding.collect ticket = (some response, binding)) :
    PostInvariant path
      { t with binding, posts := t.posts.set i ⟨r, .answered (.ofResponse response)⟩ } := by
  obtain ⟨ha, rfl⟩ := Binding.collect_some hb
  cases h.admissible i _ hp with
  | @waiting _ e _ hr he ht hk =>
    -- The answer under the ticket is that of a message with the ticket, of which there is one.
    obtain ⟨e', hs, ht'⟩ := ho.held _ ha
    obtain ⟨j, he'⟩ := ho.entered_of_settled hs
    obtain ⟨rfl, rfl⟩ := Prod.mk.inj (ho.eq_of_ticket he he' ht ht')
    refine h.set hp (.answered hr he (by rw [ht]; rfl) hs) nofun fun j n r' hne hj hkept => ?_
    refine hkept.collect fun hn => hne ?_
    cases h.admissible j _ hj with
    | waiting _ hej htj _ => exact congrArg Prod.fst (ho.eq_of_ticket hej he (hn ▸ htj) ht)

theorem step (h : PostInvariant path t) (ho : QueueInvariant start t) (hstep : Step path t t') :
    PostInvariant path t' := by
  cases hstep with
  | refuse r answer hr => exact h.concat (.refused hr)
  | arrive r message hr => exact h.concat (.arriving hr fun hi => Nat.lt_irrefl _ (h.lt_length hi))
  | enter i r message ticket binding hp hb => exact h.enter hp hb
  | read message binding hd hb =>
    obtain ⟨e, rest, hq, -, rfl⟩ := Binding.take?_request hb
    exact h.ofSession rfl rfl (List.Subset.refl _) fun _ hk => hk.take (ho.free hd) hq
  | carryOut message hd =>
    exact h.ofSession rfl rfl (List.subset_append_left _ _) fun _ hk => hk
  | write response binding hd hb =>
    obtain rfl := Binding.respond_ok hb
    exact h.ofSession rfl rfl (List.Subset.refl _) fun _ hk => hk.respond response
  | collect i r ticket response binding hp hb => exact h.collect ho hp hb
  | disconnect i r ticket hp hb =>
    cases h.admissible i _ hp with
    | waiting _ _ _ hk => exact absurd hk hb
  | abandon i p hp hf =>
    obtain ⟨r, state⟩ := p
    obtain ⟨message, hr⟩ : ∃ message, accept path r = .ok message := by
      cases h.admissible i _ hp with
      | arriving hr => exact ⟨_, hr⟩
      | waiting hr => exact ⟨_, hr⟩
      | _ => cases hf
    exact h.set hp (.abandoned hr) nofun fun _ _ _ _ _ hk => hk

end PostInvariant

/-! ### Answers do not cross -/

/-- The session carries out the queued messages in order, each once. A post without a message is
answered at once and is not queued, a notification is acknowledged, and every other post gets the
response to its own message, under its own id, by the server after the messages queued before it. -/
structure AnswersMatch (path : String) (server : Server ω) (t : SystemState ω) : Prop where
  free : t.nextAction = .read → t.binding.pending = none
  room : t.binding.queue.length ≤ queueSize
  posted : ∀ x ∈ t.entered, ∃ p, t.posts[x.1]? = some p ∧ accept path p.request = .ok x.2.request
  once : (t.entered.map Prod.fst).Nodup
  inOrder : t.settled.map Prod.fst <+: t.entered.map Prod.snd
  carriedOut : server.handleAll (t.settled.map (·.1.request)) = (t.settled.map Prod.snd, t.server)
  refused : ∀ (i : Nat) (p : Post) (answer : Answer), t.posts[i]? = some p →
    accept path p.request = .error answer → p.state = .answered answer ∧ i ∉ t.entered.map Prod.fst
  noted : ∀ (i : Nat) (p : Post) (message : Rpc.Request) (answer : Answer), t.posts[i]? = some p →
    accept path p.request = .ok message → message.id = none → p.state = .answered answer →
    answer = .empty 202
  answered : ∀ (i : Nat) (p : Post) (message : Rpc.Request) (id : Rpc.RequestId) (answer : Answer),
    t.posts[i]? = some p → accept path p.request = .ok message → message.id = some id →
    p.state = .answered answer →
    ∃ n e response, t.entered[n]? = some (i, e) ∧ e.request = message ∧
      ((server.handleAll ((t.entered.take n).map (·.2.request))).2.handle message).2.1 =
        some response ∧
      response.id = some id ∧ answer = .ofResponse response

section

variable {path : String} {server : Server ω} {t : SystemState ω}

theorem queueInvariant_of_run (h : ReflTransGen (Step path) { server } t) : QueueInvariant server t := by
  induction h with
  | refl => exact .start server
  | tail _ hstep ih => exact ih.step hstep

theorem postInvariant_of_run (h : ReflTransGen (Step path) { server } t) : PostInvariant path t := by
  induction h with
  | refl => exact .start path server
  | tail hrun hstep ih => exact ih.step (queueInvariant_of_run hrun) hstep

namespace QueueInvariant

theorem inOrder (h : QueueInvariant server t) : t.settled.map Prod.fst <+: t.entered.map Prod.snd :=
  ⟨_, h.order.symm⟩

theorem settled_eq (h : QueueInvariant server t) {n : Nat} {e : Exchange} {response : Option Rpc.Response}
    (hs : t.settled[n]? = some (e, response)) :
    ((server.handleAll ((t.entered.take n).map (·.2.request))).2.handle e.request).2.1 = response := by
  have hlt := (List.getElem?_eq_some_iff.mp hs).1
  have hbefore : (t.entered.take n).map (·.2.request) = (t.settled.map (·.1.request)).take n := by
    have hsnd : (t.entered.take n).map Prod.snd = (t.settled.map Prod.fst).take n := by
      rw [List.map_take, h.order, List.take_append_of_le_length (by simpa using Nat.le_of_lt hlt)]
    simpa [List.map_map, Function.comp_def, List.map_take] using
      congrArg (List.map Exchange.request) hsnd
  have hmine : (t.settled.map (·.1.request))[n]? = some e.request := by
    rw [List.getElem?_map, hs]
    rfl
  have hanswer := server.handleAll_getElem? hmine
  rw [h.carriedOut, List.getElem?_map, hs] at hanswer
  rw [hbefore]
  exact (Option.some.inj hanswer).symm

theorem entered_place (h : QueueInvariant server t) {i : Nat} {e : Exchange} (he : (i, e) ∈ t.entered)
    (ht : e.ticket.isSome = true) {n : Nat} {response : Option Rpc.Response}
    (hs : t.settled[n]? = some (e, response)) : t.entered[n]? = some (i, e) := by
  have hlt := (List.getElem?_eq_some_iff.mp hs).1
  have hplace : (t.entered.map Prod.snd)[n]? = some e := by
    rw [h.order, List.getElem?_append_left (by simpa using hlt), List.getElem?_map, hs]
    rfl
  obtain ⟨x, hx, rfl⟩ := Option.map_eq_some_iff.mp ((List.getElem?_map ..).symm.trans hplace)
  obtain ⟨ticket, ht⟩ := Option.isSome_iff_exists.mp ht
  rw [hx, h.eq_of_ticket (List.mem_of_getElem? hx) he ht ht]

end QueueInvariant

theorem answersMatch_of_run (h : ReflTransGen (Step path) { server } t) : AnswersMatch path server t := by
  have ho := queueInvariant_of_run h
  have ha := postInvariant_of_run h
  refine ⟨ho.free, ho.room, ha.posted, ha.once, ho.inOrder, ho.carriedOut, ?_, ?_, ?_⟩
  · rintro i ⟨r, state⟩ answer hp hr
    have hout : i ∉ t.entered.map Prod.fst := fun hi => by
      obtain ⟨x, hx, rfl⟩ := List.mem_map.mp hi
      obtain ⟨p, hp', hr'⟩ := ha.posted x hx
      rw [hp] at hp'
      cases hp'
      cases hr.symm.trans hr'
    refine ⟨?_, hout⟩
    cases ha.admissible i _ hp with
    | refused hr' =>
      cases hr.symm.trans hr'
      rfl
    | _ hr' => cases hr.symm.trans hr'
  · rintro i ⟨r, state⟩ message answer hp hr hid rfl
    cases ha.admissible i _ hp with
    | refused hr' => cases hr.symm.trans hr'
    | noted => rfl
    | answered hr' he ht =>
      cases hr.symm.trans hr'
      rw [ho.wanted _ he, hid] at ht
      cases ht
  · rintro i ⟨r, state⟩ message id answer hp hr hid rfl
    cases ha.admissible i _ hp with
    | refused hr' => cases hr.symm.trans hr'
    | noted hr' hid' =>
      cases hr.symm.trans hr'
      cases hid.symm.trans hid'
    | @answered _ e response hr' he ht hs =>
      cases hr.symm.trans hr'
      obtain ⟨n, hn⟩ := List.mem_iff_getElem?.mp hs
      have hanswer := ho.settled_eq hn
      refine ⟨n, e, response, ho.entered_place he ht hn, rfl, hanswer, ?_, rfl⟩
      have hid' := Server.handle_id (server.handleAll ((t.entered.take n).map (·.2.request))).2 e.request
      rw [hanswer, hid] at hid'
      exact Option.some.inj hid'

end

theorem accept_text {path : String} {r : Request} {cs : List Char} (hp : pathOf r.target = path)
    (hm : r.method = "POST") (hb : r.body = Utf8.encode cs) (hl : r.body.length ≤ bodyLimit) :
    accept path r = (Rpc.Request.parse (String.ofList cs)).mapError fun refusal =>
      .ofResponse refusal.fault.reply := by
  unfold accept
  rw [if_neg (not_not.mpr hp), if_neg (not_not.mpr hm), if_neg (Nat.not_lt.mpr hl), hb,
    Utf8.decode_encode]

/-- In every reachable state of the system answers do not cross, and a text that is not a request is
answered at once under the null id and is not queued. -/
theorem answers_never_cross {path : String} {server : Server ω} {t : SystemState ω}
    (h : ReflTransGen (Step path) { server } t) :
    AnswersMatch path server t ∧
    ∀ i p cs refusal, t.posts[i]? = some p → pathOf p.request.target = path →
      p.request.method = "POST" → p.request.body = Utf8.encode cs →
      p.request.body.length ≤ bodyLimit →
      Rpc.Request.parse (String.ofList cs) = .error refusal →
      p.state = .answered (.ofResponse (.failure none refusal.fault.errorObject)) ∧
        i ∉ t.entered.map Prod.fst := by
  have hu := answersMatch_of_run h
  refine ⟨hu, fun i p cs refusal hi hp hm hb hl hr => hu.refused i p _ hi ?_⟩
  rw [accept_text hp hm hb hl, hr]
  rfl

def ping (i : Int) : Rpc.Request := { id := some (.number i), method := "ping" }

theorem parse_ping {i : Int} (hi : (Rpc.RequestId.number i).InRange) :
    Rpc.Request.parse (Rpc.Request.codec.render (ping i)) = .ok (ping i) := by
  have hid : ∀ id, (ping i).id = some id → id.InRange := by
    rintro id ⟨⟩
    exact hi
  exact Rpc.Request.parse_render hid rfl (Rpc.Request.fits hid nofun)

/-- Two posts wait; the first is abandoned, and the second gets its own answer. -/
theorem answers_never_cross_abandoned :
    let server : Server Unit :=
      { service := { info := ⟨"desk", "1"⟩ }, scene := { world := (), supply := ⟨.epoch, 0⟩ } }
    ∃ t, ReflTransGen (Step "/mcp") { server } t ∧
      t.posts.map (·.state) =
        [.abandoned, .answered (.ofResponse (.success (some (.number 2)) nothing))] ∧
      AnswersMatch "/mcp" server t := by
  intro server
  let post (s : String) : Request := { target := "/mcp", body := Utf8.encode s.toList }
  have posted (s : String) (hs : (Utf8.encode s.toList).length ≤ bodyLimit) :
      accept "/mcp" (post s) = (Rpc.Request.parse s).mapError fun refusal =>
        .ofResponse refusal.fault.reply := by
    have hpath : pathOf "/mcp" = "/mcp" := by decide
    have htext : accept "/mcp" (post s) = _ := accept_text hpath rfl rfl hs
    rw [htext, String.ofList_toList]
  have one := (posted _ (by decide)).trans
    (congrArg (Except.mapError _) (parse_ping (i := 1) ⟨by decide, by decide⟩))
  have two := (posted _ (by decide)).trans
    (congrArg (Except.mapError _) (parse_ping (i := 2) ⟨by decide, by decide⟩))
  have run : ReflTransGen (Step "/mcp") { server } _ :=
    .head (.arrive _ _ _ one) <| .head (.arrive _ _ _ two) <|
    .head (.enter _ 0 _ _ _ _ rfl rfl) <| .head (.enter _ 1 _ _ _ _ rfl rfl) <|
    .head (.abandon _ 0 _ rfl rfl) <|
    .head (.read _ _ _ rfl rfl) <| .head (.carryOut _ _ rfl) <| .head (.write _ _ _ rfl rfl) <|
    .head (.read _ _ _ rfl rfl) <| .head (.carryOut _ _ rfl) <| .head (.write _ _ _ rfl rfl) <|
    .single (.collect _ 1 _ _ _ _ rfl rfl)
  exact ⟨_, run, rfl, (answers_never_cross run).1⟩

end ReleaseDesk.Http
