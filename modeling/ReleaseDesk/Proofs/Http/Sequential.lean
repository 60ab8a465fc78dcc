import ReleaseDesk.Proofs.Http.System
import ReleaseDesk.Proofs.Stream.Delivery
import ReleaseDesk.Proofs.Stream.Framing
import ReleaseDesk.Stream.Server

/-! Sequential HTTP clients, which wait for the answer to each request before they send the next
one. The acknowledgement of a notification may still precede its execution, but messages are queued
in the order sent. So the answers are those written on a stream on the same lines, and the final
state of the server is the same. -/

namespace ReleaseDesk.Http

open ReleaseDesk.Service ReleaseDesk.Stream ReleaseDesk.Text Relation

/-- The HTTP answer for the outcome of a message. -/
def Answer.ofOutcome : Option Rpc.Response → Answer
  | none => .empty 202
  | some response => .ofResponse response

/-- A step with a sequential client: there is no new post while one is unanswered, and none is
abandoned. -/
structure SequentialStep (path : String) (t t' : SystemState ω) : Prop where
  step : Step path t t'
  waits : t.posts.length < t'.posts.length → ∀ p ∈ t.posts, p.state.isOpen = false
  stays : ∀ p ∈ t'.posts, p.state ≠ .abandoned

/-! ### The posts of a sequential client -/

/-- Successive posts, all answered, with the messages that they queued. -/
inductive AllAnswered (path : String) (server : Server ω) : List Post → List Rpc.Request → Prop
  | nil : AllAnswered path server [] []
  | refused {posts : List Post} {messages : List Rpc.Request} {r : Request} {answer : Answer}
      (h : AllAnswered path server posts messages) (hr : accept path r = .error answer) :
    AllAnswered path server (posts ++ [⟨r, .answered answer⟩]) messages
  | carriedOut {posts : List Post} {messages : List Rpc.Request} {r : Request}
      {message : Rpc.Request} (h : AllAnswered path server posts messages)
      (hr : accept path r = .ok message) :
    AllAnswered path server
      (posts ++ [⟨r, .answered (.ofOutcome ((server.handleAll messages).2.handle message).2.1)⟩])
      (messages ++ [message])

def messagesOf (entered : List (Nat × Exchange)) : List Rpc.Request := entered.map (·.2.request)

@[simp] theorem messagesOf_concat (entered : List (Nat × Exchange)) (x : Nat × Exchange) :
    messagesOf (entered ++ [x]) = messagesOf entered ++ [x.2.request] := by
  simp [messagesOf]

/-- Posts of which all but the last are answered. -/
inductive LastOpen (path : String) (server : Server ω) :
    List Post → List (Nat × Exchange) → Prop
  | answered {posts : List Post} {entered : List (Nat × Exchange)}
      (h : AllAnswered path server posts (messagesOf entered)) : LastOpen path server posts entered
  | arriving {posts : List Post} {entered : List (Nat × Exchange)} {r : Request}
      {message : Rpc.Request} (h : AllAnswered path server posts (messagesOf entered))
      (hr : accept path r = .ok message) :
    LastOpen path server (posts ++ [⟨r, .arriving message⟩]) entered
  | waiting {posts : List Post} {entered : List (Nat × Exchange)} {r : Request} {i : Nat}
      {e : Exchange} {ticket : Nat} (h : AllAnswered path server posts (messagesOf entered))
      (hr : accept path r = .ok e.request) (ht : e.ticket = some ticket) :
    LastOpen path server (posts ++ [⟨r, .waiting ticket⟩]) (entered ++ [(i, e)])

section

variable {path : String} {server : Server ω} {posts : List Post} {messages : List Rpc.Request}
  {entered : List (Nat × Exchange)} {i : Nat} {r : Request}

theorem AllAnswered.exists_answer (h : AllAnswered path server posts messages) :
    ∀ p ∈ posts, ∃ answer, p.state = .answered answer := by
  induction h with
  | nil => exact nofun
  | refused _ _ ih =>
    exact List.forall_mem_append.mpr ⟨ih, List.forall_mem_singleton.mpr ⟨_, rfl⟩⟩
  | carriedOut _ _ ih =>
    exact List.forall_mem_append.mpr ⟨ih, List.forall_mem_singleton.mpr ⟨_, rfl⟩⟩

theorem AllAnswered.isOpen_eq (h : AllAnswered path server posts messages) {p : Post} (hp : p ∈ posts) :
    p.state.isOpen = false := by
  obtain ⟨answer, hanswer⟩ := h.exists_answer p hp
  rw [hanswer]
  rfl

theorem AllAnswered.eq_of_isOpen (h : AllAnswered path server posts messages) {p q : Post}
    (hp : (posts ++ [q])[i]? = some p) (ho : p.state.isOpen = true) : i = posts.length ∧ p = q := by
  rcases getElem?_concat_cases hp with hp | hlast
  · rw [h.isOpen_eq (List.mem_of_getElem? hp)] at ho
    cases ho
  · exact hlast

namespace LastOpen

theorem allAnswered (h : LastOpen path server posts entered) (hc : ∀ p ∈ posts, p.state.isOpen = false) :
    AllAnswered path server posts (messagesOf entered) := by
  cases h with
  | answered h => exact h
  | arriving h hr => cases hc _ (List.mem_append_right _ List.mem_cons_self)
  | waiting h hr ht => cases hc _ (List.mem_append_right _ List.mem_cons_self)

theorem of_arriving (h : LastOpen path server posts entered) {message : Rpc.Request}
    (hp : posts[i]? = some ⟨r, .arriving message⟩) :
    ∃ before, posts = before ++ [⟨r, .arriving message⟩] ∧ i = before.length ∧
      accept path r = .ok message ∧ AllAnswered path server before (messagesOf entered) := by
  cases h with
  | answered h => cases h.isOpen_eq (List.mem_of_getElem? hp)
  | arriving h hr =>
    obtain ⟨hi, hlast⟩ := h.eq_of_isOpen hp rfl
    cases hlast
    exact ⟨_, rfl, hi, hr, h⟩
  | waiting h hr ht => cases (h.eq_of_isOpen hp rfl).2

theorem of_waiting (h : LastOpen path server posts entered) {ticket : Nat}
    (hp : posts[i]? = some ⟨r, .waiting ticket⟩) :
    ∃ before earlier j e, posts = before ++ [⟨r, .waiting ticket⟩] ∧ i = before.length ∧
      entered = earlier ++ [(j, e)] ∧ accept path r = .ok e.request ∧ e.ticket = some ticket ∧
      AllAnswered path server before (messagesOf earlier) := by
  cases h with
  | answered h => cases h.isOpen_eq (List.mem_of_getElem? hp)
  | arriving h hr => cases (h.eq_of_isOpen hp rfl).2
  | waiting h hr ht =>
    obtain ⟨hi, hlast⟩ := h.eq_of_isOpen hp rfl
    cases hlast
    exact ⟨_, _, _, _, rfl, hi, rfl, hr, ht, h⟩

end LastOpen

end

section

variable {path : String} {server : Server ω} {t t' : SystemState ω}

theorem set_last {α : Type} (as : List α) (a b : α) : (as ++ [a]).set as.length b = as ++ [b] := by
  simp

/-- The last message queued gets the response of the server after the messages before it. -/
theorem QueueInvariant.answer_last (ho : QueueInvariant server t) (ha : PostInvariant path t)
    {earlier : List (Nat × Exchange)} {j : Nat} {e : Exchange} {ticket : Nat}
    {response : Rpc.Response} (he : t.entered = earlier ++ [(j, e)]) (ht : e.ticket = some ticket)
    (hanswer : (ticket, response) ∈ t.binding.answers) :
    ((server.handleAll (messagesOf earlier)).2.handle e.request).2.1 = some response := by
  have hmem : (j, e) ∈ t.entered := by simp [he]
  obtain ⟨e', hs, ht'⟩ := ho.held _ hanswer
  obtain ⟨j', he'⟩ := ho.entered_of_settled hs
  obtain ⟨rfl, rfl⟩ := Prod.mk.inj (ho.eq_of_ticket hmem he' ht ht')
  obtain ⟨n, hn⟩ := List.mem_iff_getElem?.mp hs
  have hplace : t.entered[n]? = some (j, e) := ho.entered_place hmem (by rw [ht]; rfl) hn
  have hlast : t.entered[earlier.length]? = some (j, e) := by simp [he]
  obtain rfl : n = earlier.length :=
    (List.getElem?_inj (List.getElem?_eq_some_iff.mp hplace).1 ha.once.of_map).mp
      (hplace.trans hlast.symm)
  have hbefore : t.entered.take earlier.length = earlier := by simp [he]
  have hsettled := ho.settled_eq hn
  rwa [hbefore] at hsettled

theorem LastOpen.step (h : LastOpen path server t.posts t.entered) (ho : QueueInvariant server t)
    (ha : PostInvariant path t) (hp : SequentialStep path t t') :
    LastOpen path server t'.posts t'.entered := by
  obtain ⟨hstep, hwaits, hstays⟩ := hp
  cases hstep with
  | refuse r answer hr => exact .answered (.refused (h.allAnswered (hwaits (by simp))) hr)
  | arrive r message hr => exact .arriving (h.allAnswered (hwaits (by simp))) hr
  | enter i r message ticket binding hi hb =>
    obtain ⟨before, hposts, rfl, hr, hanswered⟩ := h.of_arriving hi
    dsimp only
    rw [hposts, set_last]
    obtain ⟨-, ⟨hid, rfl, rfl⟩ | ⟨-, rfl, rfl⟩⟩ := Binding.enqueue_cases hb
    · have hnone : ((server.handleAll (messagesOf t.entered)).2.handle message).2.1 = none := by
        rw [Server.handle_answer, hid, Option.map_none]
      refine .answered ?_
      rw [messagesOf_concat]
      have hcarried := hanswered.carriedOut hr
      rwa [hnone] at hcarried
    · exact .waiting hanswered hr rfl
  | read message binding hd hb => exact h
  | carryOut message hd => exact h
  | write response binding hd hb => exact h
  | collect i r ticket response binding hi hb =>
    obtain ⟨hanswer, rfl⟩ := Binding.collect_some hb
    obtain ⟨before, earlier, j, e, hposts, rfl, hentered, hr, ht, hanswered⟩ := h.of_waiting hi
    have hlast := ho.answer_last ha hentered ht hanswer
    dsimp only
    rw [hposts, set_last, hentered]
    refine .answered ?_
    rw [messagesOf_concat]
    have hcarried := hanswered.carriedOut hr
    rwa [hlast] at hcarried
  | disconnect i r ticket hi hb =>
    cases ha.admissible i _ hi with
    | waiting _ _ _ hk => exact absurd hk hb
  | abandon i p hi hf =>
    have hlt := (List.getElem?_eq_some_iff.mp hi).1
    exact absurd rfl (hstays ⟨p.request, .abandoned⟩ (List.mem_of_getElem? (List.getElem?_set_self hlt)))

theorem run_of_sequential (h : ReflTransGen (SequentialStep path) t t') : ReflTransGen (Step path) t t' :=
  ReflTransGen.mono (fun _ _ (hp : SequentialStep path _ _) => hp.step) _ _ h

theorem lastOpen_of_run (h : ReflTransGen (SequentialStep path) { server } t) :
    LastOpen path server t.posts t.entered := by
  induction h with
  | refl => exact .answered .nil
  | tail hrun hstep ih =>
    exact ih.step (queueInvariant_of_run (run_of_sequential hrun))
      (postInvariant_of_run (run_of_sequential hrun)) hstep

/-- All posts are answered, and all queued messages have been carried out. -/
structure SystemState.Quiescent (t : SystemState ω) : Prop where
  nextAction : t.nextAction = .read
  queue : t.binding.queue = []
  answered : ∀ p ∈ t.posts, p.state.isOpen = false

theorem QueueInvariant.settled_of_quiescent (ho : QueueInvariant server t) (hquiescent : t.Quiescent) :
    t.settled.map (·.1.request) = messagesOf t.entered := by
  have horder : t.entered.map Prod.snd = t.settled.map Prod.fst := by
    rw [ho.order, hquiescent.queue, SystemState.inProgress, hquiescent.nextAction]
    simp
  simpa [messagesOf, List.map_map, Function.comp_def] using
    (congrArg (List.map Exchange.request) horder).symm

end

/-! ### Texts on lines -/

/-- A text that can be sent both on a line and in a post: without line feeds, surrounding white
space and blank content, and within the size limit. -/
structure SingleLine (s : String) : Prop where
  oneLine : '\n' ∉ s.toList
  notBlank : allBlank s = false
  starts : ∀ c, s.toList.head? = some c → isBlank c = false
  ends : ∀ c, s.toList.getLast? = some c → isBlank c = false
  fits : (Utf8.encode s.toList).length ≤ bodyLimit

def post (target : String) (s : String) : Request := { target, body := Utf8.encode s.toList }

namespace SingleLine

variable {s : String}

theorem ne_empty (h : SingleLine s) : s ≠ "" := by
  rintro rfl
  cases h.notBlank

theorem trim_line (h : SingleLine s) : trim (s.toList ++ ['\n']) = s.toList := by
  have hne : s.toList ≠ [] := by simpa using h.ne_empty
  have hfeed : isBlank '\n' = true := by decide
  have hstart : trimStart (s.toList ++ ['\n']) = s.toList ++ ['\n'] := by
    obtain ⟨c, cs, hcs⟩ := List.exists_cons_of_ne_nil hne
    have hc : isBlank c = false := h.starts c (by rw [hcs]; rfl)
    rw [hcs]
    simp [trimStart, hc]
  have hend : trimEnd (s.toList ++ ['\n']) = s.toList := by
    obtain ⟨cs, c, hcs⟩ := (List.eq_nil_or_concat' s.toList).resolve_left hne
    have hc : isBlank c = false := h.ends c (by simp [hcs])
    rw [hcs]
    simp [trimEnd, hc, hfeed]
  rw [trim, hstart, hend]

theorem arrival (h : SingleLine s) :
    arrivalOfOctets (lineOctets s) = some (match Rpc.Request.parse s with
      | .ok r => .request r
      | .error refusal => .refused refusal.fault) := by
  have hne : trim (s.toList ++ ['\n']) ≠ [] := by
    rw [h.trim_line]
    simpa using h.ne_empty
  have htext := arrivalOfOctets_text hne
  rw [h.trim_line, String.ofList_toList] at htext
  exact htext

theorem serveSegment_eq (h : SingleLine s) (server : Server ω) :
    serveSegment server (lineOctets s) = match Rpc.Request.parse s with
      | .ok r => ({ sent := (server.handle r).1, answer := (server.handle r).2.1 },
          (server.handle r).2.2)
      | .error refusal => ({ answer := some refusal.fault.reply }, server) := by
  rw [serveSegment, h.arrival]
  cases Rpc.Request.parse s <;> rfl

theorem accept_eq (h : SingleLine s) {path target : String} (hp : pathOf target = path) :
    accept path (post target s) = (Rpc.Request.parse s).mapError fun refusal =>
      .ofResponse refusal.fault.reply := by
  have htext : accept path (post target s) = _ := accept_text hp rfl rfl h.fits
  rw [htext, String.ofList_toList]

end SingleLine

/-! ### The stream -/

/-- A session processes the lines of nonblank texts one by one, and remains in progress. -/
theorem drain_lines {s : Session ω Pipe} (h : InProgress s) {texts : List String}
    (htexts : ∀ text ∈ texts, SingleLine text) :
    drain false s (signals (Utf8.encode (unlines texts).toList)) =
      ({ s with
          server := (serveSegments s.server (texts.map lineOctets)).2
          link := s.link.withLines ((serveSegments s.server (texts.map lineOctets)).1.flatMap Turn.lines) },
        []) := by
  induction texts generalizing s with
  | nil =>
    have hnone : arrival? false [] = none := by
      rw [arrival?]
      rfl
    have hnil : signals (Utf8.encode (unlines []).toList) = [] := rfl
    obtain ⟨server, link, outcome⟩ := s
    obtain rfl : outcome = none := h.isOpen
    rw [hnil, drain, hnone]
    simp [serveSegments]
  | cons text texts ih =>
    obtain ⟨htext, htexts⟩ := List.forall_mem_cons.mp htexts
    have hsplit : signals (Utf8.encode (unlines (text :: texts)).toList) =
        signals (lineOctets text) ++ signals (Utf8.encode (unlines texts).toList) := by
      simp [unlines_cons, lineOctets, signals]
    have hfeed : lineFeed ∉ Utf8.encode text.toList := fun hmem =>
      htext.oneLine (Utf8.lineFeed_mem_encode.mp hmem)
    have hoctets : lineOctets text = Utf8.encode text.toList ++ [lineFeed] := by
      rw [lineOctets, Utf8.encode_append]
      rfl
    obtain ⟨a, ha⟩ : ∃ a, arrivalOfOctets (lineOctets text) = some a := ⟨_, htext.arrival⟩
    have harrival : arrival? false (signals (lineOctets text) ++
        signals (Utf8.encode (unlines texts).toList)) =
        some (a, signals (Utf8.encode (unlines texts).toList)) := by
      rw [arrival?, hoctets, line?_of_complete hfeed]
      simp only [Line.arrival, ← hoctets, ha]
    have hreceive : s.receive a =
        advance s (serveSegment s.server (lineOctets text)).2
        (serveSegment s.server (lineOctets text)).1 := by
      rw [← receiveSegment_of_inProgress h, receiveSegment, ha]
    have hnext : InProgress (s.receive a) := by
      rw [hreceive]
      exact h.next ((serveSegment_stopRequested _ _).trans h.notStopped) _
    rw [hsplit, drain, h.isOpen, harrival]
    dsimp only
    rw [if_pos (by simp [hoctets]), ih hnext htexts, hreceive]
    simp [serveSegments, advance, h.isOpen]

def requestsOf (texts : List String) : List Rpc.Request :=
  texts.filterMap fun s => (Rpc.Request.parse s).toOption

theorem map_concat_eq_map {α β γ : Type} {f : α → γ} {g : β → γ} {as : List α} {a : α} {bs : List β}
    (h : (as ++ [a]).map f = bs.map g) :
    ∃ bs' b, bs = bs' ++ [b] ∧ as.map f = bs'.map g ∧ f a = g b := by
  rw [List.map_append, eq_comm, List.map_eq_append_iff] at h
  obtain ⟨bs', last, rfl, hinit, hlast⟩ := h
  obtain ⟨b, rfl, hb⟩ := List.map_eq_singleton_iff.mp hlast
  exact ⟨bs', b, rfl, hinit.symm, hb.symm⟩

/-- The answers to posts of texts are those written on lines with the same texts. -/
theorem AllAnswered.serveSegments_eq {path target : String} {server : Server ω} {posts : List Post}
    {messages : List Rpc.Request} (h : AllAnswered path server posts messages)
    (hp : pathOf target = path) {texts : List String} (htexts : ∀ s ∈ texts, SingleLine s)
    (hposts : posts.map (·.request) = texts.map (post target)) :
    messages = requestsOf texts ∧
      (serveSegments server (texts.map lineOctets)).2 = (server.handleAll messages).2 ∧
      posts.map (·.state) = (serveSegments server (texts.map lineOctets)).1.map fun turn =>
        .answered (.ofOutcome turn.answer) := by
  induction h generalizing texts with
  | nil =>
    obtain rfl : texts = [] := by simpa using hposts.symm
    exact ⟨rfl, rfl, rfl⟩
  | refused h hr ih =>
    obtain ⟨texts, s, rfl, hbefore, rfl⟩ := map_concat_eq_map hposts
    obtain ⟨htexts, hs⟩ := List.forall_mem_append.mp htexts
    have hplain := List.forall_mem_singleton.mp hs
    obtain ⟨hmessages, hserver, hfates⟩ := ih htexts hbefore
    rw [hplain.accept_eq hp] at hr
    cases hparse : Rpc.Request.parse s with
    | ok r =>
      rw [hparse] at hr
      cases hr
    | error refusal =>
      rw [hparse] at hr
      cases hr
      rw [List.map_append, List.map_singleton, serveSegments_concat, hplain.serveSegment_eq, hparse]
      refine ⟨?_, hserver, ?_⟩
      · simp [requestsOf, hparse, hmessages, Except.toOption]
      · simp [hfates, Answer.ofOutcome]
  | carriedOut h hr ih =>
    obtain ⟨texts, s, rfl, hbefore, rfl⟩ := map_concat_eq_map hposts
    obtain ⟨htexts, hs⟩ := List.forall_mem_append.mp htexts
    have hplain := List.forall_mem_singleton.mp hs
    obtain ⟨hmessages, hserver, hfates⟩ := ih htexts hbefore
    rw [hplain.accept_eq hp] at hr
    cases hparse : Rpc.Request.parse s with
    | error refusal =>
      rw [hparse] at hr
      cases hr
    | ok r =>
      rw [hparse] at hr
      cases hr
      rw [List.map_append, List.map_singleton, serveSegments_concat, hplain.serveSegment_eq, hparse, hserver,
        Server.handleAll_concat]
      refine ⟨?_, rfl, ?_⟩
      · simp [requestsOf, hparse, hmessages, Except.toOption]
      · simp [hfates]

/-! ### Successive exchanges -/

def SystemState.session (t : SystemState ω) : Session ω Binding := { server := t.server, link := t.binding }

theorem SequentialStep.ofStep {path : String} {t t' : SystemState ω} (h : Step path t t')
    (hlength : t'.posts.length = t.posts.length) (hstays : ∀ p ∈ t'.posts, p.state ≠ .abandoned) :
    SequentialStep path t t' :=
  ⟨h, fun hlt => absurd hlt (by omega), hstays⟩

theorem notifyAll_binding (s : Session ω Binding) (sent : List Rpc.Notification) :
    s.notifyAll sent = s := by
  have hlink : sent.foldl (fun (link : Binding) n => (Outlet.notify n link).2) s.link = s.link := by
    induction sent with
    | nil => rfl
    | cons n sent ih => exact ih
  rw [Session.notifyAll, hlink]

/-- Serving the queue once is a sequence of steps: read, carry out, write. -/
theorem serveNext_steps (path : String) {t : SystemState ω} (hd : t.nextAction = .read) {e : Exchange}
    {rest : List Exchange} (hq : t.binding.queue = e :: rest) (hopen : t.binding.closed = false)
    (hw : t.server.stopRequested = false) (hstays : ∀ p ∈ t.posts, p.state ≠ .abandoned) :
    ∃ t', ReflTransGen (SequentialStep path) t t' ∧ t'.nextAction = .read ∧ t'.posts = t.posts ∧
      t'.binding.queue = rest ∧ t'.session = serveNext t.session ∧
      ∀ response ticket, (t.server.handle e.request).2.1 = some response → e.ticket = some ticket →
        t'.binding.collect ticket = (some response,
          { t'.binding with answers := t'.binding.answers.filter (·.1 ≠ ticket) }) := by
  have htake := Binding.take?_cons hopen hq
  have hread := SequentialStep.ofStep (.read t e.request _ hd htake : Step path t _) rfl hstays
  have hcarry := SequentialStep.ofStep (.carryOut _ e.request rfl : Step path
    { t with
      binding := { t.binding with queue := rest, pending := e.ticket }, nextAction := .carryOut e.request } _)
    rfl hstays
  have hwilling : (t.server.handle e.request).2.2.stopRequested = false := hw
  have hserve : serveNext t.session =
      ({ server := t.server, link := { t.binding with queue := rest, pending := e.ticket } } :
        Session ω Binding).receive (.request e.request) := by
    simp only [serveNext, SystemState.session, htake]
  cases hanswer : (t.server.handle e.request).2.1 with
  | none =>
    rw [hanswer] at hcarry
    refine ⟨_, (ReflTransGen.single hread).tail hcarry, rfl, rfl, rfl, ?_, nofun⟩
    rw [hserve]
    simp only [Session.receive, hanswer, notifyAll_binding, SystemState.session]
    exact (turn_of_notStopped hwilling).symm
  | some response =>
    rw [hanswer] at hcarry
    have hrespond := Binding.respond_eq
      (b := { t.binding with queue := rest, pending := e.ticket }) hopen response
    have hwrite := SequentialStep.ofStep (.write
      { t with
        binding := { t.binding with queue := rest, pending := e.ticket }
        server := (t.server.handle e.request).2.2
        nextAction := .write response
        settled := t.settled ++
          [({ request := e.request, ticket := e.ticket }, some response)] }
      response _ rfl hrespond : Step path _ _) rfl hstays
    refine ⟨_, ((ReflTransGen.single hread).tail hcarry).tail hwrite, rfl, rfl, rfl, ?_, ?_⟩
    · have houtlet : Outlet.respond response
          ({ t.binding with queue := rest, pending := e.ticket } : Binding) = _ := hrespond
      rw [hserve]
      simp only [Session.receive, hanswer, notifyAll_binding, SystemState.session, Session.answer,
        houtlet]
      exact (turn_of_notStopped hwilling).symm
    · rintro response' ticket ⟨⟩ ht
      simp [Binding.collect, ht]

/-- The state after a post and the queueing of its message. -/
def SystemState.queued (t : SystemState ω) (r : Request) (message : Rpc.Request) (ticket : Option Nat)
    (binding : Binding) : SystemState ω :=
  { t with
    binding
    posts := t.posts ++ [⟨r, .entered ticket⟩]
    entered := t.entered ++ [(t.posts.length, { request := message, ticket })] }

section Exchange

variable {path : String} {t : SystemState ω} {r : Request} {message : Rpc.Request}

theorem not_abandoned_concat (hstays : ∀ p ∈ t.posts, p.state ≠ .abandoned) {state : PostState}
    (hstate : state ≠ .abandoned) : ∀ p ∈ t.posts ++ [⟨r, state⟩], p.state ≠ .abandoned :=
  List.forall_mem_append.mpr ⟨hstays, List.forall_mem_singleton.mpr hstate⟩

theorem SystemState.Quiescent.answered_concat (h : t.Quiescent) (r : Request) (answer : Answer) :
    ∀ p ∈ t.posts ++ [⟨r, .answered answer⟩], p.state.isOpen = false :=
  List.forall_mem_append.mpr ⟨h.answered, List.forall_mem_singleton.mpr rfl⟩

/-- A message is queued in two steps: its post arrives, and enters the queue. -/
theorem queued_steps (hquiescent : t.Quiescent) (hstays : ∀ p ∈ t.posts, p.state ≠ .abandoned)
    (hr : accept path r = .ok message) {ticket : Option Nat} {binding : Binding}
    (hb : t.binding.enqueue message = some (ticket, binding)) :
    ReflTransGen (SequentialStep path) t (t.queued r message ticket binding) := by
  have harrive : SequentialStep path t _ :=
    ⟨.arrive t r message hr, fun _ => hquiescent.answered, not_abandoned_concat hstays nofun⟩
  have hlast : (t.posts ++ [⟨r, .arriving message⟩])[t.posts.length]? =
      some ⟨r, .arriving message⟩ := by simp
  have hticket : PostState.entered ticket ≠ .abandoned := by cases ticket <;> exact nofun
  have henter := SequentialStep.ofStep (.enter { t with posts := t.posts ++ [⟨r, .arriving message⟩] }
    t.posts.length r message ticket binding hlast hb : Step path _ _)
    (by simp) (by rw [set_last]; exact not_abandoned_concat hstays hticket)
  rw [set_last] at henter
  exact (ReflTransGen.single harrive).tail henter

theorem exchange_steps_notification (hquiescent : t.Quiescent) (hopen : t.binding.closed = false)
    (hw : t.server.stopRequested = false) (hstays : ∀ p ∈ t.posts, p.state ≠ .abandoned)
    (hr : accept path r = .ok message) {binding : Binding}
    (hb : t.binding.enqueue message = some (none, binding))
    (hqueue : binding.queue = [{ request := message }]) (hclosed : binding.closed = t.binding.closed) :
    ∃ t', ReflTransGen (SequentialStep path) t t' ∧ t'.Quiescent ∧
      t'.posts = t.posts ++ [⟨r, .answered (exchange path t.session r).1⟩] ∧
      t'.session = (exchange path t.session r).2 := by
  obtain ⟨t', hrun, hd, hposts, hq, hsession, -⟩ := serveNext_steps path
    (t := t.queued r message none binding) hquiescent.nextAction hqueue (hclosed.trans hopen) hw
    (not_abandoned_concat hstays nofun)
  refine ⟨t', (queued_steps hquiescent hstays hr hb).trans hrun, ⟨hd, hq, ?_⟩, ?_, ?_⟩
  · rw [hposts]
    exact hquiescent.answered_concat r _
  · rw [hposts]
    simp only [exchange, hr, SystemState.session, hb]
    rfl
  · rw [hsession]
    simp only [exchange, hr, SystemState.session, hb]
    rfl

theorem exchange_steps_request (hquiescent : t.Quiescent) (hopen : t.binding.closed = false)
    (hw : t.server.stopRequested = false) (hstays : ∀ p ∈ t.posts, p.state ≠ .abandoned)
    (hr : accept path r = .ok message) (hid : message.id.isSome) {ticket : Nat} {binding : Binding}
    (hb : t.binding.enqueue message = some (some ticket, binding))
    (hqueue : binding.queue = [{ request := message, ticket := some ticket }])
    (hclosed : binding.closed = t.binding.closed) :
    ∃ t', ReflTransGen (SequentialStep path) t t' ∧ t'.Quiescent ∧
      t'.posts = t.posts ++ [⟨r, .answered (exchange path t.session r).1⟩] ∧
      t'.session = (exchange path t.session r).2 := by
  obtain ⟨t', hrun, hd, hposts, hq, hsession, hcollect⟩ := serveNext_steps path
    (t := t.queued r message (some ticket) binding) hquiescent.nextAction hqueue
    (hclosed.trans hopen) hw (not_abandoned_concat hstays nofun)
  obtain ⟨response, hanswer⟩ : ∃ response, (t.server.handle message).2.1 = some response := by
    rw [Server.handle_answer, Option.eq_some_of_isSome hid]
    exact ⟨_, rfl⟩
  have hcollected := hcollect response ticket hanswer rfl
  have hwaits : t'.posts[t.posts.length]? = some ⟨r, .waiting ticket⟩ := by
    rw [hposts]
    simp [SystemState.queued, PostState.entered]
  have hset : t'.posts.set t.posts.length ⟨r, .answered (.ofResponse response)⟩ =
      t.posts ++ [⟨r, .answered (.ofResponse response)⟩] := by
    rw [hposts, SystemState.queued, set_last]
  have hstep := SequentialStep.ofStep (.collect t' t.posts.length r ticket response _ hwaits
    hcollected : Step path _ _) (by simp) (by rw [hset]; exact not_abandoned_concat hstays nofun)
  rw [hset] at hstep
  have hexchange : exchange path t.session r = (.ofResponse response,
      { t'.session with link := { t'.binding with
        answers := t'.binding.answers.filter (·.1 ≠ ticket) } }) := by
    simp only [SystemState.session, SystemState.queued] at hsession
    simp only [exchange, hr, SystemState.session, hb, ← hsession, hcollected]
  refine ⟨_, ((queued_steps hquiescent hstays hr hb).trans hrun).tail hstep, ⟨hd, hq, ?_⟩, ?_, ?_⟩
  · exact hquiescent.answered_concat r _
  · rw [hexchange]
  · rw [hexchange]
    rfl

/-- From one quiescent state to the next by an exchange. -/
theorem exchange_steps (path : String) (hquiescent : t.Quiescent) (hopen : t.binding.closed = false)
    (hw : t.server.stopRequested = false) (hstays : ∀ p ∈ t.posts, p.state ≠ .abandoned) (r : Request) :
    ∃ t', ReflTransGen (SequentialStep path) t t' ∧ t'.Quiescent ∧
      t'.posts = t.posts ++ [⟨r, .answered (exchange path t.session r).1⟩] ∧
      t'.session = (exchange path t.session r).2 := by
  cases hr : accept path r with
  | error answer =>
    have hrefuse : SequentialStep path t _ := ⟨.refuse t r answer hr, fun _ => hquiescent.answered,
      not_abandoned_concat hstays nofun⟩
    refine ⟨_, .single hrefuse,
      ⟨hquiescent.nextAction, hquiescent.queue, hquiescent.answered_concat r answer⟩, ?_, ?_⟩
    · simp only [exchange, hr]
    · simp only [exchange, hr, SystemState.session]
  | ok message =>
    obtain ⟨ticket, binding, hb⟩ :=
      t.binding.exists_enqueue hopen (by rw [hquiescent.queue]; decide) message
    have hqueue (e : Exchange) : t.binding.queue ++ [e] = [e] := by rw [hquiescent.queue]; rfl
    obtain ⟨-, ⟨hid, rfl, rfl⟩ | ⟨hid, rfl, rfl⟩⟩ := Binding.enqueue_cases hb
    · exact exchange_steps_notification hquiescent hopen hw hstays hr hb (hqueue _) rfl
    · exact exchange_steps_request hquiescent hopen hw hstays hr hid hb (hqueue _) rfl

end Exchange

def exchangeAll (path : String) : Session ω Binding → List Request → List Answer × Session ω Binding
  | s, [] => ([], s)
  | s, r :: requests =>
    let (answer, s) := exchange path s r
    let (answers, s) := exchangeAll path s requests
    (answer :: answers, s)

section

variable {path : String} {server : Server ω} {t : SystemState ω}

theorem stopRequested_of_run (hrun : ReflTransGen (SequentialStep path) { server } t) :
    t.server.stopRequested = server.stopRequested := by
  have ho := queueInvariant_of_run (run_of_sequential hrun)
  have hserver := server.handleAll_stopRequested (t.settled.map (·.1.request))
  rwa [ho.carriedOut] at hserver

theorem not_abandoned_of_run (hrun : ReflTransGen (SequentialStep path) { server } t) :
    ∀ p ∈ t.posts, p.state ≠ .abandoned := by
  cases hrun with
  | refl => exact nofun
  | tail _ hstep => exact hstep.stays

/-- Successive exchanges are a run with a sequential client. -/
theorem exchangeAll_run (hrun : ReflTransGen (SequentialStep path) { server } t) (hquiescent : t.Quiescent)
    (hw : server.stopRequested = false) (requests : List Request) :
    ∃ t', ReflTransGen (SequentialStep path) { server } t' ∧ t'.Quiescent ∧
      t'.posts.map (·.request) = t.posts.map (·.request) ++ requests ∧
      t'.posts.map (·.state) =
        t.posts.map (·.state) ++ (exchangeAll path t.session requests).1.map .answered ∧
      t'.session = (exchangeAll path t.session requests).2 := by
  induction requests generalizing t with
  | nil => exact ⟨t, hrun, hquiescent, by simp, by simp [exchangeAll], rfl⟩
  | cons r requests ih =>
    obtain ⟨t₁, hsteps, hrest₁, hposts, hsession⟩ := exchange_steps path hquiescent
      (queueInvariant_of_run (run_of_sequential hrun)).isOpen ((stopRequested_of_run hrun).trans hw)
      (not_abandoned_of_run hrun) r
    obtain ⟨t', hrun', hrest', hrequests, hfates, hsession'⟩ := ih (hrun.trans hsteps) hrest₁
    refine ⟨t', hrun', hrest', ?_, ?_, ?_⟩
    · simp [hrequests, hposts]
    · simp [hfates, hposts, exchangeAll, hsession]
    · rw [hsession', hsession]
      rfl

/-! ### Progress -/

/-- The session completes the message it is serving. -/
theorem exists_reading (hrun : ReflTransGen (SequentialStep path) { server } t) :
    ∃ t', ReflTransGen (SequentialStep path) t t' ∧ t'.nextAction = .read ∧ t'.posts = t.posts := by
  have hstays := not_abandoned_of_run hrun
  have writes (t' : SystemState ω) (hposts : t'.posts = t.posts) (hopen : t'.binding.closed = false)
      (response : Rpc.Response) (hd : t'.nextAction = .write response) :
      ∃ t'', SequentialStep path t' t'' ∧ t''.nextAction = .read ∧ t''.posts = t.posts :=
    ⟨_, .ofStep (.write t' response _ hd (Binding.respond_eq hopen response)) rfl
      (by rw [hposts]; exact hstays), rfl, hposts⟩
  have hopen := (queueInvariant_of_run (run_of_sequential hrun)).isOpen
  cases hd : t.nextAction with
  | read => exact ⟨t, .refl, hd, rfl⟩
  | write response =>
    obtain ⟨t', hstep, hd', hposts⟩ := writes t rfl hopen response hd
    exact ⟨t', .single hstep, hd', hposts⟩
  | carryOut message =>
    obtain ⟨t₁, hcarry, hd₁, hposts₁, hopen₁⟩ : ∃ t₁, SequentialStep path t t₁ ∧
        t₁.nextAction = .after (t.server.handle message).2.1 ∧ t₁.posts = t.posts ∧
        t₁.binding.closed = false :=
      ⟨_, .ofStep (.carryOut t message hd) rfl hstays, rfl, rfl, hopen⟩
    generalize (t.server.handle message).2.1 = answer at hd₁
    cases answer with
    | none => exact ⟨t₁, .single hcarry, hd₁, hposts₁⟩
    | some response =>
      obtain ⟨t', hstep, hd', hposts⟩ := writes t₁ hposts₁ hopen₁ response hd₁
      exact ⟨t', (ReflTransGen.single hcarry).tail hstep, hd', hposts⟩

/-- The session empties the queue. -/
theorem exists_idle (hrun : ReflTransGen (SequentialStep path) { server } t)
    (hw : server.stopRequested = false) :
    ∃ t', ReflTransGen (SequentialStep path) t t' ∧ t'.nextAction = .read ∧ t'.binding.queue = [] ∧
      t'.posts = t.posts := by
  obtain ⟨t₀, hsteps, hd, hposts⟩ := exists_reading hrun
  have hreach := hrun.trans hsteps
  generalize hq : t₀.binding.queue = queue
  induction queue generalizing t₀ with
  | nil => exact ⟨t₀, hsteps, hd, hq, hposts⟩
  | cons e rest ih =>
    obtain ⟨t₁, hserve, hd', hposts', hq', -⟩ := serveNext_steps path hd hq
      (queueInvariant_of_run (run_of_sequential hreach)).isOpen ((stopRequested_of_run hreach).trans hw)
      (not_abandoned_of_run hreach)
    exact ih t₁ (hsteps.trans hserve) hd' (hposts'.trans hposts) (hreach.trans hserve) hq'

theorem exists_collected (hrun : ReflTransGen (SequentialStep path) { server } t) (hd : t.nextAction = .read)
    (hq : t.binding.queue = []) {before : List Post} {r : Request} {ticket : Nat}
    (hposts : t.posts = before ++ [⟨r, .waiting ticket⟩])
    (hbefore : ∀ p ∈ before, p.state.isOpen = false) :
    ∃ t', ReflTransGen (SequentialStep path) t t' ∧ t'.Quiescent ∧
      t'.posts.map (·.request) = t.posts.map (·.request) := by
  have hlast : t.posts[before.length]? = some ⟨r, .waiting ticket⟩ := by simp [hposts]
  have hholds : ∃ a ∈ t.binding.answers, a.1 = ticket := by
    cases (postInvariant_of_run (run_of_sequential hrun)).admissible _ _ hlast with
    | waiting _ _ _ hk =>
      rcases hk with ⟨e, he, -⟩ | hpending | ha
      · rw [hq] at he
        cases he
      · rw [(queueInvariant_of_run (run_of_sequential hrun)).free hd] at hpending
        cases hpending
      · exact ha
  obtain ⟨response, binding, hcollect⟩ := Binding.exists_collect hholds
  have hset : t.posts.set before.length ⟨r, .answered (.ofResponse response)⟩ =
      before ++ [⟨r, .answered (.ofResponse response)⟩] := by
    rw [hposts, set_last]
  have hstays : ∀ p ∈ before ++ [⟨r, .answered (.ofResponse response)⟩], p.state ≠ .abandoned := by
    refine List.forall_mem_append.mpr ⟨fun p hp => ?_, List.forall_mem_singleton.mpr nofun⟩
    exact not_abandoned_of_run hrun p (hposts ▸ List.mem_append_left _ hp)
  have hstep := SequentialStep.ofStep (.collect t before.length r ticket response binding hlast hcollect :
    Step path t _) (by simp) (by rw [hset]; exact hstays)
  obtain ⟨-, rfl⟩ := Binding.collect_some hcollect
  rw [hset] at hstep
  refine ⟨_, .single hstep, ⟨hd, hq, ?_⟩, by simp [hposts]⟩
  exact List.forall_mem_append.mpr ⟨hbefore, List.forall_mem_singleton.mpr rfl⟩

/-- From every reachable state a sequential client reaches a quiescent one with the same posts, all
answered. -/
theorem exists_quiescent (hrun : ReflTransGen (SequentialStep path) { server } t)
    (hw : server.stopRequested = false) :
    ∃ t', ReflTransGen (SequentialStep path) t t' ∧ t'.Quiescent ∧
      t'.posts.map (·.request) = t.posts.map (·.request) := by
  obtain ⟨t₁, hsteps, hd, hq, hposts⟩ := exists_idle hrun hw
  have hreach := hrun.trans hsteps
  rw [← hposts]
  have hopenLast := lastOpen_of_run hreach
  generalize hall : t₁.posts = posts at hopenLast
  generalize t₁.entered = entered at hopenLast
  cases hopenLast with
  | answered h => exact ⟨t₁, hsteps, ⟨hd, hq, fun p hp => h.isOpen_eq (hall ▸ hp)⟩, by rw [hall]⟩
  | waiting h hr ht =>
    obtain ⟨t', hcollected, hquiescent, hrequests⟩ :=
      exists_collected hreach hd hq hall fun p hp => h.isOpen_eq hp
    exact ⟨t', hsteps.trans hcollected, hquiescent, hrequests.trans (by rw [hall])⟩
  | @arriving before _ r message h hr =>
    have hlast : t₁.posts[before.length]? = some ⟨r, .arriving message⟩ := by simp [hall]
    obtain ⟨ticket, binding, hb⟩ := t₁.binding.exists_enqueue
      (queueInvariant_of_run (run_of_sequential hreach)).isOpen (by rw [hq]; decide) message
    have hset : t₁.posts.set before.length ⟨r, .entered ticket⟩ =
        before ++ [⟨r, .entered ticket⟩] := by
      rw [hall, set_last]
    have hstays : ∀ p ∈ before ++ [⟨r, PostState.entered ticket⟩], p.state ≠ .abandoned := by
      refine List.forall_mem_append.mpr ⟨fun p hp => ?_, List.forall_mem_singleton.mpr ?_⟩
      · exact not_abandoned_of_run hreach p (hall ▸ List.mem_append_left _ hp)
      · cases ticket <;> exact nofun
    have henter := SequentialStep.ofStep (.enter t₁ before.length r message ticket binding hlast hb :
      Step path t₁ _) (by simp) (by rw [hset]; exact hstays)
    rw [hset] at henter
    obtain ⟨t₂, hidle, hd', hq', hposts'⟩ := exists_idle (hreach.tail henter) hw
    have hreach' := (hsteps.tail henter).trans hidle
    cases ticket with
    | none =>
      refine ⟨t₂, hreach', ⟨hd', hq', ?_⟩, by rw [hposts']; simp⟩
      rw [hposts']
      exact List.forall_mem_append.mpr
        ⟨fun p hp => h.isOpen_eq hp, List.forall_mem_singleton.mpr rfl⟩
    | some ticket =>
      obtain ⟨t', hcollected, hquiescent, hrequests⟩ :=
        exists_collected (hrun.trans hreach') hd' hq' hposts' fun p hp => h.isOpen_eq hp
      exact ⟨t', hreach'.trans hcollected, hquiescent, hrequests.trans (by rw [hposts']; simp)⟩

end

/-! ### The two bindings -/

/-- A sequential client that posts texts which fit on lines reaches a quiescent state with all of
them answered, for instance by successive exchanges. In every such state the answers are those
written on a stream for the same texts, posts without an answer there are acknowledged, the same
requests have been carried out in the same order, and the server is in the same state, the world of
its handlers included. -/
theorem bindings_agree {path target : String} {server : Server ω}
    (hw : server.stopRequested = false) (hp : pathOf target = path) {texts : List String}
    (htexts : ∀ s ∈ texts, SingleLine s) :
    (∃ t, ReflTransGen (SequentialStep path) { server := server.entering } t ∧ t.Quiescent ∧
      t.posts.map (·.request) = texts.map (post target) ∧
      t.posts.map (·.state) =
        (exchangeAll path (.start server {}) (texts.map (post target))).1.map .answered ∧
      t.session = (exchangeAll path (.start server {}) (texts.map (post target))).2) ∧
    ∀ t, ReflTransGen (SequentialStep path) { server := server.entering } t →
      t.posts.map (·.request) = texts.map (post target) →
      (∃ t', ReflTransGen (SequentialStep path) t t' ∧ t'.Quiescent ∧
        t'.posts.map (·.request) = texts.map (post target)) ∧
      (t.Quiescent → ∃ turns : List Turn, turns.length = texts.length ∧
        serveSegments server.entering (texts.map lineOctets) = (turns, t.server) ∧
        (Run.idle server).resume.deliver (signals (Utf8.encode (unlines texts).toList)) =
          { session := {
              server := t.server, link := ({} : Pipe).withLines (turns.flatMap Turn.lines) } } ∧
        t.posts.map (·.state) = turns.map (fun turn => .answered (.ofOutcome turn.answer)) ∧
        t.settled.map (·.1.request) = requestsOf texts ∧
        t.server = (server.entering.handleAll (requestsOf texts)).2) := by
  have hwilling : server.entering.stopRequested = false := hw
  have hstart {τ : Type} (link : τ) :
      Session.start server link = { server := server.entering, link } := turn_of_notStopped hw
  refine ⟨?_, fun t hrun hposts => ⟨?_, fun hquiescent => ?_⟩⟩
  · obtain ⟨t, hrun, hquiescent, hposts, hfates, hsession⟩ :=
      exchangeAll_run .refl ⟨rfl, rfl, nofun⟩ hwilling (texts.map (post target))
    rw [hstart]
    exact ⟨t, hrun, hquiescent, hposts, hfates, hsession⟩
  · rw [← hposts]
    exact exists_quiescent hrun hwilling
  have ho := queueInvariant_of_run (run_of_sequential hrun)
  have hanswered := (lastOpen_of_run hrun).allAnswered hquiescent.answered
  obtain ⟨hmessages, hserver, hfates⟩ := hanswered.serveSegments_eq hp htexts hposts
  have hsettled := (ho.settled_of_quiescent hquiescent).trans hmessages
  have hfinal : t.server = (server.entering.handleAll (requestsOf texts)).2 := by
    rw [← hsettled, ho.carriedOut]
  have hsame : (serveSegments server.entering (texts.map lineOctets)).2 = t.server := by
    rw [hserver, hmessages, hfinal]
  refine ⟨(serveSegments server.entering (texts.map lineOctets)).1, ?_, Prod.ext rfl hsame, ?_, hfates,
    hsettled, hfinal⟩
  · have hlengths := congrArg List.length hfates
    rw [List.length_map, List.length_map] at hlengths
    rw [← hlengths, ← List.length_map (·.request), hposts, List.length_map]
  · have hinProgress : InProgress ({ server := server.entering, link := {} } : Session ω Pipe) :=
      ⟨rfl, hwilling, ⟨rfl, rfl, rfl⟩⟩
    have hdrain := drain_lines hinProgress htexts
    have hresume : (Run.idle server).resume = { session := Session.start server {} } := rfl
    rw [hsame] at hdrain
    rw [hresume, hstart]
    simp only [Run.deliver, Run.proceed, List.nil_append, hdrain]

/-- A notification, a ping, and a text that is not JSON. -/
theorem bindings_agree_mixed :
    let server : Server Unit :=
      { service := { info := ⟨"desk", "1"⟩ }, scene := { world := (), supply := ⟨.epoch, 0⟩ } }
    let texts : List String :=
      ["\x7b\"jsonrpc\":\"2.0\",\"method\":\"initialized\"\x7d",
        "\x7b\"jsonrpc\":\"2.0\",\"id\":null,\"method\":\"ping\"\x7d", "\x7bping"]
    server.stopRequested = false ∧ pathOf "/mcp?session=1" = "/mcp" ∧ (∀ s ∈ texts, SingleLine s) ∧
      ∃ t, ReflTransGen (SequentialStep "/mcp") { server := server.entering } t ∧ t.Quiescent ∧
        t.posts.map (·.request) = texts.map (post "/mcp?session=1") ∧
        ∃ turns : List Turn, turns.length = texts.length ∧
          (Run.idle server).resume.deliver (signals (Utf8.encode (unlines texts).toList)) =
            { session := {
                server := t.server, link := ({} : Pipe).withLines (turns.flatMap Turn.lines) } } ∧
          t.posts.map (·.state) = turns.map (fun turn => .answered (.ofOutcome turn.answer)) := by
  intro server texts
  have hpath : pathOf "/mcp?session=1" = "/mcp" := rfl
  have htexts : ∀ s ∈ texts, SingleLine s := by
    refine List.forall_mem_cons.mpr ⟨?_, List.forall_mem_cons.mpr ⟨?_,
      List.forall_mem_singleton.mpr ?_⟩⟩
    all_goals
      refine ⟨by decide, by decide, ?_, ?_, by decide⟩ <;>
        (rintro c ⟨⟩; decide)
  obtain ⟨⟨t, hrun, hquiescent, hposts, -⟩, hagree⟩ :=
    @bindings_agree Unit "/mcp" "/mcp?session=1" server rfl hpath texts htexts
  obtain ⟨turns, hlength, -, hstream, hfates, -⟩ := (hagree t hrun hposts).2 hquiescent
  exact ⟨rfl, hpath, htexts, t, hrun, hquiescent, hposts, turns, hlength, hstream, hfates⟩

end ReleaseDesk.Http
