import ReleaseDesk.Proofs.Service.Persistence
import ReleaseDesk.Proofs.Service.Renaming
import ReleaseDesk.Proofs.Stream.Delivery
import ReleaseDesk.Proofs.Stream.Wire

/-! Successive sessions. A server with stateless handlers enters each session in its initial state
except for the log filter, which remains at the level set in an earlier session. If its handlers
moreover treat tokens as opaque, the output of a session depends on the tokens drawn only up to
renaming. -/

namespace ReleaseDesk.Stream

open ReleaseDesk.Json ReleaseDesk.Protocol ReleaseDesk.Rpc ReleaseDesk.Service ReleaseDesk.Text

variable {m m' n n' : Nat}

/-! ### Output up to renaming of tokens -/

/-- Two lines that are equal up to the renaming of a token. -/
inductive SameLine (m m' n : Nat) : String → String → Prop
  | same (l : String) : SameLine m m' n l l
  | report (p : Progress) {token' : ProgressToken} (h : Paired m m' n p.token token') :
    SameLine m m' n (Notification.codec.render p.notification)
      (Notification.codec.render { p with token := token' }.notification)

/-- Two outputs with a common prefix, followed by lines that are equal up to the renaming of tokens.
-/
def SameOutput (m m' n : Nat) (text text' : String) : Prop :=
  ∃ before ls ls', List.Forall₂ (SameLine m m' n) ls ls' ∧
    text = before ++ unlines ls ∧ text' = before ++ unlines ls'

/-- Turns that are equal up to corresponding tokens. -/
structure Turn.Renamed (m m' n : Nat) (t t' : Turn) : Prop where
  sent : List.Forall₂ (RenamedNotification m m' n) t.sent t'.sent
  answer : t.answer = t'.answer

namespace Turn.Renamed

variable {t t' : Turn}

theorem mono (h : Turn.Renamed m m' n t t') (hn : n ≤ n') : Turn.Renamed m m' n' t t' :=
  ⟨h.sent.imp fun _ _ ha => ha.mono hn, h.answer⟩

theorem lines (h : Turn.Renamed m m' n t t') :
    List.Forall₂ (SameLine m m' n) t.lines t'.lines := by
  have hsent : List.Forall₂ (SameLine m m' n) (t.sent.map Notification.codec.render)
      (t'.sent.map Notification.codec.render) := by
    rw [List.forall₂_map_left_iff, List.forall₂_map_right_iff]
    refine h.sent.imp fun a a' ha => ?_
    cases ha with
    | same a => exact .same _
    | report p hp => exact .report p hp
  rw [Turn.lines, Turn.lines, h.answer]
  exact List.rel_append hsent (List.forall₂_same.mpr fun l _ => .same l)

end Turn.Renamed

/-! ### Servers up to renaming of tokens -/

section

variable {s s' : Server ω}

theorem serveSegment_renamed (h : Server.Renamed m m' n s s') (hr : s.service.registry.Scripted)
    (segment : List UInt8) :
    ∃ n', n ≤ n' ∧ Turn.Renamed m m' n' (serveSegment s segment).1 (serveSegment s' segment).1 ∧
      Server.Renamed m m' n' (serveSegment s segment).2 (serveSegment s' segment).2 := by
  rcases arrivalOfOctets_cases segment with hnone | ⟨r, hr'⟩ | ⟨fault, hf⟩
  · simp only [serveSegment, hnone]
    exact ⟨n, n.le_refl, ⟨.nil, rfl⟩, h⟩
  · obtain ⟨n', hn, hsent, hanswer, hserver⟩ := h.handle hr r
    simp only [serveSegment, hr']
    exact ⟨n', hn, ⟨hsent, hanswer⟩, hserver⟩
  · simp only [serveSegment, hf]
    exact ⟨n, n.le_refl, ⟨.nil, rfl⟩, h⟩

theorem serveSegments_renamed (h : Server.Renamed m m' n s s') (hr : s.service.registry.Scripted)
    (segments : List (List UInt8)) :
    ∃ n', n ≤ n' ∧
      List.Forall₂ (Turn.Renamed m m' n') (serveSegments s segments).1 (serveSegments s' segments).1 := by
  induction segments generalizing s s' n with
  | nil => exact ⟨n, n.le_refl, .nil⟩
  | cons segment segments ih =>
    obtain ⟨n₁, hn₁, hturn, hserver⟩ := serveSegment_renamed h hr segment
    obtain ⟨n₂, hn₂, hturns⟩ := ih hserver ((serveSegment_service s segment).symm ▸ hr)
    exact ⟨n₂, Nat.le_trans hn₁ hn₂, .cons (hturn.mono hn₂) hturns⟩

theorem sameOutput_after (pipe : Pipe) {ls ls' : List String}
    (h : List.Forall₂ (SameLine m m' n) ls ls') :
    SameOutput m m' n (pipe.after ls).written (pipe.after ls').written := by
  cases h with
  | nil => exact ⟨pipe.written, [], [], .nil, by simp, by simp⟩
  | cons hl hls => exact ⟨pipe.written ++ pipe.buffer, _, _, .cons hl hls, rfl, rfl⟩

theorem runSession_renamed (h : Server.Renamed m m' n s.entering s'.entering)
    (hr : s.service.registry.Scripted) (hw : s.stopRequested = false) (pipe : Pipe)
    (input : List UInt8) :
    ∃ n', SameOutput m m' n' (runSession s pipe input).link.written
      (runSession s' pipe input).link.written := by
  obtain ⟨n', -, hturns⟩ := serveSegments_renamed h hr (segments input)
  have hlines : List.Forall₂ (SameLine m m' n')
      ((serveSegments s.entering (segments input)).1.flatMap Turn.lines)
      ((serveSegments s'.entering (segments input)).1.flatMap Turn.lines) :=
    List.rel_flatMap hturns fun _ _ ht => ht.lines
  have hw' : s'.stopRequested = false := h.stopRequested.symm.trans hw
  refine ⟨n', ?_⟩
  rw [runSession_written hw, runSession_written hw']
  split_ifs
  · exact sameOutput_after pipe hlines
  · exact ⟨pipe.written, [], [], .nil, by simp, by simp⟩

end

/-! ### Two sessions -/

/-- After a session over any transport without a stop request, a server with stateless handlers
enters the next session in the state of a newly built server, with the log filter at the level last
set. If its handlers are scripts, the outputs of the two on the same input, over any pipe, are equal
up to the renaming of tokens. -/
theorem sessions_share_level_only [Outlet τ] {server : Server ω} (hw : server.stopRequested = false)
    (hr : server.service.registry.Stateless) (link : τ) (arrivals : List Arrival) :
    let first := arrivals.foldl Session.receive (.start server link)
    let level := first.server.scene.level
    (∃ taken rest, arrivals = taken ++ rest ∧
      (rest ≠ [] → (taken.foldl Session.receive (.start server link)).isOver) ∧
      level = lastSetting server.service server.scene.level taken) ∧
    (∀ (σ : Type) (next : σ), Session.start first.server next =
      Session.start (server.rebuilt level first.server.scene.supply) next) ∧
    (server.service.registry.Scripted → ∀ supply pipe input, ∃ n,
      SameOutput first.server.scene.supply.next supply.next n
        (runSession first.server pipe input).link.written
        (runSession (server.rebuilt level supply) pipe input).link.written) := by
  intro first level
  have hstart : Session.start server link = { server := server.entering, link } :=
    turn_of_notStopped (s := { server := server.entering, link }) hw
  have hentering : server.SurvivesSession server.scene.level (Session.start server link).server := by
    rw [hstart]
    exact (Server.SurvivesSession.refl hw).entering
  obtain ⟨taken, rest, harrivals, hover, hsurvives⟩ := survives_of_run hr hentering arrivals
  have hlevel : level = lastSetting server.service server.scene.level taken := hsurvives.level
  rw [← hlevel] at hsurvives
  refine ⟨⟨taken, rest, harrivals, hover, hlevel⟩, fun σ next => hsurvives.start_eq next, ?_⟩
  intro hcoursed supply pipe input
  have hrenamed : Server.Renamed first.server.scene.supply.next supply.next 0 first.server.entering
      (server.rebuilt level supply).entering := {
    service := hsurvives.service
    scene := {
      world := hsurvives.world
      level := rfl
      next := rfl
      next' := rfl
      tracker := .nil
      sent := .nil }
    phase := rfl
    running := rfl
    stopRequested := hsurvives.notStopped }
  rw [← hsurvives.service] at hcoursed
  exact runSession_renamed hrenamed hcoursed hsurvives.notStopped pipe input

/-! ### The filter outlasts a session -/

/-- A tool that logs a message at level `info`. -/
def loggingTool : ToolHandler Unit where
  tool := { name := "t.log", inputSchema := .object [] }
  call _ c :=
    (HandlerScript.send c (.log .info "hi" none) (.give (.ok { content := [.text "ok"] }))).perform []

def loggingServer : Server Unit where
  service :=
    { info := ⟨"relicta-mcp", "0.1.0"⟩, capabilities := { logging := some {} }
      registry := { tools := { entries := [("t.log", loggingTool)] } } }
  scene := { world := (), supply := ⟨.epoch, 0⟩ }

def requestWith (i : Int) (method key value : String) : Request :=
  { id := some (.number i), method, params := some (.object [(key, .string value)]) }

/-- Sets the filter to `error`. -/
def setLevelError : Request := requestWith 1 "logging/setLevel" "level" "error"

def callLog : Request := requestWith 2 "tools/call" "name" "t.log"

theorem scripted_loggingServer : loggingServer.service.registry.Scripted where
  tools h hh arguments c := by
    obtain rfl := List.mem_singleton.mp hh
    exact ⟨_, rfl⟩
  resources := nofun
  prompts := nofun

/-- The first session sets the filter to `error`. -/
theorem sessions_share_level_only_raised :
    let first := ([.request setLevelError, .ended] : List Arrival).foldl Session.receive
      (.start loggingServer ({} : Pipe))
    loggingServer.stopRequested = false ∧ loggingServer.service.registry.Stateless ∧
      loggingServer.service.registry.Scripted ∧ first.server.scene.level = .error ∧
      Session.start first.server ({} : Pipe) =
        Session.start (loggingServer.rebuilt .error first.server.scene.supply) ({} : Pipe) ∧
      ∀ supply input, ∃ n, SameOutput first.server.scene.supply.next supply.next n
        (runSession first.server {} input).link.written
        (runSession (loggingServer.rebuilt .error supply) {} input).link.written := by
  intro first
  have hwilling : loggingServer.stopRequested = false := rfl
  obtain ⟨-, hstart, hsame⟩ := sessions_share_level_only hwilling scripted_loggingServer.stateless
    ({} : Pipe) [.request setLevelError, .ended]
  exact ⟨hwilling, scripted_loggingServer.stateless, scripted_loggingServer, rfl, hstart Pipe {},
    fun supply input => hsame scripted_loggingServer supply {} input⟩

theorem count_unlines {ls : List String} (h : ∀ l ∈ ls, '\n' ∉ l.toList) :
    (unlines ls).toList.count '\n' = ls.length := by
  induction ls with
  | nil => rfl
  | cons l ls ih =>
    obtain ⟨hl, hls⟩ := List.forall_mem_cons.mp h
    simp [ih hls, List.count_eq_zero.mpr hl]

theorem SameLine.count_eq {l l' : String} (h : SameLine m m' n l l') :
    l.toList.count '\n' = l'.toList.count '\n' := by
  cases h with
  | same l => rfl
  | report p hp =>
    have hzero (a : Notification) : (Notification.codec.render a).toList.count '\n' = 0 :=
      List.count_eq_zero.mpr (lineFeed_notMem_render _)
    rw [hzero, hzero]

theorem SameOutput.count_eq {text text' : String} (h : SameOutput m m' n text text') :
    text.toList.count '\n' = text'.toList.count '\n' := by
  obtain ⟨before, ls, ls', hls, rfl, rfl⟩ := h
  induction hls with
  | nil => rfl
  | cons hl _ ih =>
    simp only [unlines_cons, String.toList_append, List.count_append, hl.count_eq] at ih ⊢
    omega

theorem Turn.lineFeed_notMem (t : Turn) : ∀ l ∈ t.lines, '\n' ∉ l.toList := by
  refine List.forall_mem_append.mpr ⟨List.forall_mem_map.mpr fun n _ => ?_,
    List.forall_mem_map.mpr fun r _ => ?_⟩
  · exact lineFeed_notMem_render _
  · exact lineFeed_notMem_render _

theorem runSession_request {s : Server ω} (hw : s.stopRequested = false) {r : Request}
    (h : arrivalOfOctets (lineOctets (Request.codec.render r)) = some (.request r)) :
    (runSession s {} (Utf8.encode (unlines [Request.codec.render r]).toList)).server =
        (s.entering.handle r).2.2.leaving ∧
      (runSession s {} (Utf8.encode (unlines [Request.codec.render r]).toList)).link.written.toList.count
          '\n' = (s.entering.handle r).1.length + (s.entering.handle r).2.1.toList.length := by
  have hcut : segments (Utf8.encode (unlines [Request.codec.render r]).toList) =
      [lineOctets (Request.codec.render r)] :=
    segments_unlines (List.forall_mem_singleton.mpr (lineFeed_notMem_render _))
  have hturns : serveSegments s.entering [lineOctets (Request.codec.render r)] =
      ([{ sent := (s.entering.handle r).1, answer := (s.entering.handle r).2.1 }],
        (s.entering.handle r).2.2) := by
    simp only [serveSegments, serveSegment, h]
  rw [runSession_of_takes hw rfl, hcut, hturns]
  have hwritten (ls : List String) : (({} : Pipe).after ls).written = unlines ls := by
    cases ls <;> simp [Pipe.after]
  refine ⟨rfl, ?_⟩
  rw [List.flatMap_singleton, hwritten, count_unlines (Turn.lineFeed_notMem _)]
  simp [Turn.lines]

theorem arrival_requestWith {i : Int} (hi : (RequestId.number i).InRange) (method key value : String) :
    arrivalOfOctets (lineOctets (Request.codec.render (requestWith i method key value))) =
      some (.request (requestWith i method key value)) := by
  have hid : ∀ id, (requestWith i method key value).id = some id → id.InRange := by
    rintro id ⟨⟩
    exact hi
  have hfits : (Request.codec.write (requestWith i method key value)).Fits := by
    refine Request.fits hid ?_
    rintro v ⟨⟩
    exact ⟨by simp [Json.depth, Json.membersDepth], trivial, trivial⟩
  exact arrivalOfOctets_request hid rfl hfits

/-- The first session sets the filter to `error`, and the second does not receive a message that a
newly built server sends. -/
theorem level_outlasts_session :
    ¬ ∀ (first second : List UInt8) (supply : Supply), ∃ n,
      SameOutput (runSession loggingServer {} first).server.scene.supply.next supply.next n
        (runSession (runSession loggingServer {} first).server {} second).link.written
        (runSession (loggingServer.rebuilt loggingServer.scene.level supply) {} second).link.written := by
  intro h
  obtain ⟨n, hsame⟩ := h (Utf8.encode (unlines [Request.codec.render setLevelError]).toList)
    (Utf8.encode (unlines [Request.codec.render callLog]).toList) loggingServer.scene.supply
  have hset : arrivalOfOctets (lineOctets (Request.codec.render setLevelError)) =
    some (.request setLevelError) :=
    arrival_requestWith ⟨by decide, by decide⟩ _ _ _
  have hcall : arrivalOfOctets (lineOctets (Request.codec.render callLog)) = some (.request callLog) :=
    arrival_requestWith ⟨by decide, by decide⟩ _ _ _
  have hcount := hsame.count_eq
  rw [(runSession_request (s := loggingServer) rfl hset).1, (runSession_request rfl hcall).2,
    (runSession_request rfl hcall).2] at hcount
  revert hcount
  decide

end ReleaseDesk.Stream
