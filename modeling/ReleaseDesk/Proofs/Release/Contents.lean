import ReleaseDesk.Proofs.Release.Advertised
import ReleaseDesk.Proofs.Release.Notes
import ReleaseDesk.Proofs.Release.Refinement

/-! The resources of a release server. Every resource is read under its own URI with the MIME type
that is listed for it, except for the notes, which are listed as Markdown and read as plain text. -/

namespace ReleaseDesk

namespace Protocol

def ResourceContents.mimeType? : ResourceContents → Option String
  | text t => t.mimeType
  | blob b => b.mimeType

/-- A successful result has contents, all of them with this URI and this MIME type. -/
def ResourceResult.Holds (result : ResourceResult) (uri : String) (type : Option String) : Prop :=
  result.isError = false →
    result.contents ≠ [] ∧ ∀ item ∈ result.contents, item.uri = uri ∧ item.mimeType? = type

theorem ResourceResult.toJson_inj {result other : ResourceResult}
    (h : ResourceResult.codec.toJson result = ResourceResult.codec.toJson other) : result = other := by
  have hresult := result.conveys.ofJson_toJson
  rw [h, other.conveys.ofJson_toJson] at hresult
  exact (Except.ok.inj hresult).symm

end Protocol

namespace Release

open Protocol Service Plugin

variable {σ π : Type}

/-! ### Results of a reading -/

/-- A text with this URI and MIME type, or a failure. -/
inductive Reading (uri type : String) : ResourceResult → Prop
  | text (s : String) : Reading uri type { contents := [.text { uri, mimeType := some type, text := s }] }
  | failure (message : String) : Reading uri type (.failure uri message)

theorem Reading.holds {uri type : String} {result : ResourceResult} (h : Reading uri type result) :
    result.Holds uri (some type) := by
  intro hok
  cases h with
  | text s => exact ⟨nofun, List.forall_mem_singleton.mpr ⟨rfl, rfl⟩⟩
  | failure message => cases hok

/-- Every result of the handler is a text with its own URI and this MIME type, or a failure. -/
def ReadsAs (h : ResourceHandler ω) (type : String) : Prop :=
  ∀ c scene, ∃ result, ((h.read c).run scene).1 = .ok result ∧ Reading h.resource.uri type result

namespace Backend

theorem exists_perform_bind [Adapter σ] (s : Step) (input : s.Input)
    (next : Except Refusal s.Output → Action (Backend σ π) α) (scene : Scene (Backend σ π)) :
    ∃ outcome after, (Backend.perform s input >>= next).run scene = (next outcome).run after := by
  cases h : scene.world.adapter with
  | none => exact ⟨_, _, perform_bind_none h s input next⟩
  | some a => exact ⟨_, _, perform_bind_some h s input next⟩

theorem exists_ask_bind (question : π → Except Plugin.Fault α × π)
    (next : Except Plugin.Fault α → Action (Backend σ π) β) (scene : Scene (Backend σ π)) :
    ∃ answer after, (Backend.ask question >>= next).run scene = (next answer).run after := by
  cases h : scene.world.manager with
  | none => exact ⟨_, _, ask_bind_none h question next⟩
  | some m => exact ⟨_, _, ask_bind_some h question next⟩

end Backend

theorem readsAs_status [Adapter σ] : ReadsAs (statusHandler (σ := σ) (π := π)) "application/json" := by
  intro c scene
  simp only [statusHandler]
  obtain ⟨outcome, after, hrun⟩ := Backend.exists_perform_bind (π := π) .status () _ scene
  rw [hrun]
  cases outcome with
  | ok status => exact ⟨_, rfl, .text _⟩
  | error refusal => exact ⟨_, rfl, .failure _⟩

theorem readsAs_notes [Adapter σ] : ReadsAs (notesHandler (σ := σ) (π := π)) "text/plain" := by
  intro c scene
  simp only [notesHandler]
  obtain ⟨outcome, after, hrun⟩ := Backend.exists_perform_bind (π := π) .status () _ scene
  rw [hrun]
  cases outcome with
  | ok status =>
    cases hnotes : status.notes with
    | some notes => exact ⟨_, by simp only [hnotes]; rfl, .text _⟩
    | none => exact ⟨_, by simp only [hnotes]; rfl, .failure _⟩
  | error refusal => exact ⟨_, rfl, .failure _⟩

theorem readsAs_plugins [Manager π] : ReadsAs (pluginsHandler (σ := σ) (π := π)) "application/json" := by
  intro c scene
  simp only [pluginsHandler]
  obtain ⟨answer, after, hrun⟩ := Backend.exists_ask_bind (σ := σ) Manager.plugins _ scene
  rw [hrun]
  cases answer with
  | ok plugins => exact ⟨_, rfl, .text _⟩
  | error fault => exact ⟨_, rfl, .failure _⟩

/-! ### The server -/

section

variable [Adapter σ] [Manager π] {s : Server (Backend σ π)} {r : Rpc.Request} {id : Rpc.RequestId}

theorem perm_resources {config : Option Config} {backend : Backend σ π} {supply : Supply}
    (h : assemble config backend supply = .ok s) :
    (s.service.registry.resources.toList.map (·.resource)).Perm
      [(statusHandler (σ := σ) (π := π)).resource, (notesHandler (σ := σ) (π := π)).resource,
        (pluginsHandler (σ := σ) (π := π)).resource] :=
  (catalogues_assemble h).perm_listed .resource

theorem answer_read (hs : HasReleaseHandlers s.service.registry) {h : ResourceHandler (Backend σ π)}
    (hh : serverHandlers.find? (·.key = .resource h.resource.uri) = some (.resource h))
    (hmethod : r.method = "resources/read") (hid : r.id = some id)
    (hasked : Kind.resource.requestedKey? r.params = some h.resource.uri) {result : ResourceResult}
    (hresult : ((h.read (s.service.context r)).run { s.scene with sent := [] }).1 = .ok result) :
    (s.handle r).2.1 = some (.success (some id) (ResourceResult.codec.toJson result)) := by
  obtain ⟨read, hread, huri⟩ := Dispatcher.readParams_of_asked hasked
  have hroute := Dispatcher.route_resource hread (hs.resource (huri ▸ hh)) (s.service.context r)
  have hhandled : ((handled ResourceResult.codec <$> h.read (s.service.context r)).run
      { s.scene with sent := [] }).1 = .ok (ResourceResult.codec.toJson result) :=
    congrArg (handled ResourceResult.codec) hresult
  rw [Server.handle_answer, hid, hmethod, hroute, hhandled]
  rfl

/-- Reading a resource whose handler gives texts of a type. -/
theorem ReadsAs.answer {h : ResourceHandler (Backend σ π)} {type : String} (hg : ReadsAs h type)
    (hs : HasReleaseHandlers s.service.registry)
    (hh : serverHandlers.find? (·.key = .resource h.resource.uri) = some (.resource h))
    (hmethod : r.method = "resources/read") (hid : r.id = some id)
    (hasked : Kind.resource.requestedKey? r.params = some h.resource.uri) :
    ∃ result, (s.handle r).2.1 = some (.success (some id) (ResourceResult.codec.toJson result)) ∧
      Reading h.resource.uri type result := by
  obtain ⟨result, hresult, hreading⟩ := hg (s.service.context r) { s.scene with sent := [] }
  exact ⟨result, answer_read hs hh hmethod hid hasked hresult, hreading⟩

/-- Every resource but the notes is read with the MIME type in its definition. -/
theorem exists_reading (hs : HasReleaseHandlers s.service.registry) {resource : Resource}
    (h : resource ∈ [(statusHandler (σ := σ) (π := π)).resource, (notesHandler (σ := σ) (π := π)).resource,
      (pluginsHandler (σ := σ) (π := π)).resource])
    (hmethod : r.method = "resources/read") (hid : r.id = some id)
    (hasked : Kind.resource.requestedKey? r.params = some resource.uri) :
    ∃ result, (s.handle r).2.1 = some (.success (some id) (ResourceResult.codec.toJson result)) ∧
      (resource.uri ≠ notesUri → result.Holds resource.uri resource.mimeType) ∧
      (resource.uri = notesUri →
        resource.mimeType = some "text/markdown" ∧ result.Holds notesUri (some "text/plain")) := by
  have hstatus : statusUri ≠ notesUri := by decide
  have hplugins : pluginsUri ≠ notesUri := by decide
  simp only [List.mem_cons, List.not_mem_nil, or_false] at h
  rcases h with rfl | rfl | rfl
  · obtain ⟨result, hanswer, hreading⟩ := readsAs_status.answer hs rfl hmethod hid hasked
    exact ⟨result, hanswer, fun _ => hreading.holds, fun h => absurd h hstatus⟩
  · obtain ⟨result, hanswer, hreading⟩ := readsAs_notes.answer hs rfl hmethod hid hasked
    exact ⟨result, hanswer, fun h => absurd rfl h, fun _ => ⟨rfl, hreading.holds⟩⟩
  · obtain ⟨result, hanswer, hreading⟩ := readsAs_plugins.answer hs rfl hmethod hid hasked
    exact ⟨result, hanswer, fun _ => hreading.holds, fun h => absurd h hplugins⟩

end

/-- For every adapter and every plugin manager, the release server can be assembled, and lists three
resources. In every state, reading one of them succeeds with a result, and unless this is a failure,
its contents have the URI of the resource and the MIME type that is listed; the notes are the
exception, listed as Markdown and read as plain text. -/
theorem resources_but_notes_read_as_listed [Adapter σ] [Manager π] (config : Config) (backend : Backend σ π)
    (supply : Supply) :
    ∃ server, assemble (some config) backend supply = .ok server ∧
      ∃ listing : List Resource, (listing.map (·.uri)).Perm [statusUri, notesUri, pluginsUri] ∧
        ∀ s : Server (Backend σ π), s.service = server.service →
          (∀ r id, r.method = "resources/list" → r.id = some id →
            (s.handle r).2.1 =
              some (.success (some id) (ResourcePage.codec.toJson { resources := listing }))) ∧
          ∀ resource ∈ listing, ∀ r id, r.method = "resources/read" → r.id = some id →
            Kind.resource.requestedKey? r.params = some resource.uri → ∃ result,
              (s.handle r).2.1 = some (.success (some id) (ResourceResult.codec.toJson result)) ∧
              (resource.uri ≠ notesUri → result.Holds resource.uri resource.mimeType) ∧
              (resource.uri = notesUri →
                resource.mimeType = some "text/markdown" ∧ result.Holds notesUri (some "text/plain")) := by
  obtain ⟨registry, hserver, hhandlers⟩ := exists_assemble config backend supply
  have hresources := perm_resources hserver
  refine ⟨_, hserver, _, hresources.map (·.uri), fun s hs => ?_⟩
  have hregistry : s.service.registry = registry := congrArg Dispatcher.registry hs
  have hhandlers : HasReleaseHandlers s.service.registry := hregistry.symm ▸ hhandlers
  refine ⟨fun r id hmethod hid => ?_, fun resource hmem r id => ?_⟩
  · have hlist : r.method = Kind.resource.listMethod := hmethod
    exact hregistry ▸ Server.answer_list hid hlist
  · exact exists_reading hhandlers (hresources.mem_iff.mp hmem)

/-! ### The in-memory adapter -/

/-- The request that reads a resource. -/
def readRequest (uri : String) : Rpc.Request :=
  { id := some (.number 0), method := "resources/read", params := some (.object [("uri", .string uri)]) }

/-- The status of the adapter is the content of the state resource. -/
theorem status_served {d : MemoryAdapter} {scene : Scene (Backend MemoryAdapter π)}
    (ha : scene.world.adapter = some d)
    (c : Context) : ((statusHandler.read c).run scene).1 =
      .ok { contents := [.ofJson statusUri (Status.codec.write d.status)] } := by
  simp only [statusHandler]
  rw [Backend.perform_bind_some ha]
  rfl

/-- The state resource has the listed type. -/
theorem resources_but_notes_read_as_listed_status :
    ∃ server : Server (Backend MemoryAdapter Roster),
      assemble (some {}) { adapter := some minorAdapter } fixedSupply = .ok server ∧
      ∃ (resource : Resource) (result : ResourceResult), resource.uri = statusUri ∧ statusUri ≠ notesUri ∧
        (server.handle (readRequest statusUri)).2.1 =
          some (.success (some (.number 0)) (ResourceResult.codec.toJson result)) ∧
        result.isError = false ∧ result.Holds statusUri resource.mimeType := by
  obtain ⟨server, hserver, listing, huris, hall⟩ := resources_but_notes_read_as_listed (π := Roster) {}
    { adapter := some minorAdapter } fixedSupply
  obtain ⟨registry, hassembled, hhandlers⟩ := exists_assemble (π := Roster) {}
    { adapter := some minorAdapter } fixedSupply
  obtain rfl := Except.ok.inj (hassembled.symm.trans hserver)
  obtain ⟨resource, hmem, huri⟩ := List.mem_map.mp (huris.mem_iff.mpr (.head _))
  have hne : statusUri ≠ notesUri := by decide
  have hasked : Kind.resource.requestedKey? (readRequest statusUri).params = some statusUri := rfl
  obtain ⟨result, hanswer, hholds, -⟩ :=
    (hall _ rfl).2 resource hmem (readRequest statusUri) (.number 0) rfl rfl
    (hasked.trans (congrArg some huri.symm))
  rw [huri] at hholds
  have hread := answer_read (s := serverOf {} registry { adapter := some minorAdapter } fixedSupply)
    (h := statusHandler) hhandlers rfl rfl rfl hasked (status_served rfl _)
  have hjson := congrArg Rpc.Response.result (Option.some.inj (hanswer.symm.trans hread))
  obtain rfl := ResourceResult.toJson_inj (Option.some.inj hjson)
  exact ⟨_, hserver, resource, _, huri, hne, hanswer, rfl, hholds hne⟩

/-- Calls of the tools that lead to a release with notes. -/
def notesCalls : List ToolOrder := [
  { id := none, step := .plan, arguments := none, meaning := .ok {}, means := Step.means_iff.mpr rfl },
  { id := none, step := .bump, arguments := none, meaning := .ok {}, means := Step.means_iff.mpr rfl },
  { id := none, step := .notes, arguments := none, meaning := .ok {}, means := Step.means_iff.mpr rfl }]

/-- The notes of 1.5.0 are listed as Markdown and read as plain text. -/
theorem notes_read_as_plain_text :
    ∃ server : Server (Backend MemoryAdapter Roster),
      assemble (some {}) { adapter := some minorAdapter } fixedSupply = .ok server ∧
      let now := (server.handleAll (notesCalls.map ToolOrder.request)).2
      ∃ resource ∈ now.service.registry.resources.toList.map (·.resource), resource.uri = notesUri ∧
        ∃ result, (now.handle (readRequest notesUri)).2.1 =
            some (.success (some (.number 0)) (ResourceResult.codec.toJson result)) ∧
          result.isError = false ∧ ∃ item ∈ result.contents, item.mimeType? ≠ resource.mimeType := by
  obtain ⟨registry, hserver, hhandlers⟩ := exists_assemble (π := Roster) {}
    { adapter := some minorAdapter } fixedSupply
  refine ⟨_, hserver, ?_⟩
  intro now
  -- the calls keep the registry, and leave the adapter with notes
  have hregistry : now.service.registry = registry :=
    congrArg Dispatcher.registry (Server.handleAll_service _ _)
  have hmem : (notesHandler (σ := MemoryAdapter) (π := Roster)).resource ∈
      now.service.registry.resources.toList.map (·.resource) :=
    hregistry.symm ▸ (perm_resources hserver).mem_iff.mpr (.tail _ (.head _))
  have hstart : HasAdapter (serverOf {} registry { adapter := some minorAdapter } fixedSupply)
      minorAdapter none fixedSupply :=
    ⟨HasReleaseHandlers.tools hhandlers, rfl, rfl, rfl⟩
  have hadapter : now.scene.world.adapter = some
    (ToolOrder.adapterRunAll notesCalls minorAdapter fixedSupply).2.1 :=
    congrArg Backend.adapter (hstart.handleAll notesCalls).2.world
  obtain ⟨text, htext⟩ : ∃ text,
      (ToolOrder.adapterRunAll notesCalls minorAdapter fixedSupply).2.1.status.notes = some text := ⟨_, rfl⟩
  have hread := answer_read (s := now) (h := notesHandler) (r := readRequest notesUri)
    (hregistry.symm ▸ hhandlers) rfl
    rfl rfl rfl (notes_served htext hadapter _)
  have htypes : some "text/plain" ≠ some "text/markdown" := by decide
  exact ⟨_, hmem, rfl, _, hread, rfl, _, .head _, htypes⟩

end Release

end ReleaseDesk
