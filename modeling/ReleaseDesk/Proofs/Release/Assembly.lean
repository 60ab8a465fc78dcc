import ReleaseDesk.Plugin.Roster
import ReleaseDesk.Proofs.Release.Parametric
import ReleaseDesk.Proofs.Release.Publication
import ReleaseDesk.Proofs.Service.Installation
import ReleaseDesk.Proofs.Service.Registry

/-! Assembled release servers. The keys of the handlers are valid and distinct, so that a release
server can be assembled and finds each of its handlers; the handlers are given by trees. Installed
in an arbitrary registry, the handlers are added up to the first whose key is in use. -/

namespace ReleaseDesk.Release

open ReleaseDesk.Service ReleaseDesk.Plugin

variable {σ π : Type}

/-! ### Keys -/

/-- The keys of the handlers of a release server, in the order of their registration. -/
def serverKeys : List Key := [
  .tool "relicta.status", .tool "relicta.plan", .tool "relicta.bump", .tool "relicta.notes",
  .tool "relicta.evaluate", .tool "relicta.approve", .tool "relicta.publish",
  .resource "relicta://status", .resource "relicta://notes",
  .prompt "release-summary", .prompt "risk-review",
  .tool "relicta.plugins.list", .tool "relicta.plugins.info", .tool "relicta.plugins.execute_hook",
  .resource "relicta://plugins"]

theorem map_key_serverHandlers [Adapter σ] [Manager π] :
    (serverHandlers (σ := σ) (π := π)).map Handler.key = serverKeys := rfl

theorem isValid_serverHandlers [Adapter σ] [Manager π] :
    ∀ h ∈ serverHandlers (σ := σ) (π := π), h.key.isValid := by
  have hkeys : ∀ k ∈ serverKeys, k.isValid := by decide
  rw [← map_key_serverHandlers (σ := σ) (π := π)] at hkeys
  exact List.forall_mem_map.mp hkeys

theorem nodup_serverHandlers [Adapter σ] [Manager π] :
    ((serverHandlers (σ := σ) (π := π)).map Handler.key).Nodup := by
  rw [map_key_serverHandlers]
  decide

theorem exists_assemble [Adapter σ] [Manager π] (config : Config) (backend : Backend σ π)
    (supply : Supply) :
    ∃ registry, assemble (some config) backend supply = .ok (serverOf config registry backend supply) ∧
      ∀ k, registry.get? k = serverHandlers.find? (·.key = k) := by
  obtain ⟨registry, hall, hget⟩ := Registry.exists_registerAll
    (isValid_serverHandlers (σ := σ) (π := π)) nodup_serverHandlers fun h _ => Registry.get?_empty h.key
  obtain ⟨released, hfirst, hsecond⟩ := Registry.registerAll_append hall
  refine ⟨registry, ?_, fun k => ?_⟩
  · simp only [assemble, hfirst, hsecond]
    rfl
  · rw [hget, Registry.get?_empty, Option.or_none]

/-- The handlers that a registry finds are those of a release server. -/
def HasReleaseHandlers [Adapter σ] [Manager π] (r : Registry (Backend σ π)) : Prop :=
  ∀ k, r.get? k = serverHandlers.find? (·.key = k)

section

variable [Adapter σ] [Manager π] {r : Registry (Backend σ π)}

theorem HasReleaseHandlers.mem (h : HasReleaseHandlers r) {k : Key} {handler : Handler (Backend σ π)}
    (hfound : r.get? k = some handler) : handler ∈ serverHandlers ∧ handler.key = k := by
  rw [h] at hfound
  have hkey := List.find?_some hfound
  exact ⟨List.mem_of_find?_eq_some hfound, of_decide_eq_true hkey⟩

theorem HasReleaseHandlers.tool (h : HasReleaseHandlers r) {name : String} {t : ToolHandler (Backend σ π)}
    (ht : serverHandlers.find? (·.key = .tool name) = some (.tool t)) : r.tools.get? name = some t := by
  obtain ⟨handler, hget, hhandler⟩ := Option.map_eq_some_iff.mp ((h (.tool name)).trans ht)
  cases hhandler
  exact hget

theorem HasReleaseHandlers.resource (h : HasReleaseHandlers r) {uri : String}
    {t : ResourceHandler (Backend σ π)}
    (ht : serverHandlers.find? (·.key = .resource uri) = some (.resource t)) :
    r.resources.get? uri = some t := by
  obtain ⟨handler, hget, hhandler⟩ := Option.map_eq_some_iff.mp ((h (.resource uri)).trans ht)
  cases hhandler
  exact hget

theorem HasReleaseHandlers.tools (h : HasReleaseHandlers r) (s : Step) :
    r.tools.get? s.toolName = some s.handler :=
  h.tool (by cases s <;> rfl)

end

/-- The handlers of an assembled release server are given by trees, and so send notices only. -/
theorem exists_follows_assemble [Adapter σ] [Manager π] (config : Config) (backend : Backend σ π)
    (supply : Supply) :
    ∃ server tree, assemble (some config) backend supply = .ok server ∧
      server.service.registry.Follows tree ∧ server.service.registry.SendsNotices := by
  obtain ⟨registry, hserver, hhandlers⟩ := exists_assemble config backend supply
  have htrees (k : Key) (h : Handler (Backend σ π)) (hfound : registry.get? k = some h) : h.IsTree :=
    isTree_serverHandlers h (HasReleaseHandlers.mem hhandlers hfound).1
  obtain ⟨tree, htree⟩ := Registry.exists_follows htrees
  exact ⟨_, tree, hserver, htree, fun k h hfound => (htrees k h hfound).sendsNotices⟩

/-- The release server for the in-memory adapter with features to release. -/
def memoryServer : Server (Backend MemoryAdapter Roster) :=
  serverOf {} (({} : Registry _).registerAll serverHandlers).2 { adapter := some minorAdapter } fixedSupply

theorem assemble_memoryServer :
    assemble (some {}) { adapter := some minorAdapter } fixedSupply = .ok memoryServer := rfl

theorem exists_follows_memoryServer : ∃ tree, memoryServer.service.registry.Follows tree ∧
    memoryServer.service.registry.SendsNotices := by
  obtain ⟨server, tree, hserver, hresults⟩ := exists_follows_assemble (σ := MemoryAdapter) (π := Roster)
    {} { adapter := some minorAdapter } fixedSupply
  obtain rfl : memoryServer = server := Except.ok.inj (assemble_memoryServer.symm.trans hserver)
  exact ⟨tree, hresults⟩

/-! ### Installation -/

/-- Installing the release handlers, or the plugin handlers, in any registry adds them up to the first whose
key is taken. -/
theorem surfaces_installed_up_to_clash [Adapter σ] [Manager π] (r : Registry (Backend σ π)) :
    r.InstallsOnce releaseHandlers ∧ r.InstallsOnce pluginHandlers := by
  have hvalid := List.forall_mem_append.mp (isValid_serverHandlers (σ := σ) (π := π))
  have hdistinct : ((releaseHandlers (σ := σ) (π := π)).map Handler.key ++
      (pluginHandlers (σ := σ) (π := π)).map Handler.key).Nodup := by
    rw [← List.map_append]
    exact nodup_serverHandlers
  obtain ⟨hrelease, hplugin, -⟩ := List.nodup_append.mp hdistinct
  exact ⟨.of_distinct r hvalid.1 hrelease, .of_distinct r hvalid.2 hplugin⟩

/-- A registry with one tool of a given name. -/
def registryWithTool (name : String) : Registry (Backend Refusal Roster) :=
  (({} : Registry _).registerAll
    [.tool { tool := { name, inputSchema := .null }, call := fun _ _ => pure (.ok (.ofText "mine")) }]).2

/-- If the name `relicta.plan` is in use, the tools before it stay registered, and likewise among
the plugin tools if the name `relicta.plugins.info` is. -/
theorem remains_of_failed_installation :
    ¬ (∀ r : Registry (Backend Refusal Roster),
      (r.registerAll releaseHandlers).1 = .ok () ∨ (r.registerAll releaseHandlers).2 = r) ∧
    ¬ (∀ r : Registry (Backend Refusal Roster),
      (r.registerAll pluginHandlers).1 = .ok () ∨ (r.registerAll pluginHandlers).2 = r) := by
  constructor
  · intro h
    rcases h (registryWithTool "relicta.plan") with hok | hsame
    · cases hok
    · have hkeys := congrArg (fun r => r.tools.keys) hsame
      exact absurd hkeys (by decide)
  · intro h
    rcases h (registryWithTool "relicta.plugins.info") with hok | hsame
    · cases hok
    · have hkeys := congrArg (fun r => r.tools.keys) hsame
      exact absurd hkeys (by decide)

end ReleaseDesk.Release
