import ReleaseDesk.Proofs.Service.Commuting

/-! Recording handler invocations. A recording server has the same handlers over a world extended by
a list, and each handler appends its arguments and its result to the list and is otherwise
unchanged. The list identifies the handlers that a request has invoked. -/

namespace ReleaseDesk.Service

open ReleaseDesk.Protocol ReleaseDesk.Wire

/-- A handler with its arguments. -/
inductive Invocation (ω : Type)
  | call (h : ToolHandler ω) (arguments : Json)
  | read (h : ResourceHandler ω)
  | fill (h : PromptHandler ω) (arguments : List (String × String))

/-- Runs the handler. -/
def Invocation.perform (c : Context) : Invocation ω → Action ω (Except Failure Json)
  | call h arguments => Except.map ToolResult.codec.toJson <$> h.call arguments c
  | read h => Except.map ResourceResult.codec.toJson <$> h.read c
  | fill h arguments => Except.map PromptResult.codec.toJson <$> h.fill arguments c

/-- An invocation with its context and its result. -/
structure Invoked (ω : Type) where
  invocation : Invocation ω
  context : Context
  outcome : Except Failure Json

/-- The outcome of a request, given the result of the handler. -/
def handlerOutcome (outcome : Except Failure Json) : Except Rpc.Fault Json :=
  outcome.mapError fun failure => .internal failure.message

theorem handled_eq_told (codec : Codec α) (outcome : Except Failure α) :
    handled codec outcome = handlerOutcome (outcome.map codec.toJson) := by
  cases outcome <;> rfl

/-! ### Recording -/

/-- Lifts an action to a world with a list, and appends a note of its result to the list. -/
def Action.recording (note : α → σ) (action : Action ω α) : Action (ω × List σ) α := do
  let scene ← get
  let (a, after) := action.run (scene.map Prod.fst)
  set (after.map fun world => (world, scene.world.2 ++ [note a]))
  pure a

def ToolHandler.recording (h : ToolHandler ω) : ToolHandler (ω × List (Invoked ω)) where
  tool := h.tool
  call arguments c := (h.call arguments c).recording fun outcome =>
    { invocation := .call h arguments, context := c, outcome := outcome.map ToolResult.codec.toJson }

def ResourceHandler.recording (h : ResourceHandler ω) : ResourceHandler (ω × List (Invoked ω)) where
  resource := h.resource
  read c := (h.read c).recording fun outcome =>
    { invocation := .read h, context := c, outcome := outcome.map ResourceResult.codec.toJson }

def PromptHandler.recording (h : PromptHandler ω) : PromptHandler (ω × List (Invoked ω)) where
  prompt := h.prompt
  fill arguments c := (h.fill arguments c).recording fun outcome =>
    { invocation := .fill h arguments, context := c, outcome := outcome.map PromptResult.codec.toJson }

namespace Invocation

def recording : Invocation ω → Invocation (ω × List (Invoked ω))
  | call h arguments => call h.recording arguments
  | read h => read h.recording
  | fill h arguments => fill h.recording arguments

/-- A recording handler behaves like the handler and appends one entry, with its arguments and its
result. -/
theorem recording_run (i : Invocation ω) (c : Context) (scene : Scene ω) (seen : List (Invoked ω)) :
    (i.recording.perform c).run (scene.map fun world => (world, seen)) =
      (((i.perform c).run scene).1,
        ((i.perform c).run scene).2.map fun world =>
          (world, seen ++ [⟨i, c, ((i.perform c).run scene).1⟩])) := by
  cases i <;> rfl

end Invocation

namespace SortedMap

def map (f : α → β) (s : SortedMap α) : SortedMap β := ⟨s.entries.map fun entry => (entry.1, f entry.2)⟩

@[simp] theorem get?_map (f : α → β) (s : SortedMap α) (key : String) :
    (s.map f).get? key = (s.get? key).map f := by
  simp only [get?, map, List.find?_map, Option.map_map]
  rfl

@[simp] theorem keys_map (f : α → β) (s : SortedMap α) : (s.map f).keys = s.keys := by
  simp only [keys, map, List.map_map]
  rfl

theorem map_toList_map (f : α → β) (g : β → γ) (s : SortedMap α) :
    (s.map f).toList.map g = s.toList.map (g ∘ f) := by
  simp only [toList, map, List.map_map]
  rfl

end SortedMap

namespace Dispatcher

/-- The server with recording handlers. -/
def recording (o : Dispatcher ω) : Dispatcher (ω × List (Invoked ω)) where
  info := o.info
  capabilities := o.capabilities
  instructions := o.instructions
  registry :=
    { tools := o.registry.tools.map ToolHandler.recording
      resources := o.registry.resources.map ResourceHandler.recording
      prompts := o.registry.prompts.map PromptHandler.recording }

/-- The invocations of a request, in order. -/
def invoked (o : Dispatcher ω) (r : Rpc.Request) (scene : Scene ω) : List (Invoked ω) :=
  ((o.recording.dispatch r).run (scene.map fun world => (world, []))).2.world.2

end Dispatcher

end ReleaseDesk.Service
