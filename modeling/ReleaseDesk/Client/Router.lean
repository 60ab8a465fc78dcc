import ReleaseDesk.Protocol.Notice

/-! Routing of notifications to listeners. A progress listener is registered under a token until it
is replaced, unregistered, or its sequence ends; it may also unregister itself from its callback.
There is one listener for log messages. -/

namespace ReleaseDesk.Client

open ReleaseDesk.Protocol ReleaseDesk.Wire

/-- A progress listener, with a label and whether it unregisters itself. -/
structure Listener (κ : Type) where
  label : κ
  leaves : Bool := false

/-- The events of listeners: a notification received, or the outcome of an unregistration from the
callback. -/
inductive Heard (κ : Type)
  | progress (label : κ) (report : Progress)
  | log (label : κ) (message : LogMessage)
  | left (label : κ) (removed : Bool)

/-- The listeners of a client: one per progress token, and at most one for log messages. -/
structure Router (κ : Type) where
  progress : List (ProgressToken × Listener κ) := []
  log : Option κ := none

namespace Router

def listener? (r : Router κ) (token : ProgressToken) : Option (Listener κ) :=
  (r.progress.find? (·.1 = token)).map (·.2)

def isRegistered (r : Router κ) (token : ProgressToken) : Bool := (r.listener? token).isSome

def unregister (r : Router κ) (token : ProgressToken) : Bool × Router κ :=
  (r.isRegistered token, { r with progress := r.progress.filter (·.1 ≠ token) })

def register (r : Router κ) (token : ProgressToken) (l : Listener κ) : Router κ :=
  { r with progress := (token, l) :: (r.unregister token).2.progress }

def onLog (r : Router κ) (label : κ) : Router κ := { r with log := some label }

/-- Routes a report. The last report of a sequence unregisters its listener. -/
def route (r : Router κ) (report : Progress) : List (Heard κ) × Router κ :=
  match r.listener? report.token with
  | none => ([], r)
  | some l =>
    let (told, r) :=
      if l.leaves then
        let (removed, r) := r.unregister report.token
        ([.left l.label removed], r)
      else ([], r)
    (.progress l.label report :: told,
      if report.kind = .finish then (r.unregister report.token).2 else r)

def params? (c : Codec α) (n : Rpc.Notification) : Option α :=
  n.params.bind fun v => (c.ofJson v).toOption

/-- Routes a notification. One of another kind, or with parameters that cannot be decoded, is
ignored. -/
def handle (r : Router κ) (n : Rpc.Notification) : List (Heard κ) × Router κ :=
  if n.method = progressMethod then
    match params? Progress.codec n with
    | some report => r.route report
    | none => ([], r)
  else if n.method = messageMethod then
    match r.log, params? LogMessage.codec n with
    | some label, some message => ([.log label message], r)
    | _, _ => ([], r)
  else ([], r)

end Router

end ReleaseDesk.Client
