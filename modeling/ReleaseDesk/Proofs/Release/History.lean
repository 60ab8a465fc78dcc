import ReleaseDesk.Proofs.Release.Outcome

/-! Runs of the in-memory adapter. A run leaves a history, one entry for every step requested, the latest
first. Functions of the history tell whether a release was planned, which version was approved and
bumped to since, and whether the release is published. -/

namespace ReleaseDesk.Release

/-- A step with its input and its outcome. -/
structure Entry where
  step : Step
  input : step.Input
  outcome : Except Refusal step.Output

namespace Entry

def plans : Entry → Bool
  | ⟨.plan, _, .ok _⟩ => true
  | _ => false

/-- The version set by a bump that is no dry run. -/
def bumpedVersion? : Entry → Option String
  | ⟨.bump, input, .ok output⟩ => if input.dryRun then none else some output.newVersion
  | _ => none

def writesNotes : Entry → Bool
  | ⟨.notes, _, .ok _⟩ => true
  | _ => false

def approvedVersion? : Entry → Option String
  | ⟨.approve, _, .ok output⟩ => some output.version
  | _ => none

/-- The current release was published, not in a dry run. -/
def publishes : Entry → Bool
  | ⟨.publish, input, .ok _⟩ => !input.dryRun
  | _ => false

/-- The stage of the current release was set by a bump, by notes or by an approval. -/
def reworks (e : Entry) : Bool :=
  e.bumpedVersion?.isSome || e.writesNotes || e.approvedVersion?.isSome

/-- The stage of the current release was set. -/
def changesStage (e : Entry) : Bool := e.publishes || e.reworks

variable {e : Entry}

theorem changesStage_of_publishes (h : e.publishes = true) : e.changesStage = true := by
  rw [changesStage, h, Bool.true_or]

theorem publishes_eq_false (h : e.changesStage = false) : e.publishes = false :=
  (Bool.or_eq_false_iff.mp h).1

theorem bumpedVersion?_eq_none (h : e.changesStage = false) : e.bumpedVersion? = none := by
  simp only [changesStage, reworks, Bool.or_eq_false_iff] at h
  exact Option.isNone_iff_eq_none.mp (by simpa using h.2.1.1)

theorem approvedVersion?_eq_none (h : e.changesStage = false) : e.approvedVersion? = none := by
  simp only [changesStage, reworks, Bool.or_eq_false_iff] at h
  exact Option.isNone_iff_eq_none.mp (by simpa using h.2.2)

end Entry

/-- A step with its input, and the clock and identifiers supplied to it. -/
structure Order where
  step : Step
  input : step.Input
  supply : Supply

namespace MemoryAdapter

/-- Performs an order and adds its entry to the history. -/
def carryOut : List Entry × MemoryAdapter → Order → List Entry × MemoryAdapter
  | (history, d), ⟨step, input, supply⟩ =>
    let (outcome, after) := d.perform supply step input
    (⟨step, input, outcome⟩ :: history, after)

/-- The history and the adapter after a run of orders. -/
def run (d : MemoryAdapter) (orders : List Order) : List Entry × MemoryAdapter :=
  orders.foldl carryOut ([], d)

/-- A run only adds to the history. -/
theorem foldl_carryOut (history : List Entry) (d : MemoryAdapter) (orders : List Order) :
    orders.foldl carryOut (history, d) = ((d.run orders).1 ++ history, (d.run orders).2) := by
  unfold run
  induction orders generalizing history d with
  | nil => rfl
  | cons o orders ih =>
    simp only [List.foldl_cons, carryOut]
    rw [ih (_ :: history), ih [_], List.append_assoc]
    rfl

theorem run_append (d : MemoryAdapter) (before after : List Order) :
    d.run (before ++ after) =
      (((d.run before).2.run after).1 ++ (d.run before).1, ((d.run before).2.run after).2) := by
  rw [run, List.foldl_append]
  exact foldl_carryOut _ _ after

theorem run_concat (d : MemoryAdapter) (orders : List Order) (o : Order) :
    d.run (orders ++ [o]) = carryOut (d.run orders) o := by
  rw [run, List.foldl_append]
  rfl

theorem run_cons (d : MemoryAdapter) (o : Order) (rest : List Order) :
    d.run (o :: rest) =
      (((d.perform o.supply o.step o.input).2.run rest).1 ++
          [⟨o.step, o.input, (d.perform o.supply o.step o.input).1⟩],
        ((d.perform o.supply o.step o.input).2.run rest).2) :=
  foldl_carryOut _ _ rest

end MemoryAdapter

/-! ### Functions of a history -/

/-- The entries since the last plan. -/
def sincePlan (history : List Entry) : List Entry :=
  history.takeWhile fun e => !e.plans

/-- The version of the last approval since the last plan. -/
def lastApproved? (history : List Entry) : Option String :=
  (sincePlan history).findSome? Entry.approvedVersion?

/-- The entries since the last approval since the last plan. -/
def sinceApproval (history : List Entry) : List Entry :=
  (sincePlan history).takeWhile fun e => e.approvedVersion?.isNone

/-- The version of the last bump since the last approval. -/
def lastBumped? (history : List Entry) : Option String :=
  (sinceApproval history).findSome? Entry.bumpedVersion?

/-- Whether the current release is published: of the entries since the last plan that set its stage, the
latest is a publication. -/
def isPublished (history : List Entry) : Bool :=
  ((sincePlan history).find? Entry.changesStage).any Entry.publishes

section Cons

variable {e : Entry} {history : List Entry}

theorem sincePlan_cons (h : e.plans = false) : sincePlan (e :: history) = e :: sincePlan history :=
  List.takeWhile_cons_of_pos (by rw [h]; rfl)

theorem sincePlan_plan (h : e.plans = true) : sincePlan (e :: history) = [] :=
  List.takeWhile_cons_of_neg (by simp [h])

theorem lastApproved?_plan (h : e.plans = true) : lastApproved? (e :: history) = none := by
  rw [lastApproved?, sincePlan_plan h]
  rfl

theorem lastApproved?_cons (h : e.plans = false) :
    lastApproved? (e :: history) = e.approvedVersion?.or (lastApproved? history) := by
  unfold lastApproved?
  rw [sincePlan_cons h, List.findSome?_cons]
  cases e.approvedVersion? <;> rfl

theorem sinceApproval_cons (h : e.plans = false) (ha : e.approvedVersion? = none) :
    sinceApproval (e :: history) = e :: sinceApproval history := by
  unfold sinceApproval
  rw [sincePlan_cons h, List.takeWhile_cons_of_pos (by rw [ha]; rfl)]

theorem sinceApproval_approval {version : String} (h : e.plans = false)
    (ha : e.approvedVersion? = some version) : sinceApproval (e :: history) = [] := by
  unfold sinceApproval
  rw [sincePlan_cons h, List.takeWhile_cons_of_neg (by rw [ha]; exact Bool.false_ne_true)]

theorem lastBumped?_cons (h : e.plans = false) (ha : e.approvedVersion? = none) :
    lastBumped? (e :: history) = e.bumpedVersion?.or (lastBumped? history) := by
  unfold lastBumped?
  rw [sinceApproval_cons h ha, List.findSome?_cons]
  cases e.bumpedVersion? <;> rfl

theorem isPublished_plan (h : e.plans = true) : isPublished (e :: history) = false := by
  rw [isPublished, sincePlan_plan h]
  rfl

theorem isPublished_cons (hp : e.plans = false) :
    isPublished (e :: history) = if e.changesStage then e.publishes else isPublished history := by
  unfold isPublished
  rw [sincePlan_cons hp, List.find?_cons]
  cases e.changesStage <;> rfl

theorem isPublished_publication (hp : e.plans = false) (h : e.publishes = true) :
    isPublished (e :: history) = true := by
  rw [isPublished_cons hp, if_pos (Entry.changesStage_of_publishes h), h]

/-- A published release stays published as long as it is neither replaced nor reworked. -/
theorem isPublished_of_not_reworks (hp : e.plans = false) (hr : e.reworks = false)
    (h : isPublished history = true) : isPublished (e :: history) = true := by
  rw [isPublished_cons hp, Entry.changesStage, hr, Bool.or_false]
  cases he : e.publishes <;> simp [h]

end Cons

end ReleaseDesk.Release
