import ReleaseDesk.Wire.Choice

/-! The hooks of the release flow at which plugins run, and the errors of a plugin manager. -/

namespace ReleaseDesk.Plugin

open ReleaseDesk.Wire

inductive Hook
  | prePlan
  | postPlan
  | preVersion
  | postVersion
  | preNotes
  | postNotes
  | preApprove
  | postApprove
  | prePublish
  | postPublish
  | onSuccess
  | onError
deriving DecidableEq, Repr

/-- The errors of a plugin manager. -/
inductive Fault
  | notConfigured
  | notFound (name : String)
  | invalidHook (detail : String)
  | executionFailed (detail : String)
deriving DecidableEq

def Fault.message : Fault → String
  | notConfigured => "plugin manager not configured"
  | notFound name => "plugin not found: " ++ name
  | invalidHook detail => "invalid hook: " ++ detail
  | executionFailed detail => "hook execution failed: " ++ detail

namespace Hook

/-- The hooks in the order of the release flow. -/
def all : List Hook := [
  prePlan, postPlan, preVersion, postVersion, preNotes, postNotes, preApprove, postApprove,
  prePublish, postPublish, onSuccess, onError]

def name : Hook → String
  | prePlan => "pre-plan"
  | postPlan => "post-plan"
  | preVersion => "pre-version"
  | postVersion => "post-version"
  | preNotes => "pre-notes"
  | postNotes => "post-notes"
  | preApprove => "pre-approve"
  | postApprove => "post-approve"
  | prePublish => "pre-publish"
  | postPublish => "post-publish"
  | onSuccess => "on-success"
  | onError => "on-error"

def choice : Choice Hook := ⟨all, name⟩

def parse (s : String) : Except Fault Hook :=
  match choice.ofName? s with
  | some hook => .ok hook
  | none =>
    .error (.invalidHook ("'" ++ s ++ "'; valid hooks: " ++ ", ".intercalate choice.names))

end Hook

end ReleaseDesk.Plugin
