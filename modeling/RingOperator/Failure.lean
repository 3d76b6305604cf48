import RingOperator.Text.Quoted

/-!
# Failures

Why a pass, a request or a reading fails. A failure is a cause, not a text:
`message` is its wording, `kind` the short label under which it is counted, and
`isRetryable` tells the conditions that pass by themselves from those that a
person has to mend.
-/

namespace RingOperator

/-- What went wrong between the operator and the API server. -/
inductive ApiFailure where
  /-- The request has a path that cannot be sent. -/
  | unsendable
  /-- The server refused the request. -/
  | refused (code : Nat) (reason message : String)
  /-- The answer does not have the form that was asked for. -/
  | undecodable
  /-- The answer holds a line without end. -/
  | endlessLine
  /-- The request got no response. -/
  | unanswered (detail : String)
  deriving DecidableEq

/-- Why something failed. -/
inductive Failure where
  /-- The API server refused or could not be understood. -/
  | api (cause : ApiFailure)
  /-- A pod has no address or node yet. -/
  | podNotScheduled (pod : String)
  /-- A region does not answer, or has nothing to answer yet. -/
  | regionNotReady (region : String)
  /-- The declared cluster, or what was found of it, contradicts itself. -/
  | invariant (text : String)
  /-- A node cannot be asked, and its peers do not agree that it is gone. -/
  | departureUnconfirmed (pod : String) (cause : Failure)
  /-- The control channel of a node failed. -/
  | nodeControl (address reason : String)
  /-- The prober of a region failed. -/
  | gateway (host reason : String)
  /-- A job record exists or has changed. -/
  | jobConflict (job : String)
  /-- A reply broke off. -/
  | transport (detail : String)
  /-- A setting has a value that it may not have. -/
  | invalidSetting (field reason : String)
  /-- A value does not have the form that it should have. -/
  | unreadable (detail : String)
  /-- Something took too long. -/
  | timeout (awaited : String)
  deriving DecidableEq

/-- The words for a reading error in messages: which of several faults of a text is met first
is no part of any format. -/
def unreadableDetail : String := "not of the expected form"

namespace ApiFailure

/-- Whether the server reports that an object exists already or has changed. -/
def isConflict : ApiFailure → Bool
  | refused 409 _ _ => true
  | _ => false

/-- Whether the server reports that an object does not exist. -/
def isMissing : ApiFailure → Bool
  | refused 404 _ _ => true
  | _ => false

/-- Whether the same request may succeed later: after a conflict, too many requests, a failure
of the server itself, or an answer that broke off or never came. -/
def isTransient : ApiFailure → Bool
  | unsendable => false
  | refused code _ _ => code = 409 || code = 429 || 500 ≤ code
  | undecodable => false
  | endlessLine | unanswered _ => true

/-- The wording. -/
def message : ApiFailure → String
  | unsendable => "Failed to build request: failed to build request: invalid uri character"
  | refused code reason message =>
    let fields := " status: " ++ Text.Quoted.quote "Failure" ++
      ", message: " ++ Text.Quoted.quote message ++
      ", reason: " ++ Text.Quoted.quote reason ++
      ", code: " ++ Text.Numeral.ofNat code ++ " "
    "ApiError: " ++ message ++ ": " ++ reason ++
      " (ErrorResponse " ++ Text.Quoted.braced fields ++ ")"
  | undecodable => "Error deserializing response"
  | endlessLine => "Error finding newline character"
  | unanswered detail => "ServiceError: " ++ detail

end ApiFailure

namespace Failure

/-- Whether the pass is tried again after a delay instead of being given up. -/
def isRetryable : Failure → Bool
  | api cause => cause.isTransient
  | invariant _ | invalidSetting _ _ | unreadable _ => false
  | _ => true

/-- The label under which failures are counted. -/
def kind : Failure → String
  | api _ => "kube"
  | podNotScheduled _ => "pod_not_scheduled"
  | regionNotReady _ => "region_not_ready"
  | invariant _ => "config_invariant"
  | departureUnconfirmed _ _ => "decommission_unconfirmed"
  | nodeControl _ _ => "node_control"
  | gateway _ _ => "gateway"
  | jobConflict _ => "job_conflict"
  | transport _ => "http"
  | invalidSetting _ _ => "invalid_config"
  | unreadable _ => "serialization"
  | timeout _ => "timeout"

/-- The wording. -/
def message : Failure → String
  | api cause => "Kubernetes API error: " ++ cause.message
  | podNotScheduled pod => "One of pods is not scheduled yet: " ++ pod
  | regionNotReady region => "One of the regions is not ready: " ++ region
  | invariant text => "Configuration invariant violated: " ++ text
  | departureUnconfirmed pod cause =>
    "Decommission of " ++ pod ++
      " not confirmed yet, some peer node(s) still see the node as live: " ++ cause.message
  | nodeControl address reason => "Node control request to " ++ address ++ " failed: " ++ reason
  | gateway host reason => "Prober request to " ++ host ++ " failed: " ++ reason
  | jobConflict job => "Job " ++ job ++ " conflict"
  | transport detail => "HTTP error: " ++ detail
  | invalidSetting field reason => "Invalid configuration: " ++ field ++ ": " ++ reason
  | unreadable detail => "Serialization error: " ++ detail
  | timeout awaited => "Timeout waiting for " ++ awaited

end Failure

/-- A result or the failure that prevented it. -/
abbrev Outcome (α : Type) := Except Failure α

end RingOperator
