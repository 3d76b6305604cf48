import RingOperator.Failure

/-!
# Settings of the operator

The settings of the process, their defaults, the conditions under which they
are accepted (`Settings.check`), and the URL templates among them. The delay
after a failed pass is in `Failure.delay`.
-/

namespace RingOperator

/-- Delays between passes, in seconds. -/
structure Delays where
  /-- After a condition that passes by itself. -/
  retry : Nat := 10
  /-- After a region that did not answer. -/
  regionRetry : Nat := 5
  /-- While a node is being drained. -/
  decommissionPoll : Nat := 10
  /-- While there is nothing to do. -/
  resync : Nat := 60
  deriving DecidableEq

/-- How the prober of the own region is reached. -/
structure ProberSettings where
  /-- URL template. -/
  localUrl : String := "http://{name}-cassandra-prober.{namespace}.svc.cluster.local"
  user : String := ""
  password : String := ""
  /-- Longest wait for an answer, in milliseconds. -/
  timeoutMillis : Nat := 5000
  deriving DecidableEq

/-- How the control channel of the nodes is reached. -/
structure JolokiaSettings where
  /-- URL template of the proxy. -/
  url : String := "http://{name}-cassandra-prober.{namespace}.svc.cluster.local:8080"
  /-- The TCP port on which a node is managed. -/
  jmxPort : Nat := 7199
  user : String := ""
  password : String := ""
  /-- Longest wait for an answer, in milliseconds. -/
  timeoutMillis : Nat := 10000
  deriving DecidableEq

/-- The settings of the process. -/
structure Settings where
  /-- The namespace that is watched; empty for all of them. -/
  watched : String := ""
  metricsPort : Nat := 8080
  healthPort : Nat := 8081
  logLevel : String := "info"
  requeue : Delays := {}
  prober : ProberSettings := {}
  jolokia : JolokiaSettings := {}
  deriving DecidableEq

namespace Settings

instance : Inhabited Settings := ⟨{}⟩

/-- The levels of the log. -/
def logLevels : List String := ["trace", "debug", "info", "warn", "error"]

/-- Accepts settings with two ports, waits and retry delays that are not zero, and a known log
level. -/
def check (s : Settings) : Outcome Unit :=
  if s.metricsPort = s.healthPort then
    .error (.invalidSetting "health_port" "Health and metrics ports must differ")
  else if s.prober.timeoutMillis = 0 then
    .error (.invalidSetting "prober.timeout_ms" "Timeout must be non-zero")
  else if s.jolokia.timeoutMillis = 0 then
    .error (.invalidSetting "jolokia.timeout_ms" "Timeout must be non-zero")
  else if s.requeue.retry = 0 ∨ s.requeue.regionRetry = 0 then
    .error (.invalidSetting "requeue" "Retry delays must be non-zero")
  else if s.logLevel ∈ logLevels then .ok ()
  else .error (.invalidSetting "log_level"
    ("Unknown log level " ++ Text.Quoted.quote s.logLevel))

end Settings

/-- The delay, in seconds, before a pass that failed is tried again; none if it is not. -/
def Failure.delay (settings : Settings) (failure : Failure) : Option Nat :=
  if failure.isRetryable then
    some <| match failure with
      | .regionNotReady _ | .gateway _ _ => settings.requeue.regionRetry
      | .departureUnconfirmed _ _ => settings.requeue.decommissionPoll
      | .jobConflict _ => 1
      | .api cause => if cause.isConflict then 1 else settings.requeue.retry
      | _ => settings.requeue.retry
  else none

namespace UrlTemplate

/-- The text with every occurrence of a pattern, from left to right, replaced. The pattern is
given by its first character and the others. -/
def replace (first : Char) (others substitute : List Char) : List Char → List Char
  | [] => []
  | c :: cs =>
    if c = first ∧ others.isPrefixOf cs then
      substitute ++ replace first others substitute (cs.drop others.length)
    else c :: replace first others substitute cs
termination_by cs => cs.length
decreasing_by
  · simp only [List.length_cons, List.length_drop]; omega
  · simp

/-- The text with a value in the place of a word between braces, wherever that stands. -/
def putIn (word value : String) : List Char → List Char :=
  replace '{' (word.toList ++ ['}']) value.toList

/-- The URL of a template for a cluster: first the name of the cluster is put in, then its
namespace. -/
def fill (template name space : String) : String :=
  String.ofList (putIn "namespace" space (putIn "name" name template.toList))

end UrlTemplate

end RingOperator
