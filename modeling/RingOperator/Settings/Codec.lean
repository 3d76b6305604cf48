import RingOperator.Json.Reader
import RingOperator.Json.Record
import RingOperator.Settings.Basic

/-!
# Settings as JSON

A settings file is one JSON object. Every field may be missing and then has its
default; none may be null. Ports have sixteen bits, times sixty-four.
-/

namespace RingOperator

open Json

/-- A port as a JSON value. -/
def port? : Json → Option Nat := fun value => (value.integerIn? 0 65535).map Int.toNat

/-- A number of seconds or milliseconds as a JSON value. -/
def span? : Json → Option Nat := fun value =>
  (value.integerIn? 0 18446744073709551615).map Int.toNat

namespace Delays

/-- The delays that a JSON value gives. -/
def decode (value : Json) : Option Delays :=
  match value.parts? ["retry_secs", "region_retry_secs", "decommission_poll_secs",
      "resync_secs"] with
  | some [retry, region, poll, resync] => do
    let d : Delays := {}
    return {
      retry := ← orDefault d.retry span? retry
      regionRetry := ← orDefault d.regionRetry span? region
      decommissionPoll := ← orDefault d.decommissionPoll span? poll
      resync := ← orDefault d.resync span? resync }
  | _ => none

/-- The delays as a JSON value. -/
def encode (d : Delays) : Json :=
  .object [("retry_secs", .integer d.retry), ("region_retry_secs", .integer d.regionRetry),
    ("decommission_poll_secs", .integer d.decommissionPoll),
    ("resync_secs", .integer d.resync)]

end Delays

namespace ProberSettings

/-- The prober settings that a JSON value gives. -/
def decode (value : Json) : Option ProberSettings :=
  match value.parts? ["local_url", "user", "password", "timeout_ms"] with
  | some [url, user, password, timeout] => do
    let p : ProberSettings := {}
    return {
      localUrl := ← orDefault p.localUrl text? url
      user := ← orDefault p.user text? user
      password := ← orDefault p.password text? password
      timeoutMillis := ← orDefault p.timeoutMillis span? timeout }
  | _ => none

/-- The prober settings as a JSON value. -/
def encode (p : ProberSettings) : Json :=
  .object [("local_url", .text p.localUrl), ("user", .text p.user),
    ("password", .text p.password), ("timeout_ms", .integer p.timeoutMillis)]

end ProberSettings

namespace JolokiaSettings

/-- The proxy settings that a JSON value gives. -/
def decode (value : Json) : Option JolokiaSettings :=
  match value.parts? ["url", "jmx_port", "user", "password", "timeout_ms"] with
  | some [url, jmxPort, user, password, timeout] => do
    let p : JolokiaSettings := {}
    return {
      url := ← orDefault p.url text? url
      jmxPort := ← orDefault p.jmxPort port? jmxPort
      user := ← orDefault p.user text? user
      password := ← orDefault p.password text? password
      timeoutMillis := ← orDefault p.timeoutMillis span? timeout }
  | _ => none

/-- The proxy settings as a JSON value. -/
def encode (p : JolokiaSettings) : Json :=
  .object [("url", .text p.url), ("jmx_port", .integer p.jmxPort), ("user", .text p.user),
    ("password", .text p.password), ("timeout_ms", .integer p.timeoutMillis)]

end JolokiaSettings

namespace Settings

/-- The settings that a JSON value gives. -/
def decode (value : Json) : Option Settings :=
  match value.parts? ["namespace", "metrics_port", "health_port", "log_level", "requeue",
      "prober", "jolokia"] with
  | some [watched, metrics, health, level, requeue, prober, jolokia] => do
    let s : Settings := {}
    return {
      watched := ← orDefault s.watched text? watched
      metricsPort := ← orDefault s.metricsPort port? metrics
      healthPort := ← orDefault s.healthPort port? health
      logLevel := ← orDefault s.logLevel text? level
      requeue := ← orDefault s.requeue Delays.decode requeue
      prober := ← orDefault s.prober ProberSettings.decode prober
      jolokia := ← orDefault s.jolokia JolokiaSettings.decode jolokia }
  | _ => none

/-- The settings as a JSON value. -/
def encode (s : Settings) : Json :=
  .object [("namespace", .text s.watched), ("metrics_port", .integer s.metricsPort),
    ("health_port", .integer s.healthPort), ("log_level", .text s.logLevel),
    ("requeue", s.requeue.encode), ("prober", s.prober.encode),
    ("jolokia", s.jolokia.encode)]

/-- The settings that the text of a file gives, accepted or not. -/
def ofText (content : String) : Outcome Settings :=
  match (Json.read content).bind decode with
  | some settings => .ok settings
  | none => .error (.unreadable unreadableDetail)

/-- The settings of a file with the given text. -/
def ofFile (content : String) : Outcome Settings := do
  let settings ← ofText content
  settings.check
  return settings

/-- The failure to read the file at a path. -/
def missingFile (path reason : String) : Failure :=
  .invalidSetting "config" ("Failed to read config file " ++ path ++ ": " ++ reason)

end Settings

end RingOperator
