import RingOperator.Proofs.Json.RoundTrip
import RingOperator.Settings.Flags

/-!
# What the settings of a process come to

The decoders of settings told by what they accept: a field that is missing stands for its default
(`Json.Stands`), and a field that is given is a text, or a number that fits (`Settings.Told`). The
process starts from what its file tells, or from the defaults (`Flags.StartsFrom`), and puts the
values of its flags in place. Not only the result has to be accepted: the file has to be so by
itself (`Flags.settings_iff`), and a value that a flag replaces is judged like any other one
(`Flags.settings_replaced`).
-/

namespace RingOperator

namespace Json

variable {α : Type} {default a : α} {reads : Json → α → Prop} {decode : Json → Option α}
  {part : Option Json} {value : Json}

/-- What a part stands for: for what its value is read as, or, if there is none, for a default. -/
inductive Stands (default : α) (reads : Json → α → Prop) : Option Json → α → Prop
  | missing : Stands default reads none default
  | given {value : Json} {a : α} (h : reads value a) : Stands default reads (some value) a

theorem orDefault_eq_some_iff (h : ∀ {value a}, decode value = some a ↔ reads value a) :
    orDefault default decode part = some a ↔ Stands default reads part a := by
  cases part with
  | none =>
    rw [orDefault, Option.some.injEq]
    constructor
    · rintro rfl
      exact .missing
    · rintro ⟨⟩
      rfl
  | some value =>
    rw [orDefault, h]
    constructor
    · exact .given
    · rintro ⟨⟩
      assumption

/-- A text as a value. -/
def IsText (value : Json) (content : String) : Prop := value = .text content

/-- A number that is at most as great as a bound. -/
def IsNumber (greatest : Nat) (value : Json) (n : Nat) : Prop := value = .integer n ∧ n ≤ greatest

theorem text?_eq_some_iff {content : String} :
    value.text? = some content ↔ IsText value content := by
  cases value <;> simp [text?, IsText]

theorem integerIn?_eq_some_iff {greatest n : Nat} :
    (value.integerIn? 0 greatest).map Int.toNat = some n ↔ IsNumber greatest value n := by
  cases value with
  | integer i =>
    rw [integerIn?, IsNumber, integer.injEq]
    split
    · simp only [Option.map_some, Option.some.injEq]
      omega
    · simp only [Option.map_none, reduceCtorEq, false_iff]
      omega
  | _ => simp [integerIn?, IsNumber]

end Json

open Json

variable {value : Json}

/-- Seconds or milliseconds fit into sixty-four bits. -/
def IsSpan : Json → Nat → Prop := IsNumber (2 ^ 64 - 1)

/-- A port fits into sixteen bits. -/
def IsPort : Json → Nat → Prop := IsNumber (2 ^ 16 - 1)

theorem span?_eq_some_iff {n : Nat} : span? value = some n ↔ IsSpan value n :=
  integerIn?_eq_some_iff

theorem port?_eq_some_iff {n : Nat} : port? value = some n ↔ IsPort value n :=
  integerIn?_eq_some_iff

/-- What a value tells of the delays. -/
def Delays.Told (value : Json) (d : Delays) : Prop :=
  ∃ retry region poll resync,
    value.parts? ["retry_secs", "region_retry_secs", "decommission_poll_secs", "resync_secs"] =
      some [retry, region, poll, resync] ∧
    Stands 10 IsSpan retry d.retry ∧ Stands 5 IsSpan region d.regionRetry ∧
    Stands 10 IsSpan poll d.decommissionPoll ∧ Stands 60 IsSpan resync d.resync

theorem Delays.decode_eq_some_iff {d : Delays} : decode value = some d ↔ d.Told value := by
  rw [decode]
  split
  · rename_i retry region poll resync parts
    simp only [Told, parts, Option.bind_eq_bind, Option.bind_eq_some_iff, Option.pure_def,
      Option.some.injEq, orDefault_eq_some_iff span?_eq_some_iff]
    constructor
    · rintro ⟨_, retries, _, regions, _, polls, _, resyncs, rfl⟩
      exact ⟨_, _, _, _, rfl, retries, regions, polls, resyncs⟩
    · rintro ⟨_, _, _, _, ⟨⟩, retries, regions, polls, resyncs⟩
      exact ⟨_, retries, _, regions, _, polls, _, resyncs, rfl⟩
  · rename_i none
    constructor
    · rintro ⟨⟩
    · rintro ⟨_, _, _, _, parts, -⟩
      exact absurd parts (none _ _ _ _)

/-- What a value tells of the prober. -/
def ProberSettings.Told (value : Json) (p : ProberSettings) : Prop :=
  ∃ url user password timeout,
    value.parts? ["local_url", "user", "password", "timeout_ms"] =
      some [url, user, password, timeout] ∧
    Stands "http://{name}-cassandra-prober.{namespace}.svc.cluster.local" IsText url
      p.localUrl ∧
    Stands "" IsText user p.user ∧ Stands "" IsText password p.password ∧
    Stands 5000 IsSpan timeout p.timeoutMillis

theorem ProberSettings.decode_eq_some_iff {p : ProberSettings} :
    decode value = some p ↔ p.Told value := by
  rw [decode]
  split
  · rename_i url user password timeout parts
    simp only [Told, parts, Option.bind_eq_bind, Option.bind_eq_some_iff, Option.pure_def,
      Option.some.injEq, orDefault_eq_some_iff text?_eq_some_iff,
      orDefault_eq_some_iff span?_eq_some_iff]
    constructor
    · rintro ⟨_, urls, _, users, _, passwords, _, timeouts, rfl⟩
      exact ⟨_, _, _, _, rfl, urls, users, passwords, timeouts⟩
    · rintro ⟨_, _, _, _, ⟨⟩, urls, users, passwords, timeouts⟩
      exact ⟨_, urls, _, users, _, passwords, _, timeouts, rfl⟩
  · rename_i none
    constructor
    · rintro ⟨⟩
    · rintro ⟨_, _, _, _, parts, -⟩
      exact absurd parts (none _ _ _ _)

/-- What a value tells of the proxy. -/
def JolokiaSettings.Told (value : Json) (p : JolokiaSettings) : Prop :=
  ∃ url jmxPort user password timeout,
    value.parts? ["url", "jmx_port", "user", "password", "timeout_ms"] =
      some [url, jmxPort, user, password, timeout] ∧
    Stands "http://{name}-cassandra-prober.{namespace}.svc.cluster.local:8080" IsText
      url p.url ∧
    Stands 7199 IsPort jmxPort p.jmxPort ∧ Stands "" IsText user p.user ∧
    Stands "" IsText password p.password ∧ Stands 10000 IsSpan timeout p.timeoutMillis

theorem JolokiaSettings.decode_eq_some_iff {p : JolokiaSettings} :
    decode value = some p ↔ p.Told value := by
  rw [decode]
  split
  · rename_i url jmxPort user password timeout parts
    simp only [Told, parts, Option.bind_eq_bind, Option.bind_eq_some_iff, Option.pure_def,
      Option.some.injEq, orDefault_eq_some_iff text?_eq_some_iff,
      orDefault_eq_some_iff port?_eq_some_iff, orDefault_eq_some_iff span?_eq_some_iff]
    constructor
    · rintro ⟨_, urls, _, ports, _, users, _, passwords, _, timeouts, rfl⟩
      exact ⟨_, _, _, _, _, rfl, urls, ports, users, passwords, timeouts⟩
    · rintro ⟨_, _, _, _, _, ⟨⟩, urls, ports, users, passwords, timeouts⟩
      exact ⟨_, urls, _, ports, _, users, _, passwords, _, timeouts, rfl⟩
  · rename_i none
    constructor
    · rintro ⟨⟩
    · rintro ⟨_, _, _, _, _, parts, -⟩
      exact absurd parts (none _ _ _ _ _)

/-- What a value tells of the settings. -/
def Settings.Told (value : Json) (s : Settings) : Prop :=
  ∃ watched metrics health level requeue prober jolokia,
    value.parts? ["namespace", "metrics_port", "health_port", "log_level", "requeue", "prober",
      "jolokia"] = some [watched, metrics, health, level, requeue, prober, jolokia] ∧
    Stands "" IsText watched s.watched ∧ Stands 8080 IsPort metrics s.metricsPort ∧
    Stands 8081 IsPort health s.healthPort ∧ Stands "info" IsText level s.logLevel ∧
    Stands {} Delays.Told requeue s.requeue ∧ Stands {} ProberSettings.Told prober s.prober ∧
    Stands {} JolokiaSettings.Told jolokia s.jolokia

theorem Settings.decode_eq_some_iff {s : Settings} : decode value = some s ↔ s.Told value := by
  rw [decode]
  split
  · rename_i watched metrics health level requeue prober jolokia parts
    simp only [Told, parts, Option.bind_eq_bind, Option.bind_eq_some_iff, Option.pure_def,
      Option.some.injEq, orDefault_eq_some_iff text?_eq_some_iff,
      orDefault_eq_some_iff port?_eq_some_iff, orDefault_eq_some_iff Delays.decode_eq_some_iff,
      orDefault_eq_some_iff ProberSettings.decode_eq_some_iff,
      orDefault_eq_some_iff JolokiaSettings.decode_eq_some_iff]
    constructor
    · rintro ⟨_, names, _, ports, _, others, _, levels, _, delays, _, probers, _, proxies, rfl⟩
      exact ⟨_, _, _, _, _, _, _, rfl, names, ports, others, levels, delays, probers, proxies⟩
    · rintro ⟨_, _, _, _, _, _, _, ⟨⟩, names, ports, others, levels, delays, probers, proxies⟩
      exact ⟨_, names, _, ports, _, others, _, levels, _, delays, _, probers, _, proxies, rfl⟩
  · rename_i none
    constructor
    · rintro ⟨⟩
    · rintro ⟨_, _, _, _, _, _, _, parts, -⟩
      exact absurd parts (none _ _ _ _ _ _ _)

theorem Settings.ofText_eq_ok {content : String} {s : Settings}
    (read : Json.read content = some value) (told : s.Told value) : ofText content = .ok s := by
  rw [ofText, read, Option.bind_some, decode_eq_some_iff.2 told]

namespace Flags

/-- What a process starts from, before its flags count: from the file that is named, or from the
defaults. -/
inductive StartsFrom (flags : Flags) (file : String → Except String String) : Settings → Prop
  | defaults (h : flags.config = none) : StartsFrom flags file {}
  | file {path content : String} {value : Json} {base : Settings}
      (named : flags.config = some path) (found : file path = .ok content)
      (read : Json.read content = some value) (told : base.Told value) : StartsFrom flags file base

variable {flags : Flags} {file : String → Except String String} {base s : Settings}

/-- What a process starts from is checked before its flags count, and once more after that. -/
theorem StartsFrom.settings_eq (h : flags.StartsFrom file base) : flags.settings file = (do
    base.check
    (flags.override base).check
    return flags.override base) := by
  rw [settings]
  cases h with
  | defaults h =>
    rw [h]
    rfl
  | @file path content value _ named found read told =>
    have checked : Settings.ofFile content = (do
        base.check
        return base) := by
      rw [Settings.ofFile, Settings.ofText_eq_ok read told]
      rfl
    rw [named]
    simp only [found, checked]
    cases base.check <;> rfl

theorem StartsFrom.settings_eq_ok_iff (h : flags.StartsFrom file base) :
    flags.settings file = .ok s ↔ base.check = .ok () ∧ (flags.override base).check = .ok () ∧
      s = flags.override base := by
  rw [h.settings_eq]
  constructor
  · intro accepted
    cases own : base.check with
    | error failure =>
      rw [own] at accepted
      cases accepted
    | ok _ =>
      cases merged : (flags.override base).check with
      | error failure =>
        rw [own, merged] at accepted
        cases accepted
      | ok _ =>
        rw [own, merged] at accepted
        cases accepted
        exact ⟨rfl, rfl, rfl⟩
  · rintro ⟨own, merged, rfl⟩
    rw [own, merged]
    rfl

theorem StartsFrom.of_write {path : String} (named : flags.config = some path)
    (plain : value.isPlain = true) (told : base.Told value) :
    flags.StartsFrom (fun _ => .ok value.write) base :=
  .file named rfl (Json.read_write plain) told

/-- Without anything to start from there are no settings. -/
theorem exists_startsFrom (h : flags.settings file = .ok s) :
    ∃ base, flags.StartsFrom file base := by
  rw [settings] at h
  cases named : flags.config with
  | none => exact ⟨{}, .defaults named⟩
  | some path =>
    rw [named] at h
    cases found : file path with
    | error reason =>
      simp only [found] at h
      cases h
    | ok content =>
      simp only [found, Settings.ofFile, Settings.ofText] at h
      cases decoded : (Json.read content).bind Settings.decode with
      | none =>
        rw [decoded] at h
        cases h
      | some base =>
        obtain ⟨value, read, told⟩ := Option.bind_eq_some_iff.1 decoded
        exact ⟨base, .file named found read (Settings.decode_eq_some_iff.1 told)⟩

/-- A process has settings exactly if what it starts from and what the flags make of it are both
accepted. Otherwise what is wrong with the file is reported, whatever the flags replace. -/
theorem settings_iff (flags : Flags) (file : String → Except String String) :
    (∀ s, flags.settings file = .ok s ↔ ∃ base, flags.StartsFrom file base ∧
      base.check = .ok () ∧ s.check = .ok () ∧ s = { base with
        watched := flags.watched.getD base.watched
        metricsPort := flags.metricsPort.getD base.metricsPort
        healthPort := flags.healthPort.getD base.healthPort
        logLevel := flags.logLevel.getD base.logLevel }) ∧
    ∀ base failure, flags.StartsFrom file base → base.check = .error failure →
      flags.settings file = .error failure := by
  refine ⟨fun s => ⟨fun h => ?_, ?_⟩, fun base failure starts own => ?_⟩
  · obtain ⟨base, starts⟩ := exists_startsFrom h
    obtain ⟨own, merged, rfl⟩ := starts.settings_eq_ok_iff.1 h
    exact ⟨base, starts, own, merged, rfl⟩
  · rintro ⟨base, starts, own, merged, rfl⟩
    exact starts.settings_eq_ok_iff.2 ⟨own, merged, rfl⟩
  · rw [starts.settings_eq, own]
    rfl

/-- A namespace of the file and a log level of the flags, and a file whose log level is unknown. -/
theorem settings_iff_leveled :
    Flags.settings { config := some "c.json", logLevel := some "debug" }
        (fun _ => .ok (Json.object [("namespace", .text "n")]).write) =
        .ok { watched := "n", logLevel := "debug" } ∧
      Flags.settings { config := some "c.json", logLevel := some "debug" }
        (fun _ => .ok (Json.object [("log_level", .text "loud")]).write) =
        .error (.invalidSetting "log_level" "Unknown log level \"loud\"") := by
  constructor
  · have plain : (Json.object [("namespace", .text "n")]).isPlain = true := by decide
    have starts : StartsFrom { config := some "c.json", logLevel := some "debug" }
        (fun _ => .ok (Json.object [("namespace", .text "n")]).write) { watched := "n" } :=
      .of_write rfl plain (Settings.decode_eq_some_iff.1 rfl)
    exact ((settings_iff _ _).1 _).2 ⟨_, starts, by decide, by decide, rfl⟩
  · have plain : (Json.object [("log_level", .text "loud")]).isPlain = true := by decide
    have starts : StartsFrom { config := some "c.json", logLevel := some "debug" }
        (fun _ => .ok (Json.object [("log_level", .text "loud")]).write) { logLevel := "loud" } :=
      .of_write rfl plain (Settings.decode_eq_some_iff.1 rfl)
    exact (settings_iff _ _).2 _ _ starts (by decide +kernel)

/-- A file whose health port is the default of the other one, and a flag that replaces it. -/
theorem settings_replaced :
    Settings.ofText (Json.object [("health_port", .integer 8080)]).write =
        .ok { healthPort := 8080 } ∧
      (Flags.override { healthPort := some 9091 } { healthPort := 8080 }).check = .ok () ∧
        Flags.settings { config := some "c.json", healthPort := some 9091 }
          (fun _ => .ok (Json.object [("health_port", .integer 8080)]).write) =
          .error (.invalidSetting "health_port" "Health and metrics ports must differ") := by
  have plain : (Json.object [("health_port", .integer 8080)]).isPlain = true := by decide
  have told : Settings.Told (.object [("health_port", .integer 8080)]) { healthPort := 8080 } :=
    Settings.decode_eq_some_iff.1 rfl
  refine ⟨Settings.ofText_eq_ok (Json.read_write plain) told, by decide, ?_⟩
  rw [(StartsFrom.of_write rfl plain told).settings_eq]
  rfl

end Flags

end RingOperator
