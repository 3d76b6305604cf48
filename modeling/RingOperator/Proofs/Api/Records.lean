import RingOperator.Api.Stores
import RingOperator.Proofs.Api.Server
import RingOperator.Proofs.Json.RoundTrip
import RingOperator.Proofs.Logs
import RingOperator.Proofs.Time.Written

/-!
# Records that come back

A job record is kept as the JSON text of a field of a config map. Whatever its texts hold,
the record is read back from that text, and from each text that gives its instants by the
time of other zones (`JobRecord.decode_encodeIn`, `JobStore.recordOf_encodeIn`). So a server
that returns the data that it was sent (`Returns`) returns the record: after a record was
created or updated, it is read again, and counts as running when it did before
(`JobStore.record_survives`). The server of the library is one (`Server.returns_answer`).
-/

namespace RingOperator

open Json

namespace Jobs.JobRecord

/-- The zones by which the instants of a record are written. -/
structure Zones where
  started : Instant.Zone
  heartbeat : Instant.Zone
  finished : Instant.Zone

/-- The record as a JSON value, each of its instants by the time of a zone. -/
def encodeIn (zones : Zones) (record : JobRecord) : Json :=
  .object [
    ("name", .text record.name),
    ("started", .text (record.started.writeIn zones.started)),
    ("heartbeat", .text (record.heartbeat.writeIn zones.heartbeat)),
    ("finished", ofText? (record.finished.map (Instant.writeIn zones.finished))),
    ("error", ofText? record.error)]

/-- A record whose instants are those of a clock. -/
structure IsCivil (record : JobRecord) : Prop where
  started : record.started.IsCivil
  heartbeat : record.heartbeat.IsCivil
  finished : ∀ t ∈ record.finished, t.IsCivil

variable {record : JobRecord}

/-- The zones by which the library writes. -/
def Zones.utc : Zones := ⟨.letter true, .letter true, .letter true⟩

theorem encodeIn_utc (record : JobRecord) : record.encodeIn .utc = record.encode := by
  have same : Instant.writeIn (.letter true) = Instant.write := funext Instant.writeIn_utc
  rw [encodeIn, Zones.utc, same, encode]

theorem isPlain_ofText? (given : Option String) : (ofText? given).isPlain = true := by
  cases given <;> rfl

theorem isPlain_encodeIn (zones : Zones) (record : JobRecord) :
    (record.encodeIn zones).isPlain = true := by
  simp [encodeIn, isPlain, fieldsPlain, isPlain_ofText?]

theorem orNothing_ofText? {α : Type} {decode : Json → Option α} {given : Option α}
    {spell : α → String} (h : ∀ a ∈ given, decode (.text (spell a)) = some a) :
    orNothing decode (some (ofText? (given.map spell))) = some given := by
  cases given with
  | none => rfl
  | some a =>
    rw [Option.map_some, ofText?, orNothing, h a rfl, Option.map_some]
    exact nofun

theorem instant?_writeIn (zone : Instant.Zone) {t : Instant} (civil : t.IsCivil) :
    instant? (.text (t.writeIn zone)) = some t := by
  rw [instant?, text?, Option.bind_some, Instant.read_writeIn zone civil]

/-- The record is what is read, whatever the zones are. -/
theorem decode_encodeIn (zones : Zones) (civil : record.IsCivil) :
    decode (record.encodeIn zones) = some record := by
  have parts : (record.encodeIn zones).parts?
      ["name", "started", "heartbeat", "finished", "error"] =
      some [some (.text record.name), some (.text (record.started.writeIn zones.started)),
        some (.text (record.heartbeat.writeIn zones.heartbeat)),
        some (ofText? (record.finished.map (Instant.writeIn zones.finished))),
        some (ofText? record.error)] := rfl
  have finished := @orNothing_ofText? _ instant? record.finished
    (Instant.writeIn zones.finished) fun t given => instant?_writeIn _ (civil.finished t given)
  have error := @orNothing_ofText? _ text? record.error id fun _ _ => rfl
  rw [Option.map_id, id] at error
  simp only [decode, parts, required, instant?_writeIn _ civil.started,
    instant?_writeIn _ civil.heartbeat, finished, error, text?]
  rfl

end Jobs.JobRecord

namespace Api

open Dialogue Jobs

/-- A call that writes a config map of a namespace. -/
def Writes (space : String) (draft : Draft) (call : Call) : Prop :=
  call = { verb := .post, resource := .configMaps, space, body := draft.encode } ∨
    call = { verb := .put, resource := .configMaps, space, name := draft.name
             body := draft.encode }

/-- After a config map was written, and this was understood, there is a config map to be read with
the data that were sent. -/
def Returns {σ : Type} (serve : Call → σ → Answer × σ) : Prop :=
  ∀ (space : String) (draft : Draft) (call : Call) (s : σ), Writes space draft call →
    (∃ map, understand ConfigMap.decode (serve call s).1 = .ok map) →
      ∃ value map, (serve { verb := .get, resource := .configMaps, space, name := draft.name }
          (serve call s).2).1 = .ok value ∧
        ConfigMap.decode value = some map ∧ map.data = some draft.data

namespace JobStore

variable {store : JobStore} {record : JobRecord}

/-- The record is what a config map holds, whatever the zones of its instants are. -/
theorem recordOf_encodeIn (name : String) {map : ConfigMap} (zones : JobRecord.Zones)
    (civil : record.IsCivil)
    (held : map.data.bind (·.get? dataKey) = some (record.encodeIn zones).write) :
    recordOf name map = .ok ⟨record, map.metadata.version.getD ""⟩ := by
  rw [recordOf, held]
  simp only [read_write (JobRecord.isPlain_encodeIn zones record), Option.bind_some,
    JobRecord.decode_encodeIn zones civil]

theorem get?_data_draft (store : JobStore) (record : JobRecord) (version : Option String) :
    (store.draft record version).data.get? dataKey = some record.encode.write := by
  rw [draft, Table.get?_ofList]
  rfl

variable {σ : Type} {serve : Call → σ → Answer × σ} {s s' : σ} {name : String}

/-- To get a record is one call. -/
theorem run_get (serve : Call → σ → Answer × σ) (s : σ) :
    (store.onServer (get name).run).run serve s =
      (understand (.get name) (serve (store.place (.get name)) s).1,
        (serve (store.place (.get name)) s).2) := rfl

/-- Whether a job runs is told by its record. -/
theorem run_isRunning {current : Versioned} (now : Instant)
    (found : ((store.onServer (get name).run).run serve s).1 = .ok (some current)) :
    ((store.onServer (isRunning now name).run).run serve s).1 =
      .ok (current.record.isRunningAt now) := by
  rw [onServer] at found
  rw [onServer, isRunning, ExceptT.run_bind, within_bind, run_bind, found]
  rfl

/-- A config map that holds the record gives it, whatever the zones of its instants are. -/
theorem gets_encodeIn (store : JobStore) (name : String) {value : Json} {map : ConfigMap}
    (zones : JobRecord.Zones) (civil : record.IsCivil)
    (answered : (serve (store.place (.get name)) s).1 = .ok value)
    (decoded : ConfigMap.decode value = some map)
    (held : map.data.bind (·.get? dataKey) = some (record.encodeIn zones).write) :
    ((store.onServer (get name).run).run serve s).1 =
      .ok (some ⟨record, map.metadata.version.getD ""⟩) := by
  have present : understandPresent ConfigMap.decode (.ok value) = .ok (some map) := by
    simp only [understandPresent, decoded]
  rw [run_get, answered, understand, present]
  change (recordOf name map >>= fun current => pure (some current)) = _
  rw [recordOf_encodeIn name zones civil held]
  rfl

/-- A record that was written, and this was understood, was written by a call that carries it. -/
theorem writes_of_run {write : Jobs.Exchange Unit}
    (writes : write = create record ∨ ∃ version, write = update record version)
    (done : (store.onServer write.run).run serve s = (.ok (), s')) :
    ∃ version call, Writes store.space (store.draft record version) call ∧
      (∃ map, Api.understand ConfigMap.decode (serve call s).1 = .ok map) ∧
        s' = (serve call s).2 := by
  have understood {answer : Answer} (h : written record.name answer = .ok ()) :
      ∃ map, Api.understand ConfigMap.decode answer = .ok map := by
    rcases answer with failure | value
    · cases h
    · rw [written] at h
      rw [Api.understand]
      cases decoded : ConfigMap.decode value with
      | none =>
        rw [decoded] at h
        cases h
      | some map => exact ⟨map, rfl⟩
  obtain rfl | ⟨version, rfl⟩ := writes
  · obtain ⟨ok, rfl⟩ := Prod.mk.inj done
    exact ⟨none, store.place (.create record), .inl rfl, understood ok, rfl⟩
  · obtain ⟨ok, rfl⟩ := Prod.mk.inj done
    exact ⟨some version, store.place (.update record version), .inr rfl, understood ok, rfl⟩

/-- A record that was created or updated is read again from a server that returns what it was
sent, and so is a record whose instants are given by the time of any zones; whether it counts as
running at an instant is the same as before. -/
theorem record_survives (returns : Returns serve) (store : JobStore) (civil : record.IsCivil) :
    (∀ (write : Jobs.Exchange Unit) s s',
      (write = create record ∨ ∃ version, write = update record version) →
      (store.onServer write.run).run serve s = (.ok (), s') →
      ∃ version, ((store.onServer (get record.name).run).run serve s').1 =
          .ok (some ⟨record, version⟩) ∧
        ∀ now, ((store.onServer (isRunning now record.name).run).run serve s').1 =
          .ok (record.isRunningAt now)) ∧
    ∀ zones name s value map, (serve (store.place (.get name)) s).1 = .ok value →
      ConfigMap.decode value = some map →
      map.data.bind (·.get? dataKey) = some (record.encodeIn zones).write →
      ((store.onServer (get name).run).run serve s).1 =
          .ok (some ⟨record, map.metadata.version.getD ""⟩) ∧
        ∀ now, ((store.onServer (isRunning now name).run).run serve s).1 =
          .ok (record.isRunningAt now) := by
  constructor
  · intro write s s' writes done
    obtain ⟨version, call, written, understood, rfl⟩ := writes_of_run writes done
    obtain ⟨value, map, answered, decoded, data⟩ := returns _ _ call s written understood
    have held : map.data.bind (·.get? dataKey) = some (record.encodeIn .utc).write := by
      rw [data, Option.bind_some, get?_data_draft, JobRecord.encodeIn_utc]
    have found := gets_encodeIn store record.name .utc civil answered decoded held
    exact ⟨_, found, fun now => run_isRunning now found⟩
  · intro zones name s value map answered decoded held
    have found := gets_encodeIn store name zones civil answered decoded held
    exact ⟨found, fun now => run_isRunning now found⟩

end JobStore

namespace Server

/-- Reading a config map gives the object that is there. -/
theorem answer_get {server : Server} {space name : String} {object : Json}
    (present : server.object? .configMaps name = some object) :
    answer { verb := .get, resource := .configMaps, space, name } server =
      (.ok object, server) := by
  rw [answer_named rfl, handle]
  simp only [present]

/-- A config map is written if this is understood. -/
theorem answer_writes {space : String} {draft : Draft} {call : Call} {server : Server}
    {map : ConfigMap} (writes : Writes space draft call)
    (understood : understand ConfigMap.decode (answer call server).1 = .ok map) :
    answer call server = (.ok (server.write .configMaps draft.name draft.encode).1,
      (server.write .configMaps draft.name draft.encode).2) := by
  obtain rfl | rfl := writes
  · rw [answer_create] at understood ⊢
    cases present : server.object? .configMaps draft.name with
    | none => rfl
    | some object =>
      rw [present] at understood
      cases understood
  · rw [answer_named rfl] at understood ⊢
    cases answered : (server.handle _ draft.name).1 with
    | error failure =>
      rw [answered] at understood
      cases understood
    | ok value =>
      obtain ⟨_, -, rfl, left⟩ := written_of_ok (.inl rfl) answered
      exact Prod.ext answered left

/-- The server returns what it was sent. -/
theorem returns_answer : Returns answer := by
  intro space draft call server writes understood
  obtain ⟨map, understood⟩ := understood
  have answered := answer_writes writes understood
  rw [answered] at understood ⊢
  have decoded : ConfigMap.decode (server.write .configMaps draft.name draft.encode).1 =
      some map := by
    rw [understand] at understood
    split at understood
    · rename_i read
      cases understood
      exact read
    · cases understood
  refine ⟨_, map, ?_, decoded, ConfigMap.data_of_written decoded⟩
  rw [answer_get (by rw [object?_write, if_pos ⟨rfl, rfl⟩])]

end Server

namespace JobStore

/-! ## A record that has to be escaped -/

/-- A record that has ended, with all that has to be escaped or filled up: it started in a leap
second, and its instants are in the first and the last year. -/
def knotty : JobRecord where
  name := "ring-\"dc\"-1\\\n\x07é"
  started := ⟨1483228799, 1500000000⟩
  heartbeat := ⟨-62167219200, 7⟩
  finished := some ⟨253402300799, 120000000⟩
  error := some "exit code \t\"1\"\x1f: 失败"

theorem isCivil_knotty : knotty.IsCivil where
  started := ⟨by decide, by decide, by decide⟩
  heartbeat := ⟨by decide, by decide, by decide⟩
  finished := by
    intro t given
    obtain rfl := Option.some.inj given
    exact ⟨by decide, by decide, by decide⟩

/-- A store without an owner. -/
def plain : JobStore := ⟨"default", "ring", none⟩

/-- Zones before and after UTC. -/
def apart : JobRecord.Zones := ⟨.east 5 45, .west 9 30, .letter false⟩

/-- The config map of the record, written by the time of other zones. -/
def knottyMap : Json :=
  .object [("metadata", .object [("resourceVersion", .text "7")]),
    ("data", .object [(dataKey, .text (knotty.encodeIn apart).write)])]

/-- The record is created on an empty server and read again, and it is read from a config map that
was written by the time of other zones. -/
theorem record_survives_knotty :
    (∃ s version, (plain.onServer (create knotty).run).run Server.answer {} = (.ok (), s) ∧
      ((plain.onServer (get knotty.name).run).run Server.answer s).1 =
        .ok (some ⟨knotty, version⟩) ∧
      ((plain.onServer (isRunning ⟨0, 0⟩ knotty.name).run).run Server.answer s).1 = .ok false) ∧
    ((plain.onServer (get "knotty").run).run Server.answer
      { objects := Table.ofList [("configmaps", Table.ofList [("knotty", knottyMap)])] }).1 =
        .ok (some ⟨knotty, "7"⟩) := by
  obtain ⟨kept, elsewhere⟩ :=
    record_survives Server.returns_answer plain isCivil_knotty
  constructor
  · have done : (plain.onServer (create knotty).run).run Server.answer {} = (.ok (), _) :=
      Prod.ext rfl rfl
    obtain ⟨version, found, running⟩ := kept _ _ _ (.inl rfl) done
    exact ⟨_, version, done, found, running ⟨0, 0⟩⟩
  · have decoded : ConfigMap.decode knottyMap = some {
        metadata := { version := some "7" }
        data := some (Table.ofList [(dataKey, (knotty.encodeIn apart).write)]) } := rfl
    exact (elsewhere apart "knotty" _ _ _ rfl decoded rfl).1

end JobStore

end Api

end RingOperator
