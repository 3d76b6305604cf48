import Mathlib.Data.List.TakeWhile
import RingOperator.Proofs.Api.Objects
import RingOperator.Proofs.Runs

/-!
# The server as a store

What the server answers when no call is refused by announcement: a call that names an
object is about this object alone, and one that names none lists the objects of a kind,
as they were written (`Server.answer`). Against such a server, an exchange is told by
what it reads and what it leaves. A config map that has been applied is there with its
data, and nothing else has changed (`Server.applies`); to apply it once more reads it,
and writes nothing (`Server.yields_applyConfigMap`).

This is how the server serves its calls, as long as it is left in peace
(`Server.serve_eq_answer`).
-/

namespace RingOperator.Api.Server

open Dialogue

/-- The object that a call names, in its path or, if it is to be created, in its body. -/
def named? (call : Call) : Option String :=
  match call.verb with
  | .post => subject call
  | _ => call.name

/-- Answers a call. -/
def answer (call : Call) (server : Server) : Answer × Server :=
  match named? call with
  | some name => server.handle call name
  | none => (.ok (.object [("items", .array (server.ofKind call.resource).values)]), server)

theorem answer_named {call : Call} {name : String} (h : named? call = some name)
    (server : Server) : answer call server = server.handle call name := by
  rw [answer, h]

/-- The name in a path is the whole of it, if there is no slash in it. -/
theorem subject_eq_named? {call : Call}
    (plain : ∀ name, call.name = some name → '/' ∉ name.toList) : subject call = named? call := by
  obtain ⟨verb, resource, space, _ | name, status, query, body⟩ := call
  · cases verb <;> rfl
  · have whole : name.toList.takeWhile (· ≠ '/') = name.toList :=
      List.takeWhile_eq_self_iff.2 fun c among => by
        have other : c ≠ '/' := fun same => plain name rfl (same ▸ among)
        simpa using other
    cases verb <;> simp only [subject, named?, Option.map_some, whole, String.ofList_toList]

/-- Where nothing is disturbed, paths have no further parts, and a list leaves nothing out, the
    server serves a call by its answer. -/
theorem serve_eq_answer {call : Call} {server : Server} (calm : server.disruptions = [])
    (plain : ∀ name, call.name = some name → '/' ∉ name.toList)
    (selected : ∀ object ∈ (server.ofKind call.resource).values,
      selects ((call.query.lookup "labelSelector").getD "") object = true) :
    serve call server =
      ((code (answer call server).1, (answer call server).1), (answer call server).2) := by
  have all : server.list call =
      .ok (.object [("items", .array (server.ofKind call.resource).values)]) := by
    rw [list, List.filter_eq_self.2 selected]
  rw [serve, calm, disrupted, answer, subject_eq_named? plain]
  cases named? call with
  | none => simp only [all]
  | some name => rfl

/-! ## Objects by their kind -/

theorem plural_inj {resource other : Resource} :
    resource.plural = other.plural ↔ resource = other := by
  cases resource <;> cases other <;> decide

theorem ofKind_put (server : Server) (resource other : Resource) (name : String) (object : Json) :
    (server.put resource name object).ofKind other =
      if other = resource then (server.ofKind resource).insert name object
      else server.ofKind other := by
  rw [ofKind, put, Table.get?_insert]
  by_cases same : other = resource
  · rw [if_pos same, if_pos (congrArg _ same), Option.getD_some]
  · rw [if_neg same, if_neg (mt plural_inj.1 same), ofKind]

theorem ofKind_write (server : Server) (resource other : Resource) (name : String) (object : Json) :
    (server.write resource name object).2.ofKind other =
      if other = resource then
        (server.ofKind resource).insert name (server.write resource name object).1
      else server.ofKind other :=
  ofKind_put _ _ _ _ _

theorem object?_write (server : Server) (resource other : Resource) (name name' : String)
    (object : Json) :
    (server.write resource name object).2.object? other name' =
      if other = resource ∧ name' = name then some (server.write resource name object).1
      else server.object? other name' := by
  rw [object?, object?, ofKind_write]
  by_cases same : other = resource
  · subst same
    simp [Table.get?_insert]
  · simp [same]

/-! ## Exchanges -/

variable {q : Call → Prop} {server server' : Server}

theorem yields_call {α : Type} {decode : Json → Option α} {c : Call} {a : α} :
    Yields answer q (call decode c) server a server' ↔
      q c ∧ (∃ value, (answer c server).1 = .ok value ∧ decode value = some a) ∧
        server' = (answer c server).2 := by
  rw [call, yields_ask]
  refine and_congr_right fun _ => and_congr_left fun _ => ?_
  cases answered : (answer c server).1 with
  | error failure => simp [understand]
  | ok value => cases read : decode value <;> simp [understand, read]

/-- A config map is read as it is, or not there. -/
theorem yields_getConfigMap {space name : String} {found : Option ConfigMap} :
    Yields answer q (getConfigMap space name) server found server' ↔
      q { verb := .get, resource := .configMaps, space, name } ∧ server' = server ∧
        match server.object? .configMaps name with
        | none => found = none
        | some object => ∃ map, ConfigMap.decode object = some map ∧ found = some map := by
  have served : answer { verb := .get, resource := .configMaps, space, name } server =
      server.handle { verb := .get, resource := .configMaps, space, name } name := rfl
  rw [getConfigMap, callPresent, yields_ask, served, handle]
  refine and_congr_right fun _ => ?_
  cases server.object? .configMaps name with
  | none =>
    rw [and_comm]
    exact and_congr_right fun _ => ⟨fun h => (Except.ok.inj h).symm, fun h => congrArg _ h.symm⟩
  | some object =>
    rw [and_comm]
    refine and_congr_right fun _ => ?_
    cases read : ConfigMap.decode object <;> simp [understandPresent, read, eq_comm]

/-- Under the name there is a config map that holds the data. -/
def Holds (server : Server) (name : String) (data : Table String) : Prop :=
  ∃ object map, server.object? .configMaps name = some object ∧
    ConfigMap.decode object = some map ∧ map.data = some data

/-- Nothing has changed but the config map of a name. -/
structure OnlyMap (name : String) (server server' : Server) : Prop where
  maps : ∀ other ≠ name,
    server'.object? .configMaps other = server.object? .configMaps other
  kinds : ∀ resource ≠ .configMaps, server'.ofKind resource = server.ofKind resource

theorem onlyMap_write (server : Server) (name : String) (object : Json) :
    OnlyMap name server (server.write .configMaps name object).2 where
  maps other differs := by rw [object?_write, if_neg fun same => differs same.2]
  kinds resource differs := by rw [ofKind_write, if_neg differs]

/-- A draft that has been written is there with its data. -/
theorem holds_write (server : Server) (draft : Draft) {map : ConfigMap}
    (h : ConfigMap.decode (server.write .configMaps draft.name draft.encode).1 = some map) :
    (server.write .configMaps draft.name draft.encode).2.Holds draft.name draft.data :=
  ⟨_, map, by rw [object?_write, if_pos ⟨rfl, rfl⟩], h, ConfigMap.data_of_written h⟩

theorem answer_create (server : Server) (space : String) (draft : Draft) :
    answer { verb := .post, resource := .configMaps, space, body := draft.encode } server =
      match server.object? .configMaps draft.name with
      | some _ => (.error (refusal 409 (about .configMaps draft.name "already exists")), server)
      | none =>
        (.ok (server.write .configMaps draft.name draft.encode).1,
          (server.write .configMaps draft.name draft.encode).2) := by
  rw [answer, named?, subject_create]
  simp only [handle]
  cases server.object? .configMaps draft.name <;> rfl

/-- What a replacement or a patch makes of an object. -/
def content (call : Call) (object : Json) : Json :=
  match call.verb with
  | .patch => object.patched (call.body.getD .null)
  | _ => call.body.getD .null

/-- A replacement or a patch that is not refused finds an object and writes what it makes of it. -/
theorem written_of_ok {call : Call} {name : String} {value : Json}
    (writes : call.verb = .put ∨ call.verb = .patch ∧ call.status = false)
    (h : (server.handle call name).1 = .ok value) :
    ∃ object, server.object? call.resource name = some object ∧
      value = (server.write call.resource name (content call object)).1 ∧
      (server.handle call name).2 =
        (server.write call.resource name (content call object)).2 := by
  obtain ⟨verb, resource, space, path, status, query, body⟩ := call
  rw [handle] at h ⊢
  cases present : server.object? resource name with
  | none =>
    simp only [present] at h
    obtain rfl | ⟨rfl, -⟩ := writes <;> cases h
  | some object =>
    simp only [present] at h
    refine ⟨object, rfl, ?_⟩
    -- Unless the version is refused, both verbs write.
    obtain rfl | ⟨rfl, rfl⟩ := writes <;>
    · simp only at h ⊢
      split at h
      · cases h
      · rename_i accepted
        rw [if_neg accepted]
        exact ⟨(Except.ok.inj h).symm, rfl⟩

/-- After a config map was applied, it is there with its data, and nothing else has changed. -/
theorem applies {space : String} {draft : Draft}
    (h : Yields answer q (applyConfigMap space draft) server () server') :
    server'.Holds draft.name draft.data ∧ OnlyMap draft.name server server' := by
  rw [applyConfigMap, yields_bind] at h
  obtain ⟨found, between, read, h⟩ := h
  obtain ⟨-, rfl, there⟩ := yields_getConfigMap.1 read
  cases present : between.object? .configMaps draft.name with
  | none =>
    rw [present] at there
    subst there
    obtain ⟨map, after, written, h⟩ := yields_bind.1 h
    obtain ⟨-, rfl⟩ := yields_pure.1 h
    obtain ⟨-, ⟨value, replied, decoded⟩, rfl⟩ := yields_call.1 written
    rw [answer_create, present] at replied ⊢
    cases replied
    exact ⟨holds_write _ _ decoded, onlyMap_write _ _ _⟩
  | some object =>
    rw [present] at there
    obtain ⟨map, decoded, rfl⟩ := there
    by_cases same : map.data = some draft.data
    · simp only [same, ne_eq, not_true, if_false, yields_pure] at h
      obtain ⟨-, rfl⟩ := h
      exact ⟨⟨object, map, present, decoded, same⟩, fun _ _ => rfl, fun _ _ => rfl⟩
    · simp only [same, ne_eq, not_false_iff, if_true] at h
      obtain ⟨_, after, written, h⟩ := yields_bind.1 h
      obtain ⟨-, rfl⟩ := yields_pure.1 h
      obtain ⟨-, ⟨value, replied, decoded⟩, rfl⟩ := yields_call.1 written
      rw [answer_named rfl] at replied ⊢
      obtain ⟨_, -, rfl, left⟩ := written_of_ok (.inl rfl) replied
      rw [left]
      exact ⟨holds_write _ _ decoded, onlyMap_write _ _ _⟩

/-- To apply a config map that is there with the same data reads it, and writes nothing. -/
theorem yields_applyConfigMap {space : String} {draft : Draft}
    (holds : server.Holds draft.name draft.data) :
    Yields answer (·.verb = .get) (applyConfigMap space draft) server () server := by
  obtain ⟨object, map, present, decoded, same⟩ := holds
  rw [applyConfigMap, yields_bind]
  refine ⟨some map, server, yields_getConfigMap.2 ⟨rfl, rfl, ?_⟩, ?_⟩
  · rw [present]
    exact ⟨map, decoded, rfl⟩
  · simp [same]

/-- A pod whose seed label is patched is there, and nothing but its object changes. -/
theorem yields_relabel {space : String} {change : String × Seeding.LabelChange} {pod : Pod}
    (h : Yields answer q (call Pod.decode {
      verb := .patch, resource := .pods, space, name := change.1
      body := Reconcile.labelPatch change }) server pod server') :
    ∃ object version, server.object? .pods change.1 = some object ∧
      Pod.decode (Reconcile.relabeled object change version) = some pod ∧
      ∀ resource, server'.ofKind resource =
        if resource = .pods then
          (server.ofKind .pods).insert change.1 (Reconcile.relabeled object change version)
        else server.ofKind resource := by
  obtain ⟨-, ⟨value, replied, decoded⟩, rfl⟩ := yields_call.1 h
  rw [answer_named rfl] at replied ⊢
  obtain ⟨object, present, rfl, left⟩ := written_of_ok (.inr ⟨rfl, rfl⟩) replied
  refine ⟨object, _, present, decoded, fun resource => ?_⟩
  rw [left, ofKind_write]
  rfl

end RingOperator.Api.Server
