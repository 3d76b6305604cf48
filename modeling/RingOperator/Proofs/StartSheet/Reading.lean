import Mathlib.Data.List.Basic
import RingOperator.Proofs.Table
import RingOperator.StartSheet

/-!
# Start-up entries are read back

A start-up entry is a text of exports, and its key is made of the names of a pod and of its
instance. Both can be read back: the key up to its first underscore is the pod
(`StartSheet.readKey`), and a line of the text up to its first sign of equality is the name of what
it exports (`PodFacts.read`). So entries lose nothing, and no two pods share one
(`StartSheet.read_back`), as long as names of pods hold no underscore and no line break gets into a
value; and a config map tells the sheet that it was made of (`StartSheet.read_render`).
-/

namespace RingOperator

namespace PodFacts

/-- A text up to the first `c` in it, and what comes after. -/
def cut (c : Char) (text : List Char) : List Char × List Char :=
  (text.takeWhile (· != c), (text.dropWhile (· != c)).drop 1)

theorem cut_append_cons {c : Char} {first : List Char} (h : c ∉ first) (rest : List Char) :
    cut c (first ++ c :: rest) = (first, rest) := by
  have other : ∀ x ∈ first, (x != c) = true := fun x hx => bne_iff_ne.2 fun same => h (same ▸ hx)
  rw [cut, List.takeWhile_append_of_pos other, List.dropWhile_append_of_pos other]
  simp

/-! ## Lines -/

/-- What an entry exports, in its order. -/
def exports (facts : PodFacts) : List (String × String) :=
  (facts.rack.map ("CASSANDRA_RACK", ·)).toList ++
  (facts.snitch.map ("CASSANDRA_ENDPOINT_SNITCH", ·)).toList ++
  [("CASSANDRA_BROADCAST_ADDRESS", facts.broadcast),
    ("CASSANDRA_BROADCAST_RPC_ADDRESS", facts.rpc),
    ("CASSANDRA_SEEDS", String.intercalate "," facts.seeds),
    ("CASSANDRA_NODE_PREVIOUS_IP", facts.previous),
    ("PAUSE_INIT", pauseWord facts.decision),
    ("PAUSE_REASON", "\"" ++ facts.decision.text ++ "\"")]

theorem render_eq_join (facts : PodFacts) :
    facts.render = String.join (facts.exports.map fun e => exportLine e.1 e.2) := by
  obtain ⟨uid, decision, broadcast, rpc, previous, seeds, rack, snitch⟩ := facts
  cases rack <;> cases snitch <;> simp [render, exports, optionalLine, String.append_assoc]

theorem seeds_mem_exports_iff {facts : PodFacts} {text : String} :
    ("CASSANDRA_SEEDS", text) ∈ facts.exports ↔ text = String.intercalate "," facts.seeds := by
  simp [exports]

/-- What a line exports. -/
def readLine (line : List Char) : String × String :=
  (cut '=' (line.drop "export ".length)).map String.ofList String.ofList

/-- What a text exports. Every line is ended, so there is nothing behind the last line break. -/
def readExports (text : String) : List (String × String) :=
  (text.toList.splitOn '\n').dropLast.map readLine

/-- The variable and the value stay where they are put in a line. -/
structure Exportable (name value : String) : Prop where
  name : '=' ∉ name.toList ∧ '\n' ∉ name.toList
  value : '\n' ∉ value.toList

theorem toList_exportLine (name value : String) : (exportLine name value).toList =
    ("export ".toList ++ (name.toList ++ '=' :: value.toList)) ++ ['\n'] := by
  simp [exportLine]

theorem readLine_export {name value : String} (h : Exportable name value) :
    readLine ("export ".toList ++ (name.toList ++ '=' :: value.toList)) = (name, value) := by
  have behind : ("export ".toList ++ (name.toList ++ '=' :: value.toList)).drop
      "export ".length = name.toList ++ '=' :: value.toList := List.drop_left
  rw [readLine, behind, cut_append_cons h.name.1, Prod.map, String.ofList_toList,
    String.ofList_toList]

/-- Lines give back what was put into them. -/
theorem readExports_join {es : List (String × String)} (h : ∀ e ∈ es, Exportable e.1 e.2) :
    readExports (String.join (es.map fun e => exportLine e.1 e.2)) = es := by
  induction es with
  | nil => rfl
  | cons e es ih =>
    obtain ⟨first, rest⟩ := List.forall_mem_cons.1 h
    -- Nothing in the line looks like its end, so the first line break is the one that ends it.
    have line : '\n' ∉ "export ".toList ++ (e.1.toList ++ '=' :: e.2.toList) := by
      simp [first.name.2, first.value]
    rw [readExports, List.map_cons, String.join_cons, String.toList_append, toList_exportLine,
      List.append_assoc, List.singleton_append, List.splitOn_append_cons_self_of_not_mem line,
      List.dropLast_cons_of_ne_nil (List.splitOn_ne_nil _ _), List.map_cons, readLine_export first]
    exact congrArg _ (ih rest)

/-! ## Entries -/

/-- Decisions are told by their word and wording. -/
def readDecision (word reason : String) : Option Decision :=
  Decision.every.find? fun d => pauseWord d = word ∧ "\"" ++ d.text ++ "\"" = reason

/-- Seeds are told by their commas. No seeds leave no text. -/
def readSeeds (text : String) : List String :=
  if text = "" then [] else (text.toList.splitOn ',').map String.ofList

/-- The entry of a pod, read back. -/
def read (uid text : String) : Option PodFacts := do
  let exports := readExports text
  return {
    uid
    decision := ← readDecision (← exports.lookup "PAUSE_INIT") (← exports.lookup "PAUSE_REASON")
    broadcast := ← exports.lookup "CASSANDRA_BROADCAST_ADDRESS"
    rpc := ← exports.lookup "CASSANDRA_BROADCAST_RPC_ADDRESS"
    previous := ← exports.lookup "CASSANDRA_NODE_PREVIOUS_IP"
    seeds := readSeeds (← exports.lookup "CASSANDRA_SEEDS")
    rack := exports.lookup "CASSANDRA_RACK"
    snitch := exports.lookup "CASSANDRA_ENDPOINT_SNITCH" }

/-- No line break stands in a value, and seeds can be told from each other. -/
structure Plain (facts : PodFacts) : Prop where
  rack : ∀ rack ∈ facts.rack, '\n' ∉ rack.toList
  snitch : ∀ snitch ∈ facts.snitch, '\n' ∉ snitch.toList
  broadcast : '\n' ∉ facts.broadcast.toList
  rpc : '\n' ∉ facts.rpc.toList
  previous : '\n' ∉ facts.previous.toList
  seeds : ∀ seed ∈ facts.seeds, '\n' ∉ seed.toList ∧ ',' ∉ seed.toList ∧ seed ≠ ""

theorem readDecision_eq (d : Decision) :
    readDecision (pauseWord d) ("\"" ++ d.text ++ "\"") = some d := by
  obtain _ | reason := d
  · decide
  · cases reason <;> decide

theorem intercalate_cons_ne_empty {separator text : String} (h : text ≠ "") (l : List String) :
    String.intercalate separator (text :: l) ≠ "" := by
  cases l with
  | nil => rwa [String.intercalate_singleton]
  | cons next l => simp [String.intercalate_cons_cons, h]

theorem readSeeds_intercalate {seeds : List String}
    (h : ∀ seed ∈ seeds, ',' ∉ seed.toList ∧ seed ≠ "") :
    readSeeds (String.intercalate "," seeds) = seeds := by
  cases seeds with
  | nil => rfl
  | cons first rest =>
    have filled : String.intercalate "," (first :: rest) ≠ "" :=
      intercalate_cons_ne_empty (h first List.mem_cons_self).2 rest
    have split : (String.intercalate "," (first :: rest)).toList.splitOn ',' =
        (first :: rest).map String.toList := by
      rw [String.toList_intercalate]
      refine List.splitOn_intercalate ',' (fun l hl => ?_) (List.cons_ne_nil _ _)
      obtain ⟨seed, hs, rfl⟩ := List.mem_map.1 hl
      exact (h seed hs).1
    rw [readSeeds, if_neg filled, split, List.map_map]
    exact List.map_id'' (fun _ => String.ofList_toList) _

theorem not_mem_intercalate {c : Char} {separator : String} {l : List String}
    (between : c ∉ separator.toList) (h : ∀ text ∈ l, c ∉ text.toList) :
    c ∉ (String.intercalate separator l).toList := by
  induction l with
  | nil => simp
  | cons text l ih =>
    obtain ⟨first, rest⟩ := List.forall_mem_cons.1 h
    cases l with
    | nil => simpa using first
    | cons next l =>
      rw [String.intercalate_cons_cons]
      simpa [first, between] using ih rest

theorem not_mem_pauseWord (d : Decision) : '\n' ∉ (pauseWord d).toList := by
  rw [pauseWord]
  split <;> decide

theorem not_mem_text (d : Decision) : '\n' ∉ ("\"" ++ d.text ++ "\"").toList := by
  obtain _ | reason := d
  · decide
  · cases reason <;> decide

theorem Plain.exportable {facts : PodFacts} (plain : facts.Plain) :
    ∀ e ∈ facts.exports, Exportable e.1 e.2 := by
  have seeds : '\n' ∉ (String.intercalate "," facts.seeds).toList :=
    not_mem_intercalate (by decide) fun seed hs => (plain.seeds seed hs).1
  have named {name value : String} (hn : '=' ∉ name.toList ∧ '\n' ∉ name.toList)
      (hv : '\n' ∉ value.toList) : Exportable (name, value).1 (name, value).2 := ⟨hn, hv⟩
  intro e he
  simp only [exports, List.mem_append, Option.mem_toList, Option.map_eq_some_iff, List.mem_cons,
    List.not_mem_nil, or_false] at he
  obtain (⟨rack, known, rfl⟩ | ⟨snitch, known, rfl⟩) | rfl | rfl | rfl | rfl | rfl | rfl := he
  · exact named (by decide) (plain.rack rack known)
  · exact named (by decide) (plain.snitch snitch known)
  · exact named (by decide) plain.broadcast
  · exact named (by decide) plain.rpc
  · exact named (by decide) seeds
  · exact named (by decide) plain.previous
  · exact named (by decide) (not_mem_pauseWord _)
  · exact named (by decide) (not_mem_text _)

theorem readExports_render {facts : PodFacts} (plain : facts.Plain) :
    readExports facts.render = facts.exports := by
  rw [render_eq_join, readExports_join plain.exportable]

/-- An entry says all that is known of the pod but its instance. -/
theorem read_render {facts : PodFacts} (plain : facts.Plain) (uid : String) :
    read uid facts.render = some { facts with uid } := by
  have decided := readDecision_eq facts.decision
  have seeded := readSeeds_intercalate fun seed hs => (plain.seeds seed hs).2
  rw [read, readExports_render plain]
  obtain ⟨_, decision, broadcast, rpc, previous, seeds, rack, snitch⟩ := facts
  cases rack <;> cases snitch <;> simp [exports, List.lookup_cons, decided, seeded]

end PodFacts

namespace StartSheet

/-! ## Sheets -/

/-- The pod and the instance that a key is made of. -/
def readKey (key : String) : String × String :=
  (PodFacts.cut '_' key.toList).map String.ofList fun rest =>
    String.ofList (rest.take (rest.length - ".sh".length))

/-- The pod and the facts that an entry of a config map is made of, if it is made of such. -/
def readEntry (e : String × String) : Option (String × PodFacts) :=
  (PodFacts.read (readKey e.1).2 e.2).map ((readKey e.1).1, ·)

/-- The sheet that a config map is made of. -/
def read (map : Table String) : StartSheet := Table.ofList (map.entries.filterMap readEntry)

variable {sheet : StartSheet}

theorem readKey_entryName {pod : String} (h : '_' ∉ pod.toList) (facts : PodFacts) :
    readKey (facts.entryName pod) = (pod, facts.uid) := by
  have chars : (facts.entryName pod).toList =
      pod.toList ++ '_' :: (facts.uid.toList ++ ".sh".toList) := by
    simp [PodFacts.entryName, String.toList_append]
  have uid : (facts.uid.toList ++ ".sh".toList).take
      ((facts.uid.toList ++ ".sh".toList).length - ".sh".length) = facts.uid.toList :=
    List.take_left' (by simp; rfl)
  rw [readKey, chars, PodFacts.cut_append_cons h, Prod.map, uid, String.ofList_toList,
    String.ofList_toList]

theorem readEntry_render {pod : String} (h : '_' ∉ pod.toList) {facts : PodFacts}
    (plain : facts.Plain) : readEntry (facts.entryName pod, facts.render) = some (pod, facts) := by
  rw [readEntry, readKey_entryName h, PodFacts.read_render plain, Option.map_some]

/-- Every pod has an entry of its own. -/
theorem render_entries_perm (h : ∀ pod ∈ sheet.keys, '_' ∉ pod.toList) :
    sheet.render.entries.Perm
      (sheet.entries.map fun e => (e.2.entryName e.1, e.2.render)) := by
  refine Table.entries_ofList_perm ?_
  rw [List.map_map, List.nodup_iff_pairwise_ne, List.pairwise_map]
  refine (List.pairwise_map.1 sheet.nodup_keys).imp_of_mem fun {e e'} he he' differ same =>
    differ ?_
  -- Two pods with the same key would both be the one that the key is read as.
  have first := readKey_entryName (h e.1 (List.mem_map_of_mem he)) e.2
  have second := readKey_entryName (h e'.1 (List.mem_map_of_mem he')) e'.2
  exact congrArg (·.1) (first.symm.trans ((congrArg readKey same).trans second))

/-- A config map tells the sheet that it is made of. -/
theorem read_render (h : ∀ pod ∈ sheet.keys, '_' ∉ pod.toList)
    (plain : ∀ e ∈ sheet.entries, e.2.Plain) : read sheet.render = sheet := by
  have each : ∀ e ∈ sheet.entries, readEntry (e.2.entryName e.1, e.2.render) = some e :=
    fun e he => readEntry_render (h e.1 (List.mem_map_of_mem he)) (plain e he)
  have perm := (render_entries_perm h).filterMap readEntry
  rw [List.filterMap_map, Function.comp_def, List.filterMap_congr each,
    List.filterMap_some] at perm
  exact (Table.ofList_perm sheet.nodup_keys perm.symm).symm.trans (Table.ofList_entries sheet)

/-- Entries lose nothing, and mix nothing up. Each pod has one, and the key tells the pod and its
    instance; and the text of an entry tells everything else, so that two entries with the same text
    say the same. Together, all entries tell the sheet. -/
theorem read_back :
    (∀ sheet : StartSheet, (∀ pod ∈ sheet.keys, '_' ∉ pod.toList) →
      sheet.render.entries.Perm (sheet.entries.map fun e => (e.2.entryName e.1, e.2.render)) ∧
      (∀ e ∈ sheet.entries, readKey (e.2.entryName e.1) = (e.1, e.2.uid)) ∧
      ((∀ e ∈ sheet.entries, e.2.Plain) → read sheet.render = sheet)) ∧
    ∀ facts : PodFacts, facts.Plain →
      (∀ uid, PodFacts.read uid facts.render = some { facts with uid }) ∧
      ∀ other : PodFacts, other.Plain → facts.render = other.render →
        { facts with uid := other.uid } = other := by
  refine ⟨fun sheet h => ⟨render_entries_perm h, fun e he => ?_, read_render h⟩,
    fun facts plain => ?_⟩
  · exact readKey_entryName (h e.1 (List.mem_map_of_mem he)) e.2
  · refine ⟨PodFacts.read_render plain, fun other plain' same => ?_⟩
    have read := PodFacts.read_render plain other.uid
    rw [same, PodFacts.read_render plain'] at read
    exact (Option.some.inj read).symm

/-- Facts of a pod whose values look like what stands around them. -/
def lookalike : PodFacts where
  uid := "u_1.sh"
  decision := .pause .seedNodes
  broadcast := "\"PAUSE_INIT=false"
  rpc := "CASSANDRA_SEEDS=a,b"
  previous := ""
  seeds := []
  rack := some "export PAUSE_REASON=\"pod is not paused\""
  snitch := none

theorem plain_lookalike : lookalike.Plain := by
  refine ⟨?_, by simp [lookalike], by decide, by decide, by decide, by simp [lookalike]⟩
  rintro _ ⟨⟩
  decide

theorem read_back_lookalike :
    let second : PodFacts := { lookalike with seeds := ["x=1", "export "], rack := none }
    let sheet : StartSheet :=
      Table.ofList [("c-cassandra-dc-0", lookalike), ("c-cassandra-dc-1", second)]
    ((∀ pod ∈ sheet.keys, '_' ∉ pod.toList) ∧
      sheet.render.entries.Perm (sheet.entries.map fun e => (e.2.entryName e.1, e.2.render)) ∧
      (∀ e ∈ sheet.entries, readKey (e.2.entryName e.1) = (e.1, e.2.uid)) ∧
      (∀ e ∈ sheet.entries, e.2.Plain) ∧ read sheet.render = sheet) ∧
    (lookalike.Plain ∧ second.Plain) ∧
      PodFacts.read "u" lookalike.render = some { lookalike with uid := "u" } ∧
      lookalike.render ≠ second.render := by
  intro second sheet
  have named : ∀ pod ∈ sheet.keys, '_' ∉ pod.toList := by decide +kernel
  have plain : lookalike.Plain := plain_lookalike
  have plain₂ : second.Plain := ⟨by simp [second], plain.snitch, plain.broadcast, plain.rpc,
    plain.previous, by decide⟩
  have all : ∀ e ∈ sheet.entries, e.2.Plain := by
    have entries : sheet.entries =
        [("c-cassandra-dc-0", lookalike), ("c-cassandra-dc-1", second)] := by decide +kernel
    rw [entries]
    simp [plain, plain₂]
  obtain ⟨perm, keys, back⟩ := read_back.1 sheet named
  obtain ⟨told, unmixed⟩ := read_back.2 lookalike plain
  refine ⟨⟨named, perm, keys, all, back all⟩, ⟨plain, plain₂⟩, told "u", fun same => ?_⟩
  -- With one text they would have the same seeds.
  have seeds := congrArg PodFacts.seeds (unmixed second plain₂ same)
  simp [lookalike, second] at seeds

end StartSheet

end RingOperator
