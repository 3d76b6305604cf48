import RingOperator.Http.Jolokia
import RingOperator.Proofs.Json.Records

/-!
# What a reply says about a departed node

A reply of the control channel carries a value if its status reports success and its
body reports no failure (`Carries`, `result_eq_ok_iff`). Asked for its ring view, a node
reports an address gone if the value that its reply carries can be read as a ring view
without the address among the live (`ReportsGone`, `reportsGone_iff`). No value, null
and a list of anything but texts are no ring view. But a ring view may lack any of its
lists, also the one of the live, and then every address is gone (`LacksLive.of_unlisted`).
-/

namespace RingOperator

open Json

namespace RingView

/-- A list of texts. -/
def IsTexts (value : Json) : Prop := ∃ texts : List String, value = .array (texts.map .text)

/-- A value is a ring view in which an address is not live: an object in which all declared lists
    that are there are lists of texts, or an array of such lists in the order of their
    declaration, the last ones of which may be missing. -/
inductive LacksLive (departed : String) : Json → Prop
  | object {fields : List (String × Json)}
      (lists : ∀ name ∈ RingView.fields, ∀ part ∈ (Json.object fields).field? name, IsTexts part)
      (gone : ∀ live : List String,
        (Json.object fields).field? "LiveNodes" = some (.array (live.map .text)) →
          departed ∉ live) : LacksLive departed (.object fields)
  | array {items : List Json} (few : items.length ≤ RingView.fields.length)
      (lists : ∀ item ∈ items, IsTexts item)
      (gone : ∀ live : List String, items.head? = some (.array (live.map .text)) →
        departed ∉ live) : LacksLive departed (.array items)

/-- Where the live nodes are not listed, no address is live. -/
theorem LacksLive.of_unlisted {fields : List (String × Json)}
    (lists : ∀ name ∈ RingView.fields, ∀ part ∈ (Json.object fields).field? name, IsTexts part)
    (unlisted : (Json.object fields).field? "LiveNodes" = none) (departed : String) :
    LacksLive departed (.object fields) :=
  .object lists fun live listed => by
    rw [unlisted] at listed
    cases listed

/-- What is read of one list of a ring view. -/
def listOf (part : Option Json) : Option (List String) := orDefault [] (list? text?) part

theorem listOf_eq_some_iff {part : Option Json} {texts : List String} :
    listOf part = some texts ↔
      part = none ∧ texts = [] ∨ part = some (.array (texts.map .text)) := by
  cases part with
  | none => simp [listOf, orDefault, eq_comm]
  | some value => simp [listOf, orDefault, list?_text?_eq_some_iff]

theorem exists_listOf_iff {part : Option Json} :
    (∃ texts, listOf part = some texts) ↔ ∀ value ∈ part, IsTexts value := by
  cases part <;> simp [listOf_eq_some_iff, IsTexts]

theorem listOf_arranged (part : Option Json) : listOf (part.map arranged) = listOf part := by
  cases part with
  | none => rfl
  | some value =>
    refine Option.ext fun texts => ?_
    simp only [Option.map_some, listOf, orDefault, list?_text?_eq_some_iff, arranged_eq_texts_iff]

/-- A view is read list by list. -/
theorem decode_eq_some_iff {value : Json} {live leaving joining unreachable moving : Option Json}
    (given : value.parts? RingView.fields = some [live, leaving, joining, unreachable, moving])
    {view : RingView} : RingView.decode value = some view ↔
      listOf live = some view.live ∧ listOf leaving = some view.leaving ∧
        listOf joining = some view.joining ∧ listOf unreachable = some view.unreachable ∧
          listOf moving = some view.moving := by
  rw [RingView.decode, given]
  simp only [Option.bind_eq_bind, Option.bind_eq_some_iff, Option.pure_def,
    Option.some_inj]
  constructor
  · rintro ⟨_, first, _, second, _, third, _, fourth, _, fifth, rfl⟩
    exact ⟨first, second, third, fourth, fifth⟩
  · rintro ⟨first, second, third, fourth, fifth⟩
    exact ⟨_, first, _, second, _, third, _, fourth, _, fifth, rfl⟩

/-- A view is read if each of its five lists is, and the first one has the live nodes. -/
theorem exists_decode_iff {value : Json} {parts : List (Option Json)}
    (given : value.parts? RingView.fields = some parts) (five : parts.length = 5)
    {p : List String → Prop} :
    (∃ view, RingView.decode value = some view ∧ p view.live) ↔
      (∀ part ∈ parts, ∃ texts, listOf part = some texts) ∧
        ∀ live, listOf parts.head?.join = some live → p live := by
  match parts, five with
  | [live, leaving, joining, unreachable, moving], _ =>
    simp only [decode_eq_some_iff given, List.forall_mem_cons, List.head?_cons]
    constructor
    · rintro ⟨view, ⟨first, second, third, fourth, fifth⟩, holds⟩
      refine ⟨⟨⟨_, first⟩, ⟨_, second⟩, ⟨_, third⟩, ⟨_, fourth⟩, ⟨_, fifth⟩, by simp⟩, ?_⟩
      intro other read
      rw [Option.join_some, first] at read
      cases read
      exact holds
    · rintro ⟨⟨⟨a, first⟩, ⟨b, second⟩, ⟨c, third⟩, ⟨d, fourth⟩, ⟨e, fifth⟩, -⟩, holds⟩
      exact ⟨⟨a, b, c, d, e⟩, ⟨first, second, third, fourth, fifth⟩, holds a first⟩

/-- An address is not among the texts of a list that is missing. -/
theorem forall_listOf_iff {part : Option Json} {departed : String} :
    (∀ live, listOf part = some live → departed ∉ live) ↔
      ∀ live : List String, part = some (.array (live.map .text)) → departed ∉ live := by
  cases part <;> simp [listOf_eq_some_iff]

theorem exists_decode_object_iff {departed : String} {fields : List (String × Json)} :
    (∃ view, RingView.decode (Json.object fields).arranged = some view ∧ departed ∉ view.live) ↔
      LacksLive departed (.object fields) := by
  have live : (RingView.fields.map fun name =>
      ((Json.object fields).field? name).map arranged).head?.join =
        ((Json.object fields).field? "LiveNodes").map arranged := rfl
  rw [exists_decode_iff (p := (departed ∉ ·)) (parts?_arranged fields _)
    (by simp [RingView.fields]), live, listOf_arranged, forall_listOf_iff]
  -- First it is read as if it were not arranged.
  simp only [List.forall_mem_map, listOf_arranged]
  simp only [exists_listOf_iff]
  constructor
  · rintro ⟨lists, gone⟩
    exact .object lists gone
  · rintro ⟨lists, gone⟩
    exact ⟨lists, gone⟩

theorem exists_decode_array_iff {departed : String} {items : List Json}
    (few : items.length ≤ RingView.fields.length) :
    (∃ view, RingView.decode (Json.array items).arranged = some view ∧ departed ∉ view.live) ↔
      LacksLive departed (.array items) := by
  have parts : (Json.array items).arranged.parts? RingView.fields =
      some ((items.map some ++ List.replicate (RingView.fields.length - items.length) none).map
        (Option.map arranged)) := by
    rw [arranged, parts?, listedParts?_eq, arrangedItems_eq_map, List.length_map, if_pos few]
    simp
  have live : ((items.map some ++
      List.replicate (RingView.fields.length - items.length) none).map
        (Option.map arranged)).head?.join = items.head?.map arranged := by
    cases items <;> rfl
  have five : items.length + (RingView.fields.length - items.length) = 5 :=
    Nat.add_sub_cancel' few
  rw [exists_decode_iff (p := (departed ∉ ·)) parts (by simpa using five), live,
    listOf_arranged, forall_listOf_iff]
  simp only [List.forall_mem_map, listOf_arranged]
  simp only [exists_listOf_iff, List.forall_mem_append, List.forall_mem_map]
  constructor
  · rintro ⟨⟨lists, -⟩, gone⟩
    exact .array few (fun item hi => lists item hi item rfl) gone
  · rintro (_ | ⟨-, lists, gone⟩)
    refine ⟨⟨fun item hi value same => ?_, fun part missing value given => ?_⟩, gone⟩
    · cases same
      exact lists _ hi
    · rw [List.eq_of_mem_replicate missing] at given
      cases given

/-- The values of which a ring view without an address among the live is read. -/
theorem exists_decode_arranged_iff {departed : String} {value : Json} :
    (∃ view, RingView.decode value.arranged = some view ∧ departed ∉ view.live) ↔
      LacksLive departed value := by
  cases value with
  | object fields => exact exists_decode_object_iff
  | array items =>
    by_cases few : items.length ≤ RingView.fields.length
    · exact exists_decode_array_iff few
    · constructor
      · rintro ⟨view, read, -⟩
        rw [RingView.decode, arranged, parts?, listedParts?_eq, arrangedItems_eq_map,
          List.length_map, if_neg few] at read
        cases read
      · rintro (_ | ⟨few', -, -⟩)
        exact absurd few' few
  | _ =>
    constructor
    · rintro ⟨_, ⟨⟩, _⟩
    · rintro ⟨⟩

end RingView

namespace Http.Jolokia

/-- The failures that are given report none. -/
def Unfailing (errors : List Json) : Prop := errors = [] ∨ errors = [.null] ∨ errors = [.text ""]

/-- A body that reports no failure carries a value: an object, in which the value may be missing,
    or an array of the value and the failure. -/
inductive Carries : Json → Json → Prop
  | named {fields : List (String × Json)} {given : Json} (value : valuesOf "value" fields = [given])
      (error : Unfailing (valuesOf "error" fields)) : Carries (.object fields) given
  | nameless {fields : List (String × Json)} (value : valuesOf "value" fields = [])
      (error : Unfailing (valuesOf "error" fields)) : Carries (.object fields) .null
  | listed {given : Json} {errors : List Json} (error : Unfailing errors) :
      Carries (.array (given :: errors)) given
  | empty : Carries (.array []) .null

/-- A value that is taken from a body: its texts are texts, its numbers are in range, and it is not
    nested too deep. -/
structure Readable (given : Json) : Prop where
  sound : isSound given = true
  depth : given.depth ≤ greatestDepth

/-- Asked for its ring view, a node reports an address gone: with success and no failure, it gives
    a ring view without the address among the live. -/
def ReportsGone (departed : String) (reply : Reply) : Prop :=
  ∃ response body given, reply = .ok response ∧ isSuccess response.status = true ∧
    Json.read response.content = some body ∧ Carries body given ∧ Readable given ∧
      RingView.LacksLive departed given

variable {body given value : Json} {address departed : String} {reply : Reply}

theorem Unfailing.exists_toList {errors : List Json} (h : Unfailing errors) :
    ∃ error : Option Json, errors = error.toList := by
  rcases h with rfl | rfl | rfl
  · exact ⟨none, rfl⟩
  · exact ⟨some .null, rfl⟩
  · exact ⟨some (.text ""), rfl⟩

/-- A value is carried just if it is read as that part of a body, and no failure as the other. -/
theorem carries_iff : Carries body given ↔ ∃ value error,
    body.parts? ["value", "error"] = some [value, error] ∧ value.getD .null = given ∧
      Unfailing error.toList := by
  cases body with
  | object fields =>
    have parts (value error : Option Json) :
        (Json.object fields).parts? ["value", "error"] = some [value, error] ↔
          valuesOf "value" fields = value.toList ∧ valuesOf "error" fields = error.toList := by
      simp [parts?, namedParts?, part?_eq_some_iff, Option.bind_eq_some_iff]
    simp only [parts]
    constructor
    · rintro (⟨value, unfailing⟩ | ⟨value, unfailing⟩)
      · obtain ⟨error, same⟩ := unfailing.exists_toList
        exact ⟨some given, error, ⟨value, same⟩, rfl, same ▸ unfailing⟩
      · obtain ⟨error, same⟩ := unfailing.exists_toList
        exact ⟨none, error, ⟨value, same⟩, rfl, same ▸ unfailing⟩
    · rintro ⟨value, error, ⟨values, errors⟩, rfl, unfailing⟩
      cases value with
      | none => exact .nameless values (errors ▸ unfailing)
      | some given => exact .named values (errors ▸ unfailing)
  | array items =>
    constructor
    · rintro (_ | _ | unfailing | _)
      · obtain ⟨error, rfl⟩ := unfailing.exists_toList
        refine ⟨some given, error, ?_, rfl, unfailing⟩
        cases error <;> rfl
      · exact ⟨none, none, rfl, rfl, .inl rfl⟩
    · rintro ⟨value, error, parts, rfl, unfailing⟩
      rcases items with _ | ⟨first, _ | ⟨second, _ | _⟩⟩
      · cases parts
        exact .empty
      · cases parts
        exact .listed unfailing
      · cases parts
        exact .listed unfailing
      · cases parts
  | _ =>
    constructor
    · rintro ⟨⟩
    · rintro ⟨_, _, ⟨⟩, _⟩

/-- A value is read if it is missing or readable, and then arranged by name. -/
theorem orDefault_value?_eq_some_iff {part : Option Json} :
    orDefault .null value? part = some value ↔
      Readable (part.getD .null) ∧ value = (part.getD .null).arranged := by
  cases part with
  | none =>
    constructor
    · rintro ⟨⟩
      exact ⟨⟨rfl, Nat.zero_le _⟩, rfl⟩
    · rintro ⟨-, rfl⟩
      rfl
  | some given =>
    rw [orDefault, value?, Option.getD_some]
    split
    · rename_i readable
      obtain ⟨sound, depth⟩ := Bool.and_eq_true_iff.1 readable
      simp [Readable.mk sound (of_decide_eq_true depth), eq_comm]
    · rename_i unreadable
      constructor
      · rintro ⟨⟩
      · rintro ⟨⟨sound, depth⟩, -⟩
        exact absurd (by simp [sound, depth]) unreadable

theorem exists_orNothing_text?_iff {part : Option Json} :
    (∃ error, orNothing Json.text? part = some error ∧ (error = none ∨ error = some "")) ↔
      Unfailing part.toList := by
  cases part with
  | none => simp [orNothing, Unfailing]
  | some given => cases given <;> simp [orNothing, Json.text?, Unfailing]

theorem decode_eq_some_iff {content : String} {error : Option String} :
    decode content = some (value, error) ↔ ∃ body part failure,
      Json.read content = some body ∧ body.parts? ["value", "error"] = some [part, failure] ∧
        orDefault .null value? part = some value ∧ orNothing Json.text? failure = some error := by
  rw [decode, Option.bind_eq_bind, Option.bind_eq_some_iff]
  refine exists_congr fun body => ?_
  constructor
  · rintro ⟨read, h⟩
    split at h
    · rename_i part failure parts
      simp only [Option.bind_eq_bind, Option.bind_eq_some_iff, Option.pure_def,
        Option.some_inj] at h
      obtain ⟨_, first, _, second, same⟩ := h
      cases same
      exact ⟨part, failure, read, parts, first, second⟩
    · cases h
  · rintro ⟨part, failure, read, parts, first, second⟩
    refine ⟨read, ?_⟩
    rw [parts]
    simp only [first, second, Option.bind_eq_bind, Option.bind_some, Option.pure_def]

/-- The value of a reply is the one that its body carries, if that is readable. -/
theorem result_eq_ok_iff : result address reply = .ok value ↔ ∃ response body given,
    reply = .ok response ∧ isSuccess response.status = true ∧
      Json.read response.content = some body ∧ Carries body given ∧ Readable given ∧
        value = given.arranged := by
  have outcome : result address reply = .ok value ↔ ∃ response error, reply = .ok response ∧
      isSuccess response.status = true ∧ decode response.content = some (value, error) ∧
        (error = none ∨ error = some "") := by
    cases reply with
    | error detail => simp [result]
    | ok response =>
      cases status : isSuccess response.status with
      | false => simp [result, status]
      | true =>
        rcases decoded : decode response.content with _ | ⟨found, _ | error⟩
        · simp [result, status, decoded]
        · simp [result, status, decoded, and_assoc]
        · by_cases empty : error = "" <;> simp [result, status, decoded, empty, and_assoc]
  rw [outcome]
  constructor
  · rintro ⟨response, error, rfl, success, decoded, unfailing⟩
    obtain ⟨body, part, failure, read, parts, first, second⟩ := decode_eq_some_iff.1 decoded
    obtain ⟨readable, rfl⟩ := orDefault_value?_eq_some_iff.1 first
    exact ⟨response, body, _, rfl, success, read, carries_iff.2 ⟨part, failure, parts, rfl,
      exists_orNothing_text?_iff.1 ⟨error, second, unfailing⟩⟩, readable, rfl⟩
  · rintro ⟨response, body, given, rfl, success, read, carried, readable, rfl⟩
    obtain ⟨part, failure, parts, rfl, unfailing⟩ := carries_iff.1 carried
    obtain ⟨error, second, unfailing⟩ := exists_orNothing_text?_iff.2 unfailing
    exact ⟨response, error, rfl, success, decode_eq_some_iff.2 ⟨body, part, failure, read, parts,
      orDefault_value?_eq_some_iff.2 ⟨readable, rfl⟩, second⟩, unfailing⟩

/-- A reply is read as a ring view without an address among the live just if it reports the address
    gone. -/
theorem reportsGone_iff (address : String) : ReportsGone departed reply ↔
    ∃ view, understandView address reply = .ok view ∧ departed ∉ view.live := by
  have outcome (view : RingView) : understandView address reply = .ok view ↔
      ∃ value, result address reply = .ok value ∧ RingView.decode value = some view := by
    rw [understandView]
    cases result address reply with
    | error failure => simp [Bind.bind, Except.bind]
    | ok value => cases h : RingView.decode value <;> simp [Bind.bind, Except.bind, h]
  simp only [outcome, result_eq_ok_iff]
  constructor
  · rintro ⟨response, body, given, rfl, success, read, carried, readable, lacks⟩
    obtain ⟨view, decoded, gone⟩ := RingView.exists_decode_arranged_iff.2 lacks
    exact ⟨view, ⟨_, ⟨response, body, given, rfl, success, read, carried, readable, rfl⟩, decoded⟩,
      gone⟩
  · rintro ⟨view, ⟨_, ⟨response, body, given, rfl, success, read, carried, readable, rfl⟩, decoded⟩,
      gone⟩
    exact ⟨response, body, given, rfl, success, read, carried, readable,
      RingView.exists_decode_arranged_iff.1 ⟨view, decoded, gone⟩⟩

instance : Decidable (ReportsGone departed reply) :=
  match read : understandView "" reply with
  | .ok view => decidable_of_iff (departed ∉ view.live) (by simp [reportsGone_iff "", read])
  | .error _ => isFalse (by simp [reportsGone_iff "", read])

end Http.Jolokia

end RingOperator
