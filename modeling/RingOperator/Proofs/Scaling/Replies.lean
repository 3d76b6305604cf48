import RingOperator.Proofs.Http.Views
import RingOperator.Proofs.Json.RoundTrip
import RingOperator.Proofs.Scaling.Departure
import RingOperator.Reconcile

/-!
# Departures confirmed over HTTP

A pass asks the peers of a pod for their ring views over HTTP, each peer once and in the order of
the members (`viewsAsked`). Whatever comes back, text by text, the departure is confirmed just if
enough of the replies report the address gone (`departure_by_replies`). A reply that cannot be
read does not. But a ring view that does not list the live nodes at all reports every address gone
(`confirmed_by_partial_view`).
-/

namespace RingOperator.Scaling

open Dialogue Reconcile
open Http (Jolokia)

variable {spec : Spec} {s : Snapshot} {addresses : Table String} {pod address : String}
  {members : List Member} {m : Member} {around : Surroundings} {log : List (Entry Reconcile.Reply)}

/-- The addresses of members, as far as they have one. -/
def addressesOf (addresses : Table String) (members : List Member) : List String :=
  members.filterMap fun m => addresses.get? m.name

/-- The requests for the ring views of peers, each with its reply. -/
def viewsAsked (jolokia : Jolokia) (peers : List String) (replies : List Http.Reply) :
    List (Entry Reconcile.Reply) :=
  List.zipWith (fun peer reply => ⟨.http (jolokia.viewRequest peer), reply⟩) peers replies

/-- A member with an address is asked for its view, and confirms a departure if the reply reports
    it. -/
theorem within_confirms {peer : String} (located : addresses.get? m.name = some peer) :
    (confirms address addresses m).within around.scalingPlace around.scalingReply =
      ask (.http (around.jolokia.viewRequest peer)) fun reply : Http.Reply =>
        done (decide (Jolokia.ReportsGone address reply)) := by
  rw [confirms, located]
  refine congrArg (ask _) (funext fun (reply : Http.Reply) => ?_)
  have reports : Jolokia.ReportsGone address reply ↔
      ∃ view, around.scalingReply (.ringView peer) reply = .ok view ∧ address ∉ view.live :=
    Jolokia.reportsGone_iff peer
  cases understood : around.scalingReply (.ringView peer) reply with
  | error failure =>
    rw [decide_eq_false (by simp [reports, understood])]
    rfl
  | ok view =>
    have gone : Jolokia.ReportsGone address reply ↔ address ∉ view.live := by
      simp [reports, understood]
    refine congrArg done ?_
    rw [decide_eq_decide.2 gone, decide_not, List.contains_eq_mem]

theorem ends_within_confirmations_cons {count : Nat} :
    ((confirmations address addresses (m :: members)).within around.scalingPlace
        around.scalingReply).Ends log count ↔
      ∃ first second confirmed more, log = first ++ second ∧
        ((confirms address addresses m).within around.scalingPlace around.scalingReply).Ends first
          confirmed ∧
        ((confirmations address addresses members).within around.scalingPlace
          around.scalingReply).Ends second more ∧ count = (if confirmed then 1 else 0) + more := by
  rw [confirmations, within_bind, ends_bind]
  constructor
  · rintro ⟨first, _, confirmed, rfl, asked, h⟩
    rw [within_bind] at h
    obtain ⟨second, _, more, rfl, askedRest, rfl, rfl⟩ := ends_bind.1 h
    exact ⟨first, second, confirmed, more, by rw [List.append_nil], asked, askedRest, rfl⟩
  · rintro ⟨first, second, confirmed, more, rfl, asked, askedRest, rfl⟩
    refine ⟨first, second, confirmed, rfl, asked, ?_⟩
    rw [within_bind]
    exact ends_bind.2 ⟨second, [], more, (List.append_nil _).symm, askedRest, rfl, rfl⟩

/-- As many confirmations are counted as there are replies that report the address gone. -/
theorem ends_within_confirmations {count : Nat} :
    ((confirmations address addresses members).within around.scalingPlace
        around.scalingReply).Ends log count ↔
      ∃ replies : List Http.Reply, replies.length = (addressesOf addresses members).length ∧
        log = viewsAsked around.jolokia (addressesOf addresses members) replies ∧
          count = replies.countP (Jolokia.ReportsGone address) := by
  induction members generalizing log count with
  | nil =>
    constructor
    · rintro ⟨rfl, rfl⟩
      exact ⟨[], rfl, rfl, rfl⟩
    · rintro ⟨replies, each, rfl, rfl⟩
      rw [List.length_eq_zero_iff.1 each]
      exact ⟨rfl, rfl⟩
  | cons m rest ih =>
    simp only [ends_within_confirmations_cons, ih]
    cases located : addresses.get? m.name with
    | none =>
      have unasked : addressesOf addresses (m :: rest) = addressesOf addresses rest :=
        List.filterMap_cons_none located
      rw [unasked, confirms, located]
      constructor
      · rintro ⟨_, _, _, _, rfl, ⟨rfl, rfl⟩, ⟨replies, each, rfl, rfl⟩, rfl⟩
        exact ⟨replies, each, rfl, by simp⟩
      · rintro ⟨replies, each, rfl, rfl⟩
        exact ⟨[], _, false, _, rfl, ⟨rfl, rfl⟩, ⟨replies, each, rfl, rfl⟩, by simp⟩
    | some peer =>
      have asked : addressesOf addresses (m :: rest) = peer :: addressesOf addresses rest :=
        List.filterMap_cons_some located
      rw [asked, within_confirms located]
      constructor
      · rintro ⟨_, _, _, _, rfl, h, ⟨replies, each, rfl, rfl⟩, rfl⟩
        obtain ⟨reply, rfl, rfl⟩ := ends_ask_done.1 h
        refine ⟨reply :: replies, congrArg (· + 1) each, rfl, ?_⟩
        rw [List.countP_cons, Nat.add_comm]
      · rintro ⟨_ | ⟨reply, replies⟩, each, rfl, rfl⟩
        · cases each
        refine ⟨_, _, _, _, rfl, ends_ask_done.2 ⟨reply, rfl, rfl⟩,
          ⟨replies, Nat.succ.inj each, rfl, rfl⟩, ?_⟩
        rw [List.countP_cons, Nat.add_comm]

/-- Whatever the peers of a pod reply, its departure is confirmed just if as many replies report
    it gone as there are members of declared datacenters, less one. -/
theorem departure_by_replies {confirmed : Bool} :
    ((departureConfirmed spec pod address s addresses).within around.scalingPlace
        around.scalingReply).Ends log confirmed ↔
      ∃ replies : List Http.Reply,
        replies.length = (addressesOf addresses (peersOf spec s pod)).length ∧
        log = viewsAsked around.jolokia (addressesOf addresses (peersOf spec s pod)) replies ∧
          (confirmed = true ↔ (declaredMembers spec s).length - 1 ≤
            replies.countP (Jolokia.ReportsGone address)) := by
  rw [departureConfirmed, within_bind, ends_bind]
  constructor
  · rintro ⟨first, second, count, rfl, asked, rfl, rfl⟩
    obtain ⟨replies, each, rfl, rfl⟩ := ends_within_confirmations.1 asked
    exact ⟨replies, each, List.append_nil _, decide_eq_true_iff⟩
  · rintro ⟨replies, each, rfl, exact⟩
    refine ⟨_, [], _, (List.append_nil _).symm,
      ends_within_confirmations.2 ⟨replies, each, rfl, rfl⟩, rfl, ?_⟩
    rw [Bool.eq_iff_iff, decide_eq_true_eq, exact]

/-! ## A view that lists nothing -/

/-- Surroundings with a Jolokia proxy. -/
def proxied : Surroundings where
  now := ⟨0, 0⟩
  identity := ⟨"c", "default"⟩
  owner := none
  prober := Http.Prober.of "http://prober" "operator" "secret"
  jolokia := ⟨"http://jolokia", 7199, "operator", "secret"⟩

/-- A reply that gives an object without fields for a ring view. -/
def partialView : Http.Reply := .ok ⟨200, (Json.object [("value", .object [])]).write⟩

/-- The second node lists no live nodes, and with that confirms that the first one has left. -/
theorem confirmed_by_partial_view :
    (∃ response body given, partialView = .ok response ∧ Json.read response.content = some body ∧
      body.field? "value" = some given ∧ given.field? "LiveNodes" = none) ∧
    ((departureConfirmed kept "c-cassandra-dc1-0" "10.0.1.0" draining drainingAt).within
      proxied.scalingPlace proxied.scalingReply).Ends
        [⟨.http (proxied.jolokia.viewRequest "10.0.1.1"), partialView⟩] true := by
  have plain : (Json.object [("value", .object [])]).isPlain = true := by decide
  have read := Json.read_write plain
  have gone : Jolokia.ReportsGone "10.0.1.0" partialView :=
    ⟨_, _, .object [], rfl, rfl, read, .named rfl (.inl rfl), ⟨rfl, by decide⟩,
      .of_unlisted (by simp [Json.field?]) rfl _⟩
  have peers : addressesOf drainingAt (peersOf kept draining "c-cassandra-dc1-0") =
      ["10.0.1.1"] := by
    decide +kernel
  refine ⟨⟨_, _, .object [], rfl, read, rfl, rfl⟩, ?_⟩
  rw [departureConfirmed, within_bind]
  refine ends_bind.2 ⟨_, [], 1, (List.append_nil _).symm,
    ends_within_confirmations.2 ⟨[partialView], ?_, ?_, ?_⟩, ?_⟩
  · exact (congrArg List.length peers).symm
  · exact (congrArg (viewsAsked proxied.jolokia · [partialView]) peers).symm
  · simp [gone]
  · exact ⟨rfl, by decide +kernel⟩

end RingOperator.Scaling
