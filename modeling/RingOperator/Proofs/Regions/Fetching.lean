import RingOperator.Proofs.Pass.Calls

/-!
# Regions that are asked at once

Dialogues may be under way at once, and nobody says in which order they are replied to
(`Dialogue.Overlap`). So it is when several regions are asked for their seeds: each fetch ends when
its region replies, and the whole is over with the first region that lacks seeds, or else when all
have replied (`Regions.AtOnce`), in any order (`Regions.atOnce_of_perm`). Whatever the order is, the
lists are all there, in the order of the regions, or there is none (`Regions.AllOrNone`), and so it
is for the seed list of a pass, which begins with the own seeds (`Regions.in_declared_order`). To
ask one region after the other, as `Regions.allSeeds` does, is one of these orders.
-/

namespace RingOperator

namespace Dialogue

variable {Ask : Type} {Reply : Ask → Type} {α : Type}

/-- Dialogues that are under way at once, and what is left of them: as long as some of them ask,
    any of these may be replied to next. The log has the requests in the order of the replies. -/
inductive Overlap : List (Dialogue Ask Reply α) → List (Entry Reply) →
    List (Dialogue Ask Reply α) → Prop
  | still (ds : List (Dialogue Ask Reply α)) : Overlap ds [] ds
  | reply {before after left : List (Dialogue Ask Reply α)} {log : List (Entry Reply)}
      {request : Ask} {next : Reply request → Dialogue Ask Reply α} (reply : Reply request)
      (goesOn : Overlap (before ++ next reply :: after) log left) :
      Overlap (before ++ ask request next :: after) (⟨request, reply⟩ :: log) left

variable {ds left left' : List (Dialogue Ask Reply α)} {log log' : List (Entry Reply)}

theorem Overlap.append (first : Overlap ds log left) (second : Overlap left log' left') :
    Overlap ds (log ++ log') left' := by
  induction first with
  | still => exact second
  | reply reply _ ih => exact .reply reply (ih second)

/-- One more dialogue may stay where it is. -/
theorem Overlap.cons (d : Dialogue Ask Reply α) (overlap : Overlap ds log left) :
    Overlap (d :: ds) log (d :: left) := by
  induction overlap with
  | still ds => exact .still (d :: ds)
  | @reply before _ _ _ _ _ reply _ ih =>
    exact @Overlap.reply _ _ _ (d :: before) _ _ _ _ _ reply ih

/-- One dialogue may be held to its end before the others begin. -/
theorem overlap_of_ends {d : Dialogue Ask Reply α} {a : α} (h : d.Ends log a)
    (ds : List (Dialogue Ask Reply α)) : Overlap (d :: ds) log (done a :: ds) := by
  induction d generalizing log with
  | done result =>
    obtain ⟨rfl, rfl⟩ := h
    exact .still _
  | ask request next ih =>
    obtain ⟨reply, rest, rfl, h⟩ := h
    exact @Overlap.reply _ _ _ [] _ _ _ _ _ reply (ih reply h)

end Dialogue

open Dialogue

namespace Regions

/-- How regions may be asked for something at once. Either all of them have replied, and what they
    say is joined in their order, or one of them has said that it lacks the thing, and the others
    are not waited for. -/
inductive AtOnce {α : Type} (ask : String → Dialogue Ask Reply (Option α))
    (regions : List String) : List (Entry Reply) → Outcome (List (String × α)) → Prop
  | whole {log : List (Entry Reply)} {answers : List (String × Option α)}
      (named : answers.map (·.1) = regions)
      (held : Overlap (regions.map ask) log (answers.map fun answer => done answer.2)) :
      AtOnce ask regions log (joined answers)
  | cut {log : List (Entry Reply)} {left : List (String × Dialogue Ask Reply (Option α))}
      {region : String} (named : left.map (·.1) = regions)
      (held : Overlap (regions.map ask) log (left.map (·.2))) (lacks : (region, done none) ∈ left) :
      AtOnce ask regions log (.error (.regionNotReady region))

/-- How the seed list of a pass may be made. The own seeds are told; then, if nodes use the network
    of their hosts, the managed regions are asked for theirs at once. -/
inductive Assembles (spec : Spec) (cluster : Identity) (addresses : Table String) :
    List (Entry Reply) → Outcome (List String) → Prop
  | refused (failure : Failure) : Assembles spec cluster addresses
      [⟨.publishSeeds (Seeding.localSeeds spec cluster addresses), .error failure⟩]
      (.error failure)
  | alone (alone : spec.hostPort.enabled = false) : Assembles spec cluster addresses
      [⟨.publishSeeds (Seeding.localSeeds spec cluster addresses), .ok ()⟩]
      (.ok (Seeding.localSeeds spec cluster addresses))
  | among {log : List (Entry Reply)} {outcome : Outcome (List (String × List String))}
      (among : spec.hostPort.enabled = true)
      (asked : AtOnce someSeedsOf (spec.managedRegions cluster) log outcome) :
      Assembles spec cluster addresses
        (⟨.publishSeeds (Seeding.localSeeds spec cluster addresses), .ok ()⟩ :: log)
        (outcome.map fun lists => Seeding.localSeeds spec cluster addresses ++
          (lists.map (·.2)).flatten ++ spec.unmanaged.flatten)

/-! ## One after the other -/

variable {α : Type} {ask : String → Dialogue Ask Reply (Option α)} {regions : List String}
  {log : List (Entry Reply)}

/-- To ask one region after the other is a way to ask them at once. -/
theorem overlap_of_ends_askAll {answers : List (String × Option α)}
    (h : (askAll ask regions).Ends log answers) :
    Overlap (regions.map ask) log (answers.map fun answer => done answer.2) := by
  induction regions generalizing log answers with
  | nil =>
    obtain ⟨rfl, rfl⟩ := h
    exact .still _
  | cons region rest ih =>
    obtain ⟨first, _, answer, rfl, asked, h⟩ := ends_bind.1 h
    obtain ⟨second, _, more, rfl, askedRest, rfl, rfl⟩ := ends_bind.1 h
    rw [List.append_nil]
    exact (overlap_of_ends asked _).append ((ih askedRest).cons _)

theorem atOnce_of_ends {answers : List (String × Option α)}
    (h : (askAll ask regions).Ends log answers) : AtOnce ask regions log (joined answers) :=
  .whole (ends_askAll h).1 (overlap_of_ends_askAll h)

/-- A log of the seed list is one of the ways to make it. -/
theorem assembles_of_ends {spec : Spec} {cluster : Identity} {addresses : Table String}
    {result : Outcome (List String)} (h : (allSeeds spec cluster addresses).run.Ends log result) :
    Assembles spec cluster addresses log result := by
  obtain ⟨failure, refused, rfl⟩ | ⟨first, fetched, _, rfl, told, rest⟩ := ends_bind_except.1 h
  · obtain rfl := ends_publishSeeds.1 refused
    exact .refused failure
  obtain rfl := ends_publishSeeds.1 told
  cases among : spec.hostPort.enabled with
  | false =>
    rw [if_neg (by simp [among])] at rest
    obtain ⟨rfl, rfl⟩ := ends_pure.1 rest
    exact .alone among
  | true =>
    rw [if_pos among] at rest
    obtain ⟨outcome, fetches, rfl⟩ := ends_map_except.1 rest
    obtain ⟨asked, _, answers, rfl, replied, joins⟩ := ends_bind_lift.1 fetches
    obtain ⟨rfl, rfl⟩ := ends_map_outcome.1 joins
    rw [List.append_nil]
    have made : Assembles spec cluster addresses _ _ := .among among (atOnce_of_ends replied)
    cases whole : joined answers <;> simpa [whole, Except.map] using made

/-! ## In any order -/

/-- What a reply says of the seeds of a region, if it has any. -/
def seedsIn : Outcome (List String) → Option (List String)
  | .ok [] => none
  | .ok seeds => some seeds
  | .error _ => none

theorem someSeedsOf_eq (region : String) :
    someSeedsOf region = .ask (.seedsOf region) fun reply => .done (seedsIn reply) := by
  refine congrArg (Dialogue.ask _) (funext fun reply => congrArg done ?_)
  rcases reply with failure | _ | ⟨first, rest⟩ <;> rfl

theorem seedsIn_eq_some_iff {reply : Outcome (List String)} {seeds : List String} :
    seedsIn reply = some seeds ↔ reply = .ok seeds ∧ seeds ≠ [] := by
  rcases reply with failure | _ | ⟨first, rest⟩ <;> simp [seedsIn]
  rintro rfl
  exact List.cons_ne_nil _ _

theorem seedsIn_eq_none_iff {region : String} {reply : Outcome (List String)} :
    seedsIn reply = none ↔ ¬ Favourable ⟨.seedsOf region, reply⟩ := by
  rcases reply with failure | _ | ⟨first, rest⟩ <;> simp [seedsIn, Favourable]

/-- A region that is asked for its seeds, with its reply once there is one. -/
structure Fetch where
  region : String
  reply : Option (Outcome (List String)) := none

namespace Fetch

/-- What is left of a fetch. -/
def left (fetch : Fetch) : Dialogue Ask Reply (Option (List String)) :=
  match fetch.reply with
  | none => someSeedsOf fetch.region
  | some reply => .done (seedsIn reply)

/-- What a fetch leaves in the log. -/
def entry? (fetch : Fetch) : Option (Entry Reply) :=
  fetch.reply.map fun reply => ⟨.seedsOf fetch.region, reply⟩

end Fetch

/-- Fetches that are under way at once: each reply goes to one of them, and leaves its entry. -/
theorem exists_fetches_of_overlap {ds left : List (Dialogue Ask Reply (Option (List String)))}
    (overlap : Overlap ds log left) {fetches : List Fetch} (are : ds = fetches.map Fetch.left) :
    ∃ fetches' : List Fetch, left = fetches'.map Fetch.left ∧
      fetches'.map (·.region) = fetches.map (·.region) ∧
      (fetches'.filterMap Fetch.entry?).Perm (log ++ fetches.filterMap Fetch.entry?) := by
  -- The invariant is that each dialogue is what its fetch has left: the one that is replied to
  -- still asks, so its fetch had no reply, and has this one from now on.
  induction overlap generalizing fetches with
  | still => exact ⟨fetches, are, rfl, .refl _⟩
  | @reply before after left log request next reply _ ih =>
    obtain ⟨first, _, rfl, rfl, here⟩ := List.map_eq_append_iff.1 are.symm
    obtain ⟨⟨region, earlier⟩, second, rfl, asks, rfl⟩ := List.map_eq_cons_iff.1 here
    cases earlier with
    | some _ => cases asks
    | none =>
      rw [Fetch.left, someSeedsOf_eq] at asks
      cases asks
      have replied : first.map Fetch.left ++ done (seedsIn reply) :: second.map Fetch.left =
          (first ++ ⟨region, some reply⟩ :: second).map Fetch.left := by
        simp [Fetch.left]
      obtain ⟨fetches', rfl, regions, entries⟩ := ih replied
      refine ⟨fetches', rfl, by simpa using regions, entries.trans ?_⟩
      have under : Fetch.entry? ⟨region, none⟩ = none := rfl
      have told : Fetch.entry? ⟨region, some reply⟩ = some ⟨.seedsOf region, reply⟩ := rfl
      simp only [List.filterMap_append, List.filterMap_cons_none under,
        List.filterMap_cons_some told, ← List.append_assoc]
      exact List.perm_middle

/-- Once all fetches have ended, all regions have replied. -/
theorem exists_replies_of_left {answers : List (String × Option (List String))}
    {fetches : List Fetch} (named : answers.map (·.1) = fetches.map (·.region))
    (ended : (answers.map fun answer => done answer.2) = fetches.map Fetch.left) :
    ∃ replies : List (String × Outcome (List String)),
      fetches = replies.map (fun r => ⟨r.1, some r.2⟩) ∧
        answers = replies.map fun r => (r.1, seedsIn r.2) := by
  induction fetches generalizing answers with
  | nil =>
    rw [List.map_eq_nil_iff.1 named]
    exact ⟨[], rfl, rfl⟩
  | cons fetch fetches ih =>
    obtain ⟨⟨_, answer⟩, answers, rfl, rfl, named'⟩ := List.map_eq_cons_iff.1 named
    obtain ⟨here, ended'⟩ := List.cons_eq_cons.1 ended
    obtain ⟨replies, rfl, rfl⟩ := ih named' ended'
    obtain ⟨region, _ | reply⟩ := fetch
    · cases here
    · cases here
      exact ⟨(region, reply) :: replies, rfl, rfl⟩

/-- A region that is asked for its seeds, with the reply that it has given or is going to give. -/
structure Awaited where
  region : String
  reply : Outcome (List String)
  /-- Whether the reply is there. -/
  told : Bool := false

namespace Awaited

/-- The fetch from the region. -/
def fetch (a : Awaited) : Fetch := ⟨a.region, if a.told then some a.reply else none⟩

/-- What the fetch is still going to leave in the log. -/
def entry? (a : Awaited) : Option (Entry Reply) :=
  if a.told then none else some ⟨.seedsOf a.region, a.reply⟩

end Awaited

/-- A region that is asked for its seeds may reply next. -/
theorem overlap_fetch {before after left : List (Dialogue Ask Reply (Option (List String)))}
    {region : String} {reply : Outcome (List String)}
    (goesOn : Overlap (before ++ done (seedsIn reply) :: after) log left) :
    Overlap (before ++ someSeedsOf region :: after) (⟨.seedsOf region, reply⟩ :: log) left := by
  rw [someSeedsOf_eq]
  exact @Overlap.reply Ask Reply _ before after left log (.seedsOf region)
    (fun reply => done (seedsIn reply)) reply goesOn

/-- The replies that are awaited may come in any order. -/
theorem overlap_of_perm {awaited : List Awaited}
    (order : log.Perm (awaited.filterMap Awaited.entry?)) :
    Overlap (awaited.map fun a => a.fetch.left) log
      (awaited.map fun a => done (seedsIn a.reply)) := by
  induction log generalizing awaited with
  | nil =>
    have ended : ∀ a ∈ awaited, a.fetch.left = done (seedsIn a.reply) := by
      intro a ha
      have none := List.filterMap_eq_nil_iff.1 order.symm.eq_nil a ha
      cases told : a.told with
      | false => simp [Awaited.entry?, told] at none
      | true => simp [Awaited.fetch, told, Fetch.left]
    rw [List.map_congr_left ended]
    exact .still _
  | cons e log ih =>
    -- The first entry is of a region that has not replied; from here on it has, and all the
    -- others are where they were.
    obtain ⟨a, ha, waits⟩ := List.mem_filterMap.1 (order.subset List.mem_cons_self)
    obtain ⟨before, after, rfl⟩ := List.append_of_mem ha
    obtain ⟨region, reply, _ | _⟩ := a
    · cases waits
      have waits : Awaited.entry? ⟨region, reply, false⟩ = some ⟨.seedsOf region, reply⟩ := rfl
      have told : Awaited.entry? ⟨region, reply, true⟩ = none := rfl
      have later : log.Perm ((before ++ ⟨region, reply, true⟩ :: after).filterMap
          Awaited.entry?) := by
        rw [List.filterMap_append, List.filterMap_cons_some waits] at order
        rw [List.filterMap_append, List.filterMap_cons_none told]
        exact (order.trans List.perm_middle).cons_inv
      have goesOn := ih later
      rw [List.map_append, List.map_cons, List.map_append, List.map_cons] at goesOn ⊢
      exact overlap_fetch goesOn
    · cases waits

/-- However the replies of regions come in, they are one way to ask the regions at once. -/
theorem atOnce_of_perm {replies : List (String × Outcome (List String))}
    (named : replies.map (·.1) = regions)
    (order : log.Perm (replies.map fun r => ⟨.seedsOf r.1, r.2⟩)) :
    AtOnce someSeedsOf regions log (joined (replies.map fun r => (r.1, seedsIn r.2))) := by
  have awaited : log.Perm ((replies.map fun r => ⟨r.1, r.2, false⟩).filterMap Awaited.entry?) := by
    simpa [Function.comp_def, Awaited.entry?] using order
  refine .whole (by simpa [Function.comp_def] using named) ?_
  rw [← named]
  simpa [Function.comp_def, Awaited.fetch, Fetch.left] using overlap_of_perm awaited

/-- What asking regions for their seeds at once comes to. -/
structure AllOrNone (regions : List String) (log : List (Entry Reply))
    (outcome : Outcome (List (String × List String))) : Prop where
  /-- Nothing else is asked. -/
  asked : ∀ e ∈ log, ∃ region ∈ regions, e.1 = .seedsOf region
  /-- It fails just if a region fails or has no seeds. -/
  fails : (∃ failure, outcome = .error failure) ↔ ∃ e ∈ log, ¬ Favourable e
  /-- The failure names such a region. -/
  named : ∀ failure, outcome = .error failure → ∃ region reply, ⟨.seedsOf region, reply⟩ ∈ log ∧
    ¬ Favourable ⟨.seedsOf region, reply⟩ ∧ failure = .regionNotReady region
  /-- Otherwise there is the list of each region, as it was replied, in the order of the regions. -/
  ordered : ∀ lists, outcome = .ok lists → lists.map (·.1) = regions ∧
    log.Perm (lists.map fun list => ⟨.seedsOf list.1, .ok list.2⟩)

/-- A log of fetches that have begun together is one of fetches of these regions. -/
theorem exists_fetches {left : List (Dialogue Ask Reply (Option (List String)))}
    (overlap : Overlap (regions.map someSeedsOf) log left) :
    ∃ fetches : List Fetch, left = fetches.map Fetch.left ∧ fetches.map (·.region) = regions ∧
      (fetches.filterMap Fetch.entry?).Perm log := by
  have begun : regions.map someSeedsOf = (regions.map fun region => ⟨region, none⟩).map
      Fetch.left := by
    rw [List.map_map]
    rfl
  have untold : (regions.map fun region => ⟨region, none⟩).filterMap Fetch.entry? = [] := by
    refine List.filterMap_eq_nil_iff.2 fun fetch hf => ?_
    obtain ⟨region, -, rfl⟩ := List.mem_map.1 hf
    rfl
  obtain ⟨fetches, are, same, entries⟩ := exists_fetches_of_overlap overlap begun
  rw [untold, List.append_nil] at entries
  exact ⟨fetches, are, by simpa [Function.comp_def] using same, entries⟩

theorem asked_of_overlap {left : List (Dialogue Ask Reply (Option (List String)))}
    (overlap : Overlap (regions.map someSeedsOf) log left) :
    ∀ e ∈ log, ∃ region ∈ regions, e.1 = .seedsOf region := by
  intro e he
  obtain ⟨fetches, -, rfl, entries⟩ := exists_fetches overlap
  obtain ⟨fetch, hf, told⟩ := List.mem_filterMap.1 (entries.mem_iff.2 he)
  obtain ⟨reply, -, rfl⟩ := Option.map_eq_some_iff.1 told
  exact ⟨_, List.mem_map_of_mem hf, rfl⟩

theorem AllOrNone.of_lacking {region : String} {reply : Outcome (List String)}
    (asked : ∀ e ∈ log, ∃ region ∈ regions, e.1 = .seedsOf region)
    (replied : ⟨.seedsOf region, reply⟩ ∈ log) (lacks : seedsIn reply = none) :
    AllOrNone regions log (.error (.regionNotReady region)) where
  asked := asked
  fails := iff_of_true ⟨_, rfl⟩ ⟨_, replied, seedsIn_eq_none_iff.1 lacks⟩
  named := by
    rintro _ ⟨⟩
    exact ⟨region, reply, replied, seedsIn_eq_none_iff.1 lacks, rfl⟩
  ordered := by simp

theorem AllOrNone.of_lists {lists : List (String × List String)}
    (asked : ∀ e ∈ log, ∃ region ∈ regions, e.1 = .seedsOf region)
    (named : lists.map (·.1) = regions) (filled : ∀ list ∈ lists, list.2 ≠ [])
    (replied : log.Perm (lists.map fun list => ⟨.seedsOf list.1, .ok list.2⟩)) :
    AllOrNone regions log (.ok lists) where
  asked := asked
  fails := by
    refine iff_of_false (by simp) ?_
    rintro ⟨e, he, bad⟩
    obtain ⟨list, hl, rfl⟩ := List.mem_map.1 (replied.mem_iff.1 he)
    exact bad ⟨list.2, filled list hl, rfl⟩
  named := by simp
  ordered := by
    rintro _ ⟨⟩
    exact ⟨named, replied⟩

theorem replies_eq_of_seedsIn {replies : List (String × Outcome (List String))}
    {lists : List (String × List String)}
    (each : (replies.map fun r => (r.1, seedsIn r.2)) =
      lists.map fun list => (list.1, some list.2)) :
    replies = lists.map (fun list => (list.1, .ok list.2)) ∧ ∀ list ∈ lists, list.2 ≠ [] := by
  induction lists generalizing replies with
  | nil => exact ⟨List.map_eq_nil_iff.1 each, by simp⟩
  | cons list lists ih =>
    obtain ⟨⟨region, reply⟩, replies, rfl, here, rest⟩ := List.map_eq_cons_iff.1 each
    obtain ⟨rfl, filled⟩ := ih rest
    obtain ⟨rfl, told⟩ := Prod.mk.inj here
    obtain ⟨rfl, some⟩ := seedsIn_eq_some_iff.1 told
    exact ⟨rfl, List.forall_mem_cons.2 ⟨some, filled⟩⟩

/-- However the replies of regions that are asked at once come in, there are the lists of all of
    them or none. -/
theorem allOrNone_of_atOnce {outcome : Outcome (List (String × List String))}
    (h : AtOnce someSeedsOf regions log outcome) : AllOrNone regions log outcome := by
  cases h with
  | @cut left region named held lacks =>
    have asked := asked_of_overlap held
    obtain ⟨fetches, are, rfl, entries⟩ := exists_fetches held
    -- The region that lacks seeds has ended its fetch, so it has replied.
    rw [List.zip_of_prod named are, List.zip_map'] at lacks
    obtain ⟨⟨_, reply⟩, hf, here⟩ := List.mem_map.1 lacks
    cases reply with
    | none => cases here
    | some reply =>
      obtain ⟨rfl, ended⟩ := Prod.mk.inj here
      refine .of_lacking asked (entries.mem_iff.1 (List.mem_filterMap.2 ⟨_, hf, rfl⟩)) ?_
      exact Dialogue.done.inj ended
  | @whole answers named held =>
    obtain ⟨fetches, are, same, entries⟩ := exists_fetches held
    obtain ⟨replies, rfl, rfl⟩ := exists_replies_of_left (named.trans same.symm) are
    have replied : log.Perm (replies.map fun r => ⟨.seedsOf r.1, r.2⟩) := by
      simpa [Fetch.entry?, Function.comp_def] using entries.symm
    cases whole : joined (replies.map fun r => (r.1, seedsIn r.2)) with
    | error failure =>
      obtain ⟨region, lacks, rfl⟩ := mem_of_joined_eq_error whole
      obtain ⟨⟨_, reply⟩, hr, here⟩ := List.mem_map.1 lacks
      obtain ⟨rfl, none⟩ := Prod.mk.inj here
      have told := replied.mem_iff.2 (List.mem_map.2 ⟨_, hr, rfl⟩)
      exact .of_lacking (asked_of_overlap held) told none
    | ok lists =>
      obtain ⟨rfl, filled⟩ := replies_eq_of_seedsIn (eq_of_joined_eq_ok whole)
      refine .of_lists (asked_of_overlap held) ?_ filled ?_
      · simpa [Function.comp_def] using named
      · simpa [Function.comp_def] using replied

/-! ## The seed list of a pass -/

/-- The seed list of a pass, in whatever order the regions that are asked for their seeds reply. The
    own seeds are told first, and once. If that fails, so does the whole, and nobody is asked. If
    nodes do not use the network of their hosts, the own seeds are all, and nobody is asked either.
    Otherwise just the managed regions with a domain are asked; the whole fails if one of them fails
    or has no seeds, and names it; and if there is none, the own seeds are followed by the list of
    each of them and then by those of the unmanaged regions, all as they are declared. Whatever the
    regions reply, and in whatever order, it comes to one of these. -/
theorem in_declared_order (spec : Spec) (cluster : Identity) (addresses : Table String) :
    (∀ log result, (allSeeds spec cluster addresses).run.Ends log result →
      Assembles spec cluster addresses log result) ∧
    (∀ (replies : List (String × Outcome (List String))) (fetched : List (Entry Reply)),
      spec.hostPort.enabled = true → replies.map (·.1) = spec.managedRegions cluster →
      fetched.Perm (replies.map fun r => ⟨.seedsOf r.1, r.2⟩) →
      ∃ result, Assembles spec cluster addresses
        (⟨.publishSeeds (Seeding.localSeeds spec cluster addresses), .ok ()⟩ :: fetched) result) ∧
    ∀ log result, Assembles spec cluster addresses log result → ∃ told fetched,
      log = ⟨.publishSeeds (Seeding.localSeeds spec cluster addresses), told⟩ :: fetched ∧
      (∀ failure, told = .error failure → fetched = [] ∧ result = .error failure) ∧
      (told = .ok () → spec.hostPort.enabled = false →
        fetched = [] ∧ result = .ok (Seeding.localSeeds spec cluster addresses)) ∧
      (told = .ok () → spec.hostPort.enabled = true →
        ∃ outcome, AllOrNone (spec.managedRegions cluster) fetched outcome ∧
          result = outcome.map fun lists => Seeding.localSeeds spec cluster addresses ++
            (lists.map (·.2)).flatten ++ spec.unmanaged.flatten) := by
  refine ⟨fun _ _ => assembles_of_ends, fun _ _ among named order => ?_, fun log result h => ?_⟩
  · exact ⟨_, .among among (atOnce_of_perm named order)⟩
  cases h with
  | refused failure =>
    refine ⟨.error failure, [], rfl, ?_, by simp, by simp⟩
    rintro _ ⟨⟩
    exact ⟨rfl, rfl⟩
  | alone alone => exact ⟨.ok (), [], rfl, by simp, fun _ _ => ⟨rfl, rfl⟩, by simp [alone]⟩
  | among among asked =>
    refine ⟨.ok (), _, rfl, by simp, by simp [among], fun _ _ => ?_⟩
    exact ⟨_, allOrNone_of_atOnce asked, rfl⟩

/-- A region among two others with probers, one that was declared without a domain, and one that
    nobody looks after. -/
def scattered : Spec where
  datacenters := [⟨"dc", 1⟩]
  hostPort := { enabled := true }
  domain := "a"
  managed := [{ domain := "c" }, { domain := "" }, { domain := "b" }]
  unmanaged := [["10.0.4.1"]]

/-- The region that is declared last replies first. -/
theorem in_declared_order_scattered :
    let addresses := Table.ofList [("c-cassandra-dc-0", "10.0.0.1")]
    let fetched : List (Entry Reply) :=
      [⟨.seedsOf "default-c-cassandra-prober.b", .ok ["10.0.2.1"]⟩,
        ⟨.seedsOf "default-c-cassandra-prober.c", .ok ["10.0.3.1", "10.0.3.2"]⟩]
    let result := .ok ["10.0.0.1", "10.0.3.1", "10.0.3.2", "10.0.2.1", "10.0.4.1"]
    Assembles scattered ⟨"c", "default"⟩ addresses
      (⟨.publishSeeds ["10.0.0.1"], .ok ()⟩ :: fetched) result ∧
    ∃ outcome, AllOrNone ["default-c-cassandra-prober.c", "default-c-cassandra-prober.b"] fetched
      outcome ∧ result = outcome.map fun lists =>
        ["10.0.0.1"] ++ (lists.map (·.2)).flatten ++ scattered.unmanaged.flatten := by
  intro addresses fetched result
  have own : Seeding.localSeeds scattered ⟨"c", "default"⟩ addresses = ["10.0.0.1"] := by
    decide +kernel
  have managed : scattered.managedRegions ⟨"c", "default"⟩ =
      ["default-c-cassandra-prober.c", "default-c-cassandra-prober.b"] := by decide +kernel
  have asked := @atOnce_of_perm _ fetched [("default-c-cassandra-prober.c",
    .ok ["10.0.3.1", "10.0.3.2"]), ("default-c-cassandra-prober.b", .ok ["10.0.2.1"])]
    managed.symm (.swap _ _ [])
  have made : Assembles scattered ⟨"c", "default"⟩ addresses _ _ := .among rfl asked
  rw [own] at made
  refine ⟨made, ?_⟩
  obtain ⟨told, fetched', same, -, -, turns⟩ := (in_declared_order _ _ _).2.2 _ _ made
  rw [own] at same turns
  rw [managed] at turns
  cases same
  exact turns rfl rfl

end Regions

end RingOperator
