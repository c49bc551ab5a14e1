import RankedRelay.Proofs.Quiet
import RankedRelay.Proofs.Timeline

namespace RankedRelay

def Action.visitor? (r : Relay) (n : NetworkId) : Action → Option CallId
  | .refresh k => if k = n then (r.watch.slot? n).map fun _ => r.watch.nextCall else none
  | .move (.watch (.scheduler .wake)) =>
    (r.watch.slot? n).map fun _ => r.watch.nextCall + r.watch.networks.idxOf n
  | _ => none

def Action.leaver? (r : Relay) (n : NetworkId) : Action → Option CallId
  | .abandon k call =>
    if k = n ∧ (r.watch.slot? n).any (call ∈ ·.calls) = true then some call else none
  | _ => none

namespace Relay

def publication? (n : NetworkId) : Nat × WatchEvent → Option (Nat × Ranking)
  | (t, .slot (.published _ ranking)) => if ranking.network = n then some (t, ranking) else none
  | _ => none

/-- What was published for a network, with the times, the first one first. -/
def publications (r : Relay) (n : NetworkId) : List (Nat × Ranking) :=
  r.news.reverse.filterMap (publication? n)

def visitsAfter (r : Relay) (n : NetworkId) (a : Action) (vs : List (CallId × Stay)) :
    List (CallId × Stay) :=
  (match a.leaver? r n with
    | some call => Stay.leave call r.clock vs
    | none => vs) ++
  ((a.visitor? r n).map fun call => (call, ⟨r.clock, none⟩)).toList

/-- The calls at a network and their stays after some steps, given those before. -/
def visits (n : NetworkId) (r : Relay) : List Step → List (CallId × Stay) → List (CallId × Stay)
  | [], vs => vs
  | s :: rest, vs => (r.act s.env s.action).visits n rest (r.visitsAfter n s.action vs)

/-- How long the calls stay that some steps bring to a network, in the order in which they come. -/
def stays (n : NetworkId) (r : Relay) (steps : List Step) : List Stay :=
  (r.visits n steps []).map (·.2)

variable {env : Surroundings} {r : Relay} {a : Action} {n : NetworkId} {s s' : Slot}

theorem publications_withWatch (r : Relay) (w : Watch × List WatchEvent) (n : NetworkId) :
    (r.withWatch w).publications n =
      r.publications n ++ w.2.filterMap fun e => publication? n (r.clock, e) := by
  rw [publications, news_withWatch, List.reverse_append, List.filterMap_append, ← publications,
    ← List.map_reverse, List.reverse_reverse, List.filterMap_map]
  rfl

theorem publications_of_turn {probe : Prober} {limit now : Nat} {moment : Moment} {m : SlotMove}
    {events : List SlotEvent} (ht : s.Turn probe limit now moment m s' events)
    (hn : s.network ≠ n) (t : Nat) :
    events.filterMap (fun e => publication? n (t, .slot e)) = [] := by
  cases ht with
  | idle => rfl
  | takeUp hr hw => simp [publication?, List.filterMap_map]
  | settle hr hp ho => rfl
  | crash hr hp ho => rfl
  | publish hr ho =>
    refine List.filterMap_cons_none ?_
    exact if_neg hn

theorem publications_of_published {ranking : Ranking} (hn : ranking.network = n) (call : CallId)
    (t : Nat) : [SlotEvent.published call ranking].filterMap
      (fun e => publication? n (t, .slot e)) = [(t, ranking)] := by
  simp [publication?, hn]

/-- What an action does at the slot of a network: nothing, it brings a call or takes one away, or it
is a move of the slot. -/
inductive SlotStep (env : Surroundings) (r : Relay) (n : NetworkId) (s : Slot) :
    Action → Slot → List SlotEvent → Prop
  | aside {a : Action} (comes : a.visitor? r n = none) (leaves : a.leaver? r n = none) :
      SlotStep env r n s a s []
  | comes {a : Action} {call : CallId} (comes : a.visitor? r n = some call)
      (leaves : a.leaver? r n = none) (fresh : r.watch.nextCall ≤ call)
      (known : call < (r.act env a).watch.nextCall) (clock : (r.act env a).clock = r.clock) :
      SlotStep env r n s a (s.enqueue call) []
  | leaves {call : CallId} (held : call ∈ s.calls) :
      SlotStep env r n s (.abandon n call) (s.abandon call) []
  | turn {m : SlotMove} {s' : Slot} {events : List SlotEvent}
      (ht : s.Turn env.probe r.settings.probeTimeout r.clock r.moment m s' events) :
      SlotStep env r n s (.move (.watch (.slot n m))) s' events

/-- What becomes of the slot of a network in an action, and what the network publishes. -/
structure Seen (env : Surroundings) (r : Relay) (n : NetworkId) (s : Slot) (a : Action) (s' : Slot)
    (events : List SlotEvent) : Prop where
  slot : (r.act env a).watch.slot? n = some s'
  step : SlotStep env r n s a s' events
  publications : (r.act env a).publications n =
    r.publications n ++ events.filterMap fun e => publication? n (r.clock, .slot e)

theorem abandon_eq_self {call : CallId} (h : call ∉ s.calls) : s.abandon call = s := by
  obtain ⟨network, endpoints, ranking, round, running, waiting⟩ := s
  rw [Slot.calls, List.mem_append, not_or] at h
  have hwaiting : waiting.filter (· != call) = waiting :=
    List.filter_eq_self.mpr fun k hk => by
      rw [bne_iff_ne]
      rintro rfl
      exact h.2 hk
  cases running with
  | none => simp only [Slot.abandon, hwaiting, Option.filter_none]
  | some refresh =>
    have hcall : (refresh.call != call) = true := by
      rw [bne_iff_ne]
      rintro rfl
      exact h.1 (by simp)
    simp only [Slot.abandon, hwaiting, Option.filter_some, hcall, if_true]

theorem seen_aside (hslot : (r.act env a).watch.slot? n = some s)
    (hpub : (r.act env a).publications n = r.publications n) (hcomes : a.visitor? r n = none)
    (hleaves : a.leaver? r n = none) : ∃ s' events, Seen env r n s a s' events :=
  ⟨s, [], hslot, .aside hcomes hleaves, hpub.trans (List.append_nil _).symm⟩

theorem seen_request (hs : r.watch.slot? n = some s) (ha : a.ofWatch = false)
    (hcomes : a.visitor? r n = none) (hleaves : a.leaver? r n = none) :
    ∃ s' events, Seen env r n s a s' events := by
  have halike := act_alike env r ha
  exact seen_aside (halike.watch ▸ hs) (by rw [publications, halike.news, publications]) hcomes
    hleaves

theorem seen_refresh (env : Surroundings) (hs : r.watch.slot? n = some s) (k : NetworkId) :
    ∃ s' events, Seen env r n s (.refresh k) s' events := by
  cases hk : r.watch.slot? k with
  | none =>
    have hne : k ≠ n := by
      rintro rfl
      rw [hs] at hk
      cases hk
    have hact : r.act env (.refresh k) = r := by
      simp only [act, refresh, Watch.request, hk]
      rfl
    exact seen_aside (by rw [hact]; exact hs) (congrArg (·.publications n) hact) (if_neg hne) rfl
  | some s₀ =>
    have hact : r.act env (.refresh k) = { r with
        watch := { r.watch.modify k (·.enqueue r.watch.nextCall) with
          nextCall := r.watch.nextCall + 1 } } := by
      simp only [act, refresh, Watch.request, hk]
      rfl
    have hslot := (congrArg (·.watch.slot? n) hact).trans
      (Watch.slot?_modify (w := r.watch) (n := k) (·.enqueue r.watch.nextCall) (fun _ _ h => h) n)
    by_cases hne : n = k
    · subst hne
      rw [if_pos rfl, hs] at hslot
      have hcomes : (Action.refresh n).visitor? r n = some r.watch.nextCall := by
        simp [Action.visitor?, hs]
      exact ⟨_, [], hslot, .comes hcomes rfl (Nat.le_refl _) (hact ▸ Nat.lt_succ_self _)
        (congrArg (·.clock) hact),
        (congrArg (·.publications n) hact).trans (List.append_nil _).symm⟩
    · rw [if_neg hne, hs] at hslot
      exact seen_aside hslot (congrArg (·.publications n) hact) (if_neg (Ne.symm hne)) rfl

theorem seen_abandon (env : Surroundings) (hs : r.watch.slot? n = some s) (k : NetworkId)
    (call : CallId) : ∃ s' events, Seen env r n s (.abandon k call) s' events := by
  have hslot := Watch.slot?_modify (w := r.watch) (n := k) (·.abandon call) (fun _ _ h => h) n
  by_cases hne : n = k
  · subst hne
    rw [if_pos rfl, hs] at hslot
    by_cases hheld : call ∈ s.calls
    · exact ⟨_, [], hslot, .leaves hheld, (List.append_nil _).symm⟩
    · rw [Option.map_some, abandon_eq_self hheld] at hslot
      refine seen_aside hslot rfl rfl (if_neg fun h => hheld ?_)
      simpa [hs] using h.2
  · rw [if_neg hne, hs] at hslot
    exact seen_aside hslot rfl rfl (if_neg fun h => hne h.1.symm)

theorem seen_wake (env : Surroundings) (hs : r.watch.slot? n = some s) :
    ∃ s' events, Seen env r n s (.move (.watch (.scheduler .wake))) s' events := by
  have hslot := Watch.slot?_wake r.watch n
  rw [hs] at hslot
  have hcomes : (Action.move (.watch (.scheduler .wake))).visitor? r n =
      some (r.watch.nextCall + r.watch.networks.idxOf n) := by
    simp [Action.visitor?, hs]
  have hmem : n ∈ r.watch.networks :=
    List.mem_map.mpr ⟨s, Watch.mem_of_slot? hs, Watch.network_of_slot? hs⟩
  have hlt := List.idxOf_lt_length_of_mem hmem
  rw [Watch.networks, List.length_map] at hlt
  exact ⟨_, [], hslot,
    .comes hcomes rfl (Nat.le_add_right _ _) (Nat.add_lt_add_left hlt _) rfl,
    publications_withWatch r _ n⟩

theorem seen_slot (env : Surroundings) (hs : r.watch.slot? n = some s) (k : NetworkId)
    (m : SlotMove) : ∃ s' events, Seen env r n s (.move (.watch (.slot k m))) s' events := by
  have hpub := publications_withWatch r
    (r.watch.apply env.probe r.settings.probeTimeout r.clock r.moment (.slot k m)) n
  cases hk : r.watch.slot? k with
  | none =>
    have happly : r.watch.apply env.probe r.settings.probeTimeout r.clock r.moment (.slot k m) =
        (r.watch, []) := by
      simp only [Watch.apply, Watch.applySlot, hk]
    rw [happly] at hpub
    refine seen_aside ?_ ?_ rfl rfl
    · simp only [act, apply, happly]
      exact hs
    · simp only [act, apply, happly]
      exact hpub.trans (List.append_nil _)
  | some s₀ =>
    cases hout : s₀.apply env.probe r.settings.probeTimeout r.clock r.moment m with
    | mk s' events =>
      have ht := Slot.apply_turn env.probe r.settings.probeTimeout r.clock r.moment s₀ m
      have happly : r.watch.apply env.probe r.settings.probeTimeout r.clock r.moment (.slot k m) =
          (events.foldl Watch.book (r.watch.modify k fun _ => s'), events.map .slot) := by
        simp only [Watch.apply, Watch.applySlot, hk, hout]
      rw [hout] at ht
      rw [happly, List.filterMap_map] at hpub
      have hslot := Watch.slot?_of_turn hk ht (Watch.foldl_book_slots events _) n
      have hact : r.act env (.move (.watch (.slot k m))) =
          r.withWatch
            (events.foldl Watch.book (r.watch.modify k fun _ => s'), events.map .slot) := by
        simp only [act, apply, happly]
      by_cases hne : n = k
      · subst hne
        rw [hk] at hs
        cases hs
        rw [if_pos rfl] at hslot
        exact ⟨s', events, hact ▸ hslot, .turn ht, (congrArg (·.publications n) hact).trans hpub⟩
      · rw [if_neg hne, hs] at hslot
        have hother : s₀.network ≠ n := by
          rw [Watch.network_of_slot? hk]
          exact Ne.symm hne
        refine seen_aside (hact ▸ hslot) ((congrArg (·.publications n) hact).trans (hpub.trans ?_))
          rfl rfl
        have hnone := publications_of_turn ht hother r.clock
        rw [show (fun e => publication? n (r.clock, e)) ∘ WatchEvent.slot =
          fun e => publication? n (r.clock, .slot e) from rfl, hnone, List.append_nil]

theorem seen (env : Surroundings) (hs : r.watch.slot? n = some s) (a : Action) :
    ∃ s' events, Seen env r n s a s' events := by
  cases a with
  | wait t => exact seen_aside hs rfl rfl rfl
  | start => exact seen_aside hs rfl rfl rfl
  | cancel => exact seen_aside hs rfl rfl rfl
  | refresh k => exact seen_refresh env hs k
  | abandon k call => exact seen_abandon env hs k call
  | move m =>
    cases m with
    | traffic m => exact seen_request hs rfl rfl rfl
    | watch m =>
      cases m with
      | slot k m => exact seen_slot env hs k m
      | scheduler m =>
        have hpub := publications_withWatch r
          (r.watch.apply env.probe r.settings.probeTimeout r.clock r.moment (.scheduler m)) n
        cases m with
        | wake => exact seen_wake env hs
        | conclude => exact seen_aside hs (hpub.trans (List.append_nil _)) rfl rfl
        | terminate => exact seen_aside hs (hpub.trans (List.append_nil _)) rfl rfl
  | _ => exact seen_request hs rfl rfl rfl

end Relay

end RankedRelay
