import RankedRelay.Proofs.Calls
import RankedRelay.Proofs.Coherence

namespace RankedRelay

namespace Moment

instance : LE Moment :=
  ⟨fun a b => a.seconds < b.seconds ∨ a.seconds = b.seconds ∧ a.nanos ≤ b.nanos⟩

theorem after_le (t : Moment) {a b : Nat} (h : a ≤ b) : t.after a ≤ t.after b := by
  have hle : t.nanos + a * 1000000 ≤ t.nanos + b * 1000000 := by omega
  show _ < _ ∨ _ = _ ∧ _ ≤ _
  simp only [after]
  omega

end Moment

namespace Slot

/-- The probes of a slot that are in flight, each with the call for which it was started. -/
def inFlight (s : Slot) : List (CallId × Endpoint) :=
  s.running.toList.flatMap fun refresh => refresh.probes.filterMap fun
    | (e, .inFlight _) => some (refresh.call, e)
    | (_, .over _) => none

theorem call_of_inFlight {s : Slot} {p : CallId × Endpoint} (h : p ∈ s.inFlight) :
    ∃ refresh, s.running = some refresh ∧ p.1 = refresh.call := by
  obtain ⟨refresh, hr, hp⟩ := List.mem_flatMap.mp h
  obtain ⟨q, _, hq⟩ := List.mem_filterMap.mp hp
  refine ⟨refresh, Option.mem_toList.mp hr, ?_⟩
  split at hq
  · cases hq
    rfl
  · cases hq

end Slot

namespace Watch

variable {w : Watch} {n : NetworkId}

/-- The probes of a network that are in flight, each with the call for which it was started. -/
def inFlight (w : Watch) (n : NetworkId) : List (CallId × Endpoint) :=
  (w.slots.filter (·.network == n)).flatMap Slot.inFlight

/-- The call whose refresh of a network is running, while the others wait. -/
def holder? (w : Watch) (n : NetworkId) : Option CallId :=
  (w.slot? n).bind fun s => s.running.map (·.call)

theorem holds_of_holder? {call : CallId} (h : w.holder? n = some call) : w.Holds n call := by
  obtain ⟨s, hs, hrunning⟩ := Option.bind_eq_some_iff.mp h
  exact ⟨s, hs, by simp [Slot.calls, hrunning]⟩

theorem holder?_of_inFlight (hn : w.networks.Nodup) {p : CallId × Endpoint}
    (hp : p ∈ w.inFlight n) : w.holder? n = some p.1 := by
  obtain ⟨s, hs, hp⟩ := List.mem_flatMap.mp hp
  obtain ⟨hs, hsn⟩ := List.mem_filter.mp hs
  have hslot := slot?_of_mem hn hs
  rw [eq_of_beq hsn] at hslot
  obtain ⟨refresh, hr, hcall⟩ := Slot.call_of_inFlight hp
  simp [holder?, hslot, hr, hcall]

def publication? (n : NetworkId) : CallId × CallResult → Option (CallId × Ranking)
  | (call, some ranking) => if ranking.network = n then some (call, ranking) else none
  | (_, none) => none

/-- The calls that have published for a network and what each has published, the first one first. -/
def published (w : Watch) (n : NetworkId) : List (CallId × Ranking) :=
  w.results.reverse.filterMap (publication? n)

/-- The ranking of a network and the number of its last round. -/
def shown (w : Watch) (n : NetworkId) : Option (Ranking × Nat) :=
  (w.slot? n).map fun s => (s.ranking, s.round)

theorem publication?_eq_some {p : CallId × CallResult} {q : CallId × Ranking} :
    publication? n p = some q ↔ p = (q.1, some q.2) ∧ q.2.network = n := by
  obtain ⟨call', _ | ranking'⟩ := p
  · simp [publication?]
  · simp only [publication?, Option.ite_none_right_eq_some, Option.some.injEq]
    constructor
    · rintro ⟨hn, rfl⟩
      exact ⟨rfl, hn⟩
    · rintro ⟨hp, hn⟩
      cases hp
      exact ⟨hn, rfl⟩

theorem mem_published {p : CallId × Ranking} :
    p ∈ w.published n ↔ (p.1, some p.2) ∈ w.results ∧ p.2.network = n := by
  simp only [published, List.mem_filterMap, List.mem_reverse, publication?_eq_some]
  constructor
  · rintro ⟨_, hmem, rfl, hn⟩
    exact ⟨hmem, hn⟩
  · rintro ⟨hmem, hn⟩
    exact ⟨_, hmem, rfl, hn⟩

theorem published_of_results {w' : Watch} {ended : List (CallId × CallResult)}
    (h : w'.results = ended.reverse ++ w.results) :
    w'.published n = w.published n ++ ended.filterMap (publication? n) := by
  rw [published, h, List.reverse_append, List.reverse_reverse, List.filterMap_append, published]

theorem published_calls_sublist : ((w.published n).map (·.1)).Sublist w.closed.reverse := by
  rw [published, closed, ← List.map_reverse]
  induction w.results.reverse with
  | nil => exact .refl _
  | cons p rest ih =>
    obtain ⟨call, _ | ranking⟩ := p
    · exact ih.cons _
    · by_cases hn : ranking.network = n
      · simpa [publication?, hn] using ih
      · simpa [publication?, hn] using ih.cons call

theorem shown_modify (f : Slot → Slot)
    (hf : ∀ s, (f s).network = s.network ∧ (f s).ranking = s.ranking ∧ (f s).round = s.round)
    (k : NetworkId) : (w.modify k f).shown n = w.shown n := by
  simp only [shown, slot?_modify f (fun s _ hs => (hf s).1.trans hs) n]
  split
  · rename_i hn
    subst hn
    rw [Option.map_map]
    congr 1
    funext s
    simp [(hf s).2.1, (hf s).2.2]
  · rfl

theorem shown_wake : w.wake.shown n = w.shown n := by
  rw [shown, slot?_wake, Option.map_map]
  rfl

end Watch

theorem Slot.Turn.published {probe : Prober} {limit now : Nat} {moment : Moment} {s s' : Slot}
    {m : SlotMove} {events : List SlotEvent} (h : s.Turn probe limit now moment m s' events) :
    ((∀ n, (events.filterMap SlotEvent.closing?).filterMap (Watch.publication? n) = []) ∧
      s'.ranking = s.ranking ∧ s'.round = s.round) ∨
    ∃ call os, events.filterMap SlotEvent.closing? = [(call, some s'.ranking)] ∧
      s'.ranking = .ofOutcomes s.network os moment (s.round + 1) ∧ s'.round = s.round + 1 := by
  cases h with
  | idle => exact .inl ⟨fun _ => rfl, rfl, rfl⟩
  | takeUp hr hw =>
    refine .inl ⟨fun n => ?_, rfl, rfl⟩
    simp [List.filterMap_map, Function.comp_def, SlotEvent.closing?]
  | settle hr hp ho => exact .inl ⟨fun _ => rfl, rfl, rfl⟩
  | crash hr hp ho => exact .inl ⟨fun _ => rfl, rfl, rfl⟩
  | publish hr ho => exact .inr ⟨_, _, rfl, rfl, rfl⟩

theorem Slot.Turn.published_elsewhere {probe : Prober} {limit now : Nat} {moment : Moment}
    {s s' : Slot} {m : SlotMove} {events : List SlotEvent} {n : NetworkId}
    (h : s.Turn probe limit now moment m s' events) (hn : s.network ≠ n) :
    (events.filterMap SlotEvent.closing?).filterMap (Watch.publication? n) = [] := by
  rcases h.published with ⟨hevents, -⟩ | ⟨call, os, hevents, hranking, -⟩
  · exact hevents n
  · have hother : ¬s'.ranking.network = n := by
      rw [hranking]
      exact hn
    rw [hevents]
    simp [Watch.publication?, hother]

namespace Relay

variable {env : Surroundings} {r r₁ r₂ : Relay} {a : Action} {n : NetworkId} {w : Watch}
  {es : List Endpoint} {urgent : Move → Prop} {steps : List Step} {c : Config} {registry : Registry}

/-- An action publishes nothing for a network and leaves its ranking, or publishes its next ranking.
-/
theorem Change.published (h : Change env r a w) (n : NetworkId) :
    (w.published n = r.watch.published n ∧ w.shown n = r.watch.shown n) ∨
    ∃ call os ranking round, r.watch.shown n = some (ranking, round) ∧
      w.published n = r.watch.published n ++ [(call, .ofOutcomes n os r.moment (round + 1))] ∧
      w.shown n = some (.ofOutcomes n os r.moment (round + 1), round + 1) := by
  cases h with
  | quiet slots results =>
    refine .inl ⟨by rw [Watch.published, results, Watch.published], ?_⟩
    rw [Watch.shown, Watch.slot?, slots, Watch.shown, Watch.slot?]
  | enqueue hs => exact .inl ⟨rfl, Watch.shown_modify (·.enqueue _) (fun _ => ⟨rfl, rfl, rfl⟩) _⟩
  | wake => exact .inl ⟨rfl, Watch.shown_wake⟩
  | abandon k call =>
    exact .inl ⟨rfl, Watch.shown_modify (·.abandon call) (fun _ => ⟨rfl, rfl, rfl⟩) _⟩
  | @turn k m s s' events w hs ht slots results =>
    have hpub := Watch.published_of_results (n := n) results
    have hshown : w.shown n = if n = k then some (s'.ranking, s'.round) else r.watch.shown n := by
      rw [Watch.shown, Watch.slot?_of_turn hs ht slots]
      split <;> rfl
    by_cases hn : n = k
    · subst hn
      have hold : r.watch.shown n = some (s.ranking, s.round) := by
        rw [Watch.shown, hs]
        rfl
      rw [if_pos rfl] at hshown
      rcases ht.published with ⟨hevents, hranking, hround⟩ | ⟨call, os, hevents, hranking, hround⟩
      · rw [hevents, List.append_nil] at hpub
        rw [hranking, hround, ← hold] at hshown
        exact .inl ⟨hpub, hshown⟩
      · rw [Watch.network_of_slot? hs] at hranking
        rw [hevents, hranking] at hpub
        rw [hranking, hround] at hshown
        refine .inr ⟨call, os, s.ranking, s.round, hold, hpub.trans ?_, hshown⟩
        simp [Watch.publication?, Ranking.ofOutcomes]
    · have hk : s.network ≠ n := by
        rw [Watch.network_of_slot? hs]
        exact Ne.symm hn
      rw [if_neg hn] at hshown
      rw [ht.published_elsewhere hk, List.append_nil] at hpub
      exact .inl ⟨hpub, hshown⟩

/-- What the clock and the calls of a network leave of its rounds: numbers from one on, and the last
ranking as the current one. -/
structure Numbered (n : NetworkId) (es : List Endpoint) (r : Relay) : Prop where
  shown : r.watch.shown n = some
    (((r.watch.published n).getLast?.map (·.2)).getD (.unprobed n es), (r.watch.published n).length)
  rounds : (r.watch.published n).map (·.2.round) = List.range' 1 (r.watch.published n).length
  moments : ∃ times : List Nat, times.Pairwise (· ≤ ·) ∧ (∀ t ∈ times, t ≤ r.clock) ∧
    (r.watch.published n).map (·.2.refreshedAt) =
      times.map fun t => some (r.settings.epoch.after t)

theorem new_published (c : Config) (registry : Registry) (epoch : Moment) (n : NetworkId) :
    (Relay.new c registry epoch).watch.published n = [] := rfl

theorem new_numbered (hb : registry.Built) (hes : registry.endpoints? n = some es)
    (epoch : Moment) : (Relay.new c registry epoch).Numbered n es where
  shown := by
    have hr : Reachable c registry (.new c registry epoch) := ⟨epoch, [], .nil _⟩
    obtain ⟨s, hs, hse⟩ := hr.slot hb hes
    obtain ⟨p, _, rfl⟩ := List.mem_map.mp (Watch.mem_of_slot? hs)
    have hn := Watch.network_of_slot? hs
    rw [Watch.shown, hs, new_published]
    simp only [Slot.new] at hse hn ⊢
    rw [hn, hse]
    rfl
  rounds := rfl
  moments := ⟨[], .nil, by simp, rfl⟩

theorem Numbered.act (h : r.Numbered n es) (hp : r.Permits urgent a) :
    (r.act env a).Numbered n es := by
  obtain ⟨hshown, hrounds, times, hsorted, hpast, htimes⟩ := h
  have hclock := clock_le_act env hp
  -- Either nothing but the clock goes on, or there is one more round, at this time.
  rcases (act_watch env r a).published n with
    ⟨hpub, hsame⟩ | ⟨call, os, ranking, round, hold, hpub, hnew⟩
  · refine ⟨by rw [hsame, hpub, hshown], by rw [hpub, hrounds], times, hsorted, ?_, ?_⟩
    · exact fun t ht => Nat.le_trans (hpast t ht) hclock
    · rw [hpub, act_settings, htimes]
  · rw [hshown] at hold
    cases hold
    refine ⟨?_, ?_, times ++ [r.clock], ?_, ?_, ?_⟩
    · rw [hnew, hpub]
      simp
    · rw [hpub, List.map_append, hrounds, List.length_append, List.length_singleton,
        List.range'_1_concat, Nat.add_comm 1]
      rfl
    · rw [List.pairwise_append]
      exact ⟨hsorted, List.pairwise_singleton _ _, by simpa using hpast⟩
    · intro t ht
      rcases List.mem_append.mp ht with ht | ht
      · exact Nat.le_trans (hpast t ht) hclock
      · rw [List.mem_singleton.mp ht]
        exact hclock
    · rw [hpub, List.map_append, List.map_append, htimes, act_settings]
      rfl

theorem Reachable.numbered (hb : registry.Built) (hes : registry.endpoints? n = some es)
    (hr : Reachable c registry r) : r.Numbered n es :=
  hr.keeps (new_numbered hb hes) fun _ _ h hp => h.act hp

theorem published_run (h : Run urgent r₁ steps r₂) (n : NetworkId) :
    r₁.watch.published n <+: r₂.watch.published n := by
  induction h with
  | nil => exact List.prefix_refl _
  | @cons r _ s _ _ _ ih =>
    refine List.IsPrefix.trans ?_ ih
    rcases (act_watch s.env r s.action).published n with ⟨hpub, _⟩ | ⟨_, _, _, _, _, hpub, _⟩
    · exact hpub ▸ List.prefix_refl _
    · rw [hpub]
      exact List.prefix_append _ _

theorem Change.nextCall_le (h : Change env r a w) : r.watch.nextCall ≤ w.nextCall := by
  cases h with
  | quiet slots results nextCall => exact Nat.le_of_eq nextCall.symm
  | enqueue => exact Nat.le_succ _
  | wake => exact Nat.le_add_right _ _
  | abandon => exact Nat.le_refl _
  | turn hs ht slots results nextCall => exact Nat.le_of_eq nextCall.symm

theorem Change.holds (h : Change env r a w) {call : CallId} (hcall : call < r.watch.nextCall)
    (hw : w.Holds n call) : r.watch.Holds n call := by
  obtain ⟨s', hs', hmem⟩ := hw
  cases hs : r.watch.slot? n with
  | none =>
    rw [h.slot?_none hs] at hs'
    cases hs'
  | some s =>
    obtain ⟨s₁, hs₁, hchange⟩ := h.slot? hs
    rw [hs₁] at hs'
    cases hs'
    refine ⟨s, hs, ?_⟩
    cases hchange with
    | keep => exact hmem
    | enqueue hnew =>
      rw [Slot.calls_enqueue, List.mem_append, List.mem_singleton] at hmem
      rcases hmem with hmem | rfl
      · exact hmem
      · exact absurd hcall (Nat.not_lt.mpr hnew)
    | abandon =>
      rw [Slot.calls_abandon] at hmem
      exact (List.mem_filter.mp hmem).1
    | turn _ ht =>
      rw [ht.calls]
      exact List.mem_append_right _ hmem

/-- Whether a call is known, is at no other network's slot, and has not published for another. -/
structure Homed (n : NetworkId) (call : CallId) (w : Watch) : Prop where
  known : call < w.nextCall
  held : ∀ k, w.Holds k call → k = n
  published : ∀ ranking, (call, some ranking) ∈ w.results → ranking.network = n

theorem Change.homed (h : Change env r a w) {call : CallId} (hh : Homed n call r.watch) :
    Homed n call w := by
  refine ⟨Nat.lt_of_lt_of_le hh.known h.nextCall_le,
    fun k hk => hh.held k (h.holds hh.known hk), ?_⟩
  intro ranking hmem
  cases h with
  | quiet slots results => exact hh.published ranking (results ▸ hmem)
  | enqueue => exact hh.published ranking hmem
  | wake => exact hh.published ranking hmem
  | abandon => exact hh.published ranking hmem
  | @turn k m s s' events w hs ht slots results =>
    rw [results, List.mem_append, List.mem_reverse] at hmem
    rcases hmem with hmem | hmem
    · have hcall : call ∈ s.calls := by
        rw [ht.calls]
        exact List.mem_append_left _ (List.mem_map_of_mem hmem)
      rw [← hh.held k ⟨s, hs, hcall⟩, ← Watch.network_of_slot? hs]
      rcases ht.published with ⟨hnone, _, _⟩ | ⟨_, _, hevents, hranking, _⟩
      · have hpub : (call, ranking) ∈
            (events.filterMap SlotEvent.closing?).filterMap (Watch.publication? ranking.network) :=
          List.mem_filterMap.mpr ⟨_, hmem, if_pos rfl⟩
        rw [hnone] at hpub
        cases hpub
      · rw [hevents] at hmem
        cases List.mem_singleton.mp hmem
        rw [hranking]
        rfl
    · exact hh.published ranking hmem

theorem Reachable.homed (hr : Reachable c registry r) {call : CallId}
    (hcall : r.watch.Holds n call) : Homed n call r.watch where
  known := hr.distinct.known n call hcall
  held k hk := hr.distinct.apart k n call hk hcall
  published ranking hmem := by
    exact absurd (List.mem_map_of_mem hmem) (hr.distinct.pending n call hcall)

theorem homed_run (h : Run urgent r₁ steps r₂) {call : CallId} (hh : Homed n call r₁.watch) :
    Homed n call r₂.watch := by
  induction h with
  | nil => exact hh
  | @cons r _ s _ _ _ ih => exact ih ((act_watch s.env r s.action).homed hh)

/-- The probes of a network that are in flight are those of one call. Its calls that have published
did so with rounds 1, 2, 3 and so on, at times that do not decrease, and the network's ranking is
what the last of them has returned. A call at the network that publishes later is one of them. -/
theorem rounds_numbered (hb : registry.Built) (hr : Reachable c registry r₁)
    (hes : registry.endpoints? n = some es) (hrun : Run urgent r₁ steps r₂) :
    (∀ p ∈ r₁.watch.inFlight n, ∀ q ∈ r₁.watch.inFlight n, p.1 = q.1) ∧
    (∀ k call ranking, (r₁.watch.published n)[k]? = some (call, ranking) →
      ranking.round = k + 1 ∧ r₁.watch.result? call = some (some ranking)) ∧
    ((r₁.watch.published n).map (·.1)).Nodup ∧
    r₁.watch.ranking n =
      .ok (((r₁.watch.published n).getLast?.map (·.2)).getD (.unprobed n es)) ∧
    (r₁.watch.published n).Pairwise (fun p q => ∃ a b : Moment,
      p.2.refreshedAt = some a ∧ q.2.refreshedAt = some b ∧ a ≤ b) ∧
    r₁.watch.published n <+: r₂.watch.published n ∧
    ∀ call ranking, r₁.watch.Holds n call → r₂.watch.result? call = some (some ranking) →
      (call, ranking) ∈ r₂.watch.published n := by
  obtain ⟨hshown, hrounds, times, hsorted, _, htimes⟩ := hr.numbered hb hes
  refine ⟨fun p hp q hq => ?_, ?_, ?_, ?_, ?_, published_run hrun n, ?_⟩
  · have hn := hr.nodup_networks hb
    exact Option.some.inj
      ((Watch.holder?_of_inFlight hn hp).symm.trans (Watch.holder?_of_inFlight hn hq))
  · intro k call ranking hk
    have hlt := (List.getElem?_eq_some_iff.mp hk).1
    constructor
    · have hround := congrArg (·[k]?) hrounds
      simp only [List.getElem?_map, hk, Option.map_some, List.getElem?_range', hlt] at hround
      have := Option.some.inj hround
      omega
    · have hmem := Watch.mem_published.mp (List.mem_of_getElem? hk)
      exact Watch.result?_of_mem hr.distinct.closed hmem.1
  · exact Watch.published_calls_sublist.nodup (List.nodup_reverse.mpr hr.distinct.closed)
  · obtain ⟨s, hs, _⟩ := hr.slot hb hes
    rw [Watch.shown, hs, Option.map_some] at hshown
    rw [Watch.ranking, hs]
    exact congrArg _ (congrArg Prod.fst (Option.some.inj hshown))
  · have hpairs : ((r₁.watch.published n).map (·.2.refreshedAt)).Pairwise
        (fun x y => ∃ a b : Moment, x = some a ∧ y = some b ∧ a ≤ b) := by
      rw [htimes, List.pairwise_map]
      exact hsorted.imp fun hle => ⟨_, _, rfl, rfl, Moment.after_le _ hle⟩
    exact List.pairwise_map.mp hpairs
  · intro call ranking hcall hresult
    have hmem := Watch.mem_of_result? hresult
    exact Watch.mem_published.mpr ⟨hmem, (homed_run hrun (hr.homed hcall)).published ranking hmem⟩

def second : List Step :=
  [⟨uneven, .wait 65⟩, ⟨uneven, .move (.watch (.slot ⟨1⟩ (.settle 0)))⟩,
    ⟨uneven, .move (.watch (.slot ⟨1⟩ (.settle 1)))⟩, ⟨uneven, .move (.watch (.slot ⟨1⟩ .publish))⟩]

theorem rounds_numbered_overlapping :
    ∃ (r₁ r₂ : Relay) (ranking : Ranking), (r₁.watch.inFlight ⟨1⟩).map (·.1) = [1, 1] ∧
      (r₁.watch.published ⟨1⟩).map (·.1) = [0] ∧
      r₂.watch.result? 1 = some (some ranking) ∧ (1, ranking) ∈ r₂.watch.published ⟨1⟩ ∧
      r₁.watch.published ⟨1⟩ <+: r₂.watch.published ⟨1⟩ := by
  let r₁ := (Relay.new (.withNetworks []) .loopback ⟨0, 0⟩).after overlapping
  have hr : Reachable (.withNetworks []) .loopback r₁ := ⟨⟨0, 0⟩, _, overlapping_run⟩
  have hrun : Run (fun _ => False) r₁ second (r₁.after second) := run_after (by decide +kernel)
  obtain ⟨-, -, -, -, -, hgrows, hpub⟩ :=
    rounds_numbered (n := ⟨1⟩) Registry.loopback_built hr rfl hrun
  have hsome : ((r₁.after second).watch.result? 1).join.isSome = true := by decide +kernel
  obtain ⟨ranking, hjoin⟩ := Option.isSome_iff_exists.mp hsome
  have hresult := Option.join_eq_some_iff.mp hjoin
  have hcalls : (r₁.watch.slot? ⟨1⟩).map Slot.calls = some [1] := by decide +kernel
  obtain ⟨s, hs, hcall⟩ := Option.map_eq_some_iff.mp hcalls
  have hheld : r₁.watch.Holds ⟨1⟩ 1 := ⟨s, hs, hcall ▸ List.mem_singleton_self 1⟩
  exact ⟨r₁, r₁.after second, ranking, by decide +kernel, by decide +kernel, hresult,
    hpub 1 ranking hheld hresult, hgrows⟩

end Relay

end RankedRelay
