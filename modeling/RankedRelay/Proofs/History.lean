import RankedRelay.Proofs.Rounds
import RankedRelay.Proofs.Scheduler
import RankedRelay.Proofs.Visits

namespace RankedRelay

namespace Slot

/-- What happens at a slot, and to which call. -/
inductive Act where
  | comes (call : CallId)
  | leaves (call : CallId)
  | turn (call : CallId) (probe : Prober) (now : Nat) (m : SlotMove)

def Act.call : Act → CallId
  | comes call | leaves call | turn call _ _ _ => call

def undergo (limit : Nat) (epoch : Moment) (s : Slot) : Act → Slot × List (CallId × CallResult)
  | .comes call => (s.enqueue call, [])
  | .leaves call => (s.abandon call, [])
  | .turn _ probe now m =>
    let (s', events) := s.apply probe limit now (epoch.after now) m
    (s', events.filterMap SlotEvent.closing?)

/-- A call that leaves has to be there. A move has to be due, and is one for the first call. -/
def Allows (s : Slot) : Act → Prop
  | .comes _ => True
  | .leaves call => call ∈ s.calls
  | .turn call _ now m => s.calls.head? = some call ∧ ∃ due ≤ now, (due, m) ∈ s.moves

/-- What can happen at a slot one after the other, what it makes of the slot, and which calls are
over with it. -/
inductive History (limit : Nat) (epoch : Moment) :
    Slot → List Act → Slot → List (CallId × CallResult) → Prop
  | nil (s : Slot) : History limit epoch s [] s []
  | cons {s s' : Slot} (a : Act) {acts : List Act} {closed : List (CallId × CallResult)}
      (allowed : s.Allows a)
      (rest : History limit epoch (s.undergo limit epoch a).1 acts s' closed) :
      History limit epoch s (a :: acts) s' ((s.undergo limit epoch a).2 ++ closed)

variable {probe : Prober} {limit now : Nat} {moment epoch : Moment} {s s' s'' : Slot} {m : SlotMove}
  {events : List SlotEvent} {a : Act} {acts acts' : List Act}
  {closed closed' : List (CallId × CallResult)} {call other : CallId}

theorem History.append (h : History limit epoch s acts s' closed)
    (h' : History limit epoch s' acts' s'' closed') :
    History limit epoch s (acts ++ acts') s'' (closed ++ closed') := by
  induction h with
  | nil => exact h'
  | cons a allowed _ ih =>
    rw [List.cons_append, List.append_assoc]
    exact .cons a allowed (ih h')

theorem History.single (h : s.Allows a) :
    History limit epoch s [a] (s.undergo limit epoch a).1 (s.undergo limit epoch a).2 := by
  have hcons := History.cons a h (.nil (s.undergo limit epoch a).1)
  rwa [List.append_nil] at hcons

theorem head?_calls_iff : s.calls.head? = some call ↔
    (∃ refresh, s.running = some refresh ∧ refresh.call = call) ∨
      s.running = none ∧ s.waiting.head? = some call := by
  cases hr : s.running <;> simp [calls, hr]

theorem exists_first {due : Nat} (h : (due, m) ∈ s.moves) : ∃ call, s.calls.head? = some call := by
  cases hcalls : s.calls with
  | nil =>
    obtain ⟨hr, hw⟩ := calls_eq_nil_iff.mp hcalls
    simp [moves, hr, hw] at h
  | cons call rest => exact ⟨call, rfl⟩

theorem Turn.running (h : s.Turn probe limit now moment m s' events)
    (hcall : call ∈ (events.filterMap SlotEvent.closing?).map (·.1)) :
    s.running.map (·.call) = some call := by
  cases h with
  | idle => cases hcall
  | takeUp => simp [List.filterMap_map, Function.comp_def, SlotEvent.closing?] at hcall
  | settle => cases hcall
  | crash hr =>
    cases List.mem_singleton.mp hcall
    rw [hr, Option.map_some]
  | publish hr =>
    cases List.mem_singleton.mp hcall
    rw [hr, Option.map_some]

theorem Allows.over (h : s.Allows a) {p : CallId × CallResult}
    (hp : p ∈ (s.undergo limit epoch a).2) : p.1 = a.call := by
  cases a with
  | comes call => cases hp
  | leaves call => cases hp
  | turn call probe now m =>
    have hrunning := (apply_turn probe limit now (epoch.after now) s m).running
      (List.mem_map_of_mem hp)
    have hfirst := head?_calls_iff.mpr (.inl (Option.map_eq_some_iff.mp hrunning))
    exact Option.some.inj (hfirst.symm.trans h.1)

theorem Allows.held (h : s.Allows a) :
    a.call ∈ s.calls ∨ a.call ∈ (s.undergo limit epoch a).1.calls := by
  cases a with
  | comes call =>
    refine .inr ?_
    rw [undergo, calls_enqueue]
    exact List.mem_append_right _ (List.mem_singleton_self call)
  | leaves call => exact .inl h
  | turn call probe now m => exact .inl (List.mem_of_mem_head? h.1)

theorem undergo_running {refresh refresh' : Refresh} (hr : s.running = some refresh)
    (hr' : (s.undergo limit epoch a).1.running = some refresh') : refresh'.call = refresh.call := by
  cases a with
  | comes call =>
    cases hr.symm.trans hr'
    rfl
  | leaves call =>
    have hkept := (Option.filter_eq_some_iff.mp hr').1
    cases hr.symm.trans hkept
    rfl
  | turn call probe now m =>
    have ht := apply_turn probe limit now (epoch.after now) s m
    simp only [undergo] at hr'
    generalize s.apply probe limit now (epoch.after now) m = out at ht hr'
    obtain ⟨s', events⟩ := out
    cases ht with
    | idle =>
      cases hr.symm.trans hr'
      rfl
    | takeUp hnone => simp [hr] at hnone
    | settle hrunning =>
      cases hr.symm.trans hrunning
      cases hr'
      rfl
    | crash => cases hr'
    | publish => cases hr'

theorem abandon_enqueue_self (s : Slot) (call : CallId) :
    (s.enqueue call).abandon call = s.abandon call := by
  simp [abandon, enqueue]

theorem abandon_enqueue (hne : other ≠ call) :
    (s.abandon call).enqueue other = (s.enqueue other).abandon call := by
  simp [abandon, enqueue, hne]

theorem abandon_abandon_self (s : Slot) (call : CallId) :
    (s.abandon call).abandon call = s.abandon call :=
  Relay.abandon_eq_self (by simp [calls_abandon])

theorem abandon_abandon (s : Slot) (call other : CallId) :
    (s.abandon call).abandon other = (s.abandon other).abandon call := by
  simp only [abandon, Option.filter_filter, List.filter_filter, Bool.and_comm]

theorem abandon_eq_of_first (h : s.calls.head? = some other) (hne : other ≠ call) :
    s.abandon call = { s with waiting := s.waiting.filter (· != call) } := by
  obtain ⟨refresh, hr, rfl⟩ | ⟨hr, -⟩ := head?_calls_iff.mp h
  · simp [abandon, hr, hne]
  · simp [abandon, hr]

theorem first_abandon (h : s.calls.head? = some other) (hne : other ≠ call) :
    (s.abandon call).calls.head? = some other := by
  obtain ⟨rest, hrest⟩ := List.head?_eq_some_iff.mp h
  rw [calls_abandon, hrest, List.filter_cons_of_pos (by simpa using hne)]
  rfl

theorem moves_abandon (h : s.calls.head? = some other) (hne : other ≠ call) :
    (s.abandon call).moves = s.moves := by
  rw [abandon_eq_of_first h hne]
  obtain ⟨refresh, hr, -⟩ | ⟨hr, hw⟩ := head?_calls_iff.mp h
  · simp [moves, hr]
  · obtain ⟨rest, hrest⟩ := List.head?_eq_some_iff.mp hw
    simp [moves, hr, hrest, hne]

theorem apply_abandon (h : s.calls.head? = some other) (hne : other ≠ call) (m : SlotMove) :
    (s.abandon call).apply probe limit now moment m =
      ((s.apply probe limit now moment m).1.abandon call,
        (s.apply probe limit now moment m).2) := by
  rw [abandon_eq_of_first h hne]
  -- A refresh that is running never looks at the queue, and a free slot only at its front.
  obtain ⟨refresh, hr, rfl⟩ | ⟨hr, hw⟩ := head?_calls_iff.mp h
  · cases m with
    | takeUp => simp [apply, Slot.takeUp, hr, abandon, Option.filter_some, hne]
    | settle i =>
      simp only [apply, Slot.settle, hr]
      split
      · split <;> simp [abandon, Option.filter_some, hne]
      · simp [abandon, hr, Option.filter_some, hne]
    | publish =>
      simp only [apply, Slot.publish, hr]
      split <;> simp [abandon, hr, Option.filter_some, hne]
  · obtain ⟨rest, hrest⟩ := List.head?_eq_some_iff.mp hw
    cases m with
    | takeUp => simp [apply, Slot.takeUp, hr, hrest, abandon, Option.filter_some, hne]
    | settle i => simp [apply, Slot.settle, hr, abandon]
    | publish => simp [apply, Slot.publish, hr, abandon]

theorem Allows.without (limit : Nat) (epoch : Moment) (h : s.Allows a) (hne : a.call ≠ call) :
    (s.abandon call).Allows a ∧
      (s.abandon call).undergo limit epoch a =
        ((s.undergo limit epoch a).1.abandon call, (s.undergo limit epoch a).2) := by
  cases a with
  | comes other => exact ⟨trivial, congrArg (·, []) (abandon_enqueue hne)⟩
  | leaves other =>
    refine ⟨?_, by rw [undergo, undergo, abandon_abandon]⟩
    rw [Allows, calls_abandon, List.mem_filter]
    exact ⟨h, bne_iff_ne.mpr hne⟩
  | turn other probe now m =>
    obtain ⟨hfirst, due, hle, hm⟩ := h
    refine ⟨⟨first_abandon hfirst hne, due, hle, moves_abandon hfirst hne ▸ hm⟩, ?_⟩
    simp only [undergo, apply_abandon hfirst hne]

theorem Turn.abandon_first (h : s.Turn probe limit now moment m s' events)
    (hfirst : s.calls.head? = some call)
    (hfails : ∀ ranking, (call, some ranking) ∉ events.filterMap SlotEvent.closing?) :
    s'.abandon call = s.abandon call := by
  cases h with
  | idle => rfl
  | takeUp hr hw =>
    simp only [Slot.calls, hr, hw] at hfirst
    cases hfirst
    simp [abandon, hr, hw]
  | settle hr =>
    simp only [Slot.calls, hr] at hfirst
    cases hfirst
    simp [abandon, hr, Option.filter_some]
  | crash hr =>
    simp only [Slot.calls, hr] at hfirst
    cases hfirst
    simp [abandon, hr, Option.filter_some]
  | publish hr =>
    simp only [Slot.calls, hr] at hfirst
    cases hfirst
    exact absurd (List.mem_singleton_self _) (hfails _)

theorem Allows.own (h : s.Allows a)
    (hfails : ∀ ranking, (a.call, some ranking) ∉ (s.undergo limit epoch a).2) :
    (s.undergo limit epoch a).1.abandon a.call = s.abandon a.call := by
  cases a with
  | comes call => exact abandon_enqueue_self s call
  | leaves call => exact abandon_abandon_self s call
  | turn call probe now m => exact (apply_turn _ _ _ _ s m).abandon_first h.1 hfails

/-- A history goes the same way without a call that does not publish: the other calls meet with the
same, and the slot is the same up to that call. -/
theorem History.without (h : History limit epoch s acts s' closed)
    (hfails : ∀ ranking, (call, some ranking) ∉ closed) :
    History limit epoch (s.abandon call) (acts.filter (·.call != call)) (s'.abandon call)
      (closed.filter (·.1 != call)) := by
  -- Along the history, whose acts either fall away with the call or are the same without it.
  induction h with
  | nil => exact .nil _
  | @cons s s' a acts closed allowed _ ih =>
    have hrest := ih fun ranking hmem => hfails ranking (List.mem_append_right _ hmem)
    have hover : ∀ p ∈ (s.undergo limit epoch a).2, p.1 = a.call := fun p hp => allowed.over hp
    by_cases hcall : a.call = call
    · have hnone : (s.undergo limit epoch a).2.filter (·.1 != call) = [] :=
        List.filter_eq_nil_iff.mpr fun p hp => by simp [hover p hp, hcall]
      have hown := allowed.own fun ranking hmem =>
        hfails ranking (List.mem_append_left _ (hcall ▸ hmem))
      rw [hcall] at hown
      rw [hown] at hrest
      rwa [List.filter_cons_of_neg (by simpa using hcall), List.filter_append, hnone,
        List.nil_append]
    · have hall : (s.undergo limit epoch a).2.filter (·.1 != call) =
          (s.undergo limit epoch a).2 :=
        List.filter_eq_self.mpr fun p hp => by simp [hover p hp, hcall]
      obtain ⟨hallowed, hsame⟩ := allowed.without limit epoch hcall
      rw [List.filter_cons_of_pos (by simpa using hcall), List.filter_append, hall]
      have hcons : History limit epoch (s.abandon call) (a :: acts.filter (·.call != call))
          (s'.abandon call) _ := .cons a hallowed (by rwa [hsame])
      rwa [hsame] at hcons

end Slot

namespace Relay

def actAt? (n : NetworkId) (r : Relay) (st : Step) : Option Slot.Act :=
  match st.action with
  | .move (.watch (.slot k m)) =>
    if k = n then
      ((r.watch.slot? n).bind (·.calls.head?)).map fun call => .turn call st.env.probe r.clock m
    else none
  | a =>
    match a.leaver? r n with
    | some call => some (.leaves call)
    | none => (a.visitor? r n).map .comes

def actsAt (n : NetworkId) (r : Relay) : List Step → List Slot.Act
  | [] => []
  | st :: rest => (r.actAt? n st).toList ++ (r.act st.env st.action).actsAt n rest

variable {env : Surroundings} {urgent : Move → Prop} {r r' r₁ r₂ : Relay} {n : NetworkId}
  {s s' s'' : Slot} {st : Step} {steps : List Step} {acts acts' : List Slot.Act}
  {closed closed' : List (CallId × CallResult)}

/-- Whether the slot of a network has undergone some acts between two relays, and which calls were
over with them. These are booked, and nothing else has been published for the network meanwhile. -/
structure Undergoes (n : NetworkId) (r r' : Relay) (acts : List Slot.Act) (s s' : Slot)
    (closed : List (CallId × CallResult)) : Prop where
  slot : r'.watch.slot? n = some s'
  history : s.History r.settings.probeTimeout r.settings.epoch acts s' closed
  booked : ∀ p ∈ closed, p ∈ r'.watch.results
  published : r'.watch.published n =
    r.watch.published n ++ closed.filterMap (Watch.publication? n)

theorem Undergoes.append (h : Undergoes n r r₁ acts s s' closed)
    (hsettings : r₁.settings = r.settings) (hkept : r₁.watch.results <:+ r₂.watch.results)
    (h' : Undergoes n r₁ r₂ acts' s' s'' closed') :
    Undergoes n r r₂ (acts ++ acts') s s'' (closed ++ closed') where
  slot := h'.slot
  history := h.history.append (hsettings ▸ h'.history)
  booked p hp := (List.mem_append.mp hp).elim (fun hp => hkept.subset (h.booked p hp)) (h'.booked p)
  published := by
    rw [h'.published, h.published, List.filterMap_append, List.append_assoc]

theorem results_run (h : Run urgent r₁ steps r₂) : r₁.watch.results <:+ r₂.watch.results := by
  induction h with
  | nil => exact List.suffix_refl _
  | @cons r _ st _ _ _ ih => exact (act_watch st.env r st.action).results.trans ih

theorem published_aside {a : Action} (ha : ∀ m, a ≠ .move (.watch (.slot n m))) :
    (r.act env a).watch.published n = r.watch.published n := by
  have hchange := act_watch env r a
  generalize (r.act env a).watch = w at hchange
  cases hchange with
  | quiet slots results => rw [Watch.published, results, Watch.published]
  | enqueue => rfl
  | wake => rfl
  | abandon => rfl
  | @turn k m s s' events w hs ht slots results =>
    have hne : s.network ≠ n := by
      rw [Watch.network_of_slot? hs]
      rintro rfl
      exact ha m rfl
    rw [Watch.published_of_results results, ht.published_elsewhere hne, List.append_nil]

theorem undergoes_slot (hn : r.watch.networks.Nodup) (hs : r.watch.slot? n = some s)
    {m : SlotMove} (hp : r.Permits urgent (.move (.watch (.slot n m)))) :
    ∃ s' closed, Undergoes n r (r.act env (.move (.watch (.slot n m))))
      (r.actAt? n ⟨env, .move (.watch (.slot n m))⟩).toList s s' closed := by
  obtain ⟨due, hle, hmem⟩ := hp
  have hm := slot_of_mem_moves hn hs hmem
  obtain ⟨call, hfirst⟩ := Slot.exists_first hm
  obtain ⟨hslot, hresults, -⟩ := act_slot env hs (m := m) rfl
  have hact : r.actAt? n ⟨env, .move (.watch (.slot n m))⟩ =
      some (.turn call env.probe r.clock m) := by
    simp [actAt?, hs, hfirst]
  rw [hact]
  refine ⟨_, _, hslot, .single ⟨hfirst, due, hle, hm⟩, ?_, Watch.published_of_results hresults⟩
  intro p hp
  rw [hresults]
  exact List.mem_append_left _ (List.mem_reverse.mpr hp)

/-- A slot undergoes what the steps of a run do there. -/
theorem undergoes_act (hn : r.watch.networks.Nodup) (hs : r.watch.slot? n = some s)
    (hp : r.Permits urgent st.action) :
    ∃ s' closed, Undergoes n r (r.act st.env st.action) (r.actAt? n st).toList s s' closed := by
  obtain ⟨env, a⟩ := st
  by_cases ha : ∃ m, a = .move (.watch (.slot n m))
  · obtain ⟨m, rfl⟩ := ha
    exact undergoes_slot hn hs hp
  -- Nothing but a move of the slot ends a call there.
  · have hpub : (r.act env a).watch.published n = r.watch.published n ++ [] := by
      rw [published_aside (not_exists.mp ha), List.append_nil]
    have hact : r.actAt? n ⟨env, a⟩ =
        match a.leaver? r n with
        | some call => some (.leaves call)
        | none => (a.visitor? r n).map .comes := by
      simp only [actAt?]
      split
      · rename_i k m
        rw [if_neg fun hk : k = n => ha ⟨m, by rw [hk]⟩]
        rfl
      · rfl
    obtain ⟨s', events, hseen⟩ := seen env hs a
    have hstep := hseen.step
    refine ⟨s', [], hseen.slot, ?_, by simp, hpub⟩
    rw [hact]
    cases hstep with
    | aside hcomes hleaves =>
      rw [hleaves, hcomes]
      exact .nil s
    | comes hcomes hleaves =>
      rw [hleaves, hcomes]
      exact .single trivial
    | @leaves call hheld =>
      have hleaves : (Action.abandon n call).leaver? r n = some call := by
        simp [Action.leaver?, hs, hheld]
      rw [hleaves]
      exact .single hheld
    | @turn m => exact absurd ⟨m, rfl⟩ ha

theorem undergoes_run {c : Config} {registry : Registry} (hb : registry.Built)
    (hr : Reachable c registry r₁) (hs : r₁.watch.slot? n = some s)
    (hrun : Run urgent r₁ steps r₂) :
    ∃ s' closed, Undergoes n r₁ r₂ (r₁.actsAt n steps) s s' closed := by
  induction hrun generalizing s with
  | nil r => exact ⟨s, [], hs, .nil s, by simp, (List.append_nil _).symm⟩
  | @cons r r₂ st rest hp hrest ih =>
    obtain ⟨s', closed, hact⟩ := undergoes_act (hr.nodup_networks hb) hs hp
    obtain ⟨s'', closed', hlater⟩ := ih (hr.run (.single hp)) hact.slot
    exact ⟨s'', closed ++ closed', hact.append (act_settings _ _ _) (results_run hrest) hlater⟩

end Relay

end RankedRelay
