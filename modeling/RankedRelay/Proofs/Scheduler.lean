import RankedRelay.Proofs.Calls

namespace RankedRelay

def Action.ofCaller : Action → Bool
  | .refresh _ | .abandon _ _ => true
  | _ => false

def Action.ofTime : Action → Bool
  | .wait _ | .move (.watch _) => true
  | _ => false

theorem Action.ofCaller_of_ofTime {a : Action} (h : a.ofTime = true) : a.ofCaller = false := by
  cases a <;> first | rfl | cases h

def SlotEvent.ended (events : List SlotEvent) : List CallId :=
  (events.filterMap SlotEvent.closing?).map (·.1)

namespace Scheduler

@[simp] theorem start_phase (now : Nat) (s : Scheduler) : (s.start now).phase = s.phase := by
  simp only [start]
  split <;> rfl

@[simp] theorem start_rounds (now : Nat) (s : Scheduler) : (s.start now).rounds = s.rounds := by
  simp only [start]
  split <;> rfl

@[simp] theorem start_pending (now : Nat) (s : Scheduler) : (s.start now).pending = s.pending := by
  simp only [start]
  split <;> rfl

@[simp] theorem start_cancelled (now : Nat) (s : Scheduler) :
    (s.start now).cancelled = s.cancelled := by
  simp only [start]
  split <;> rfl

/-- What may become of the phase of a scheduler and of its count of rounds in a step. -/
inductive Follows (s s' : Scheduler) : Prop
  | stays (phase : s'.phase = s.phase) (rounds : s'.rounds = s.rounds)
  | starts (before : s.phase = .idle) (phase : s'.phase = .scanning) (rounds : s'.rounds = s.rounds)
  | ends (before : s.phase = .scanning) (phase : s'.phase = .idle)
      (rounds : s'.rounds = s.rounds + 1)
  | stops (before : s.phase = .idle) (phase : s'.phase = .terminated)
      (rounds : s'.rounds = s.rounds)

/-- What is due for a scheduler, and when. -/
inductive Due (s : Scheduler) : Nat → SchedulerMove → Prop
  | wake {t : Nat} (phase : s.phase = .idle) (wakeAt : s.wakeAt = some t)
      (cancelled : s.cancelled = false) : Due s t .wake
  | conclude (phase : s.phase = .scanning) (pending : s.pending = []) : Due s 0 .conclude
  | terminate {t : Nat} (phase : s.phase = .idle) (wakeAt : s.wakeAt = some t)
      (cancelled : s.cancelled = true) : Due s 0 .terminate

theorem mem_moves {s : Scheduler} {due : Nat} {m : SchedulerMove} :
    (due, m) ∈ s.moves ↔ s.Due due m := by
  obtain ⟨interval, phase, rounds, wakeAt, pending, cancelled⟩ := s
  constructor
  · intro h
    cases phase with
    | idle =>
      cases wakeAt with
      | none => cases h
      | some t =>
        cases cancelled with
        | true =>
          obtain ⟨rfl, rfl⟩ := Prod.mk.inj (List.mem_singleton.mp h)
          exact .terminate rfl rfl rfl
        | false =>
          obtain ⟨rfl, rfl⟩ := Prod.mk.inj (List.mem_singleton.mp h)
          exact .wake rfl rfl rfl
    | scanning =>
      cases pending with
      | nil =>
        obtain ⟨rfl, rfl⟩ := Prod.mk.inj (List.mem_singleton.mp h)
        exact .conclude rfl rfl
      | cons call rest => cases h
    | terminated => cases h
  · rintro (⟨hphase, hwake, hcancelled⟩ | ⟨hphase, hpending⟩ | ⟨hphase, hwake, hcancelled⟩)
    all_goals simp_all [moves]

end Scheduler

namespace Slot

variable {probe : Prober} {limit now : Nat} {moment : Moment} {s s' : Slot} {m : SlotMove}
  {events : List SlotEvent}

theorem moves_ne_nil (h : s.calls ≠ []) : s.moves ≠ [] := by
  cases hr : s.running with
  | none =>
    have hwaiting : s.waiting ≠ [] := by simpa [calls, hr] using h
    obtain ⟨call, rest, hw⟩ := List.exists_cons_of_ne_nil hwaiting
    rw [moves_waiting hr (by rw [hw]; rfl)]
    exact List.cons_ne_nil _ _
  | some refresh =>
    cases ho : Refresh.outcomes? refresh.probes with
    | none =>
      obtain ⟨i, e, f, hi⟩ := Refresh.exists_inFlight ho
      exact List.ne_nil_of_mem (settle_mem_moves hr ho hi)
    | some outcomes =>
      rw [moves_measured hr (by rw [ho]; rfl)]
      exact List.cons_ne_nil _ _

theorem turn_of_apply (h : s.apply probe limit now moment m = (s', events)) :
    s.Turn probe limit now moment m s' events := by
  have ht := apply_turn probe limit now moment s m
  rwa [h] at ht

theorem total_map (f : Slot → Nat) (g : Slot → Slot) (slots : List Slot) :
    total f (slots.map g) = total (fun s => f (g s)) slots := by
  induction slots with
  | nil => rfl
  | cons s rest ih => rw [List.map_cons, total, ih, total]

theorem total_le_total {f g : Slot → Nat} {slots : List Slot} (h : ∀ s ∈ slots, f s ≤ g s) :
    total f slots ≤ total g slots := by
  induction slots with
  | nil => exact Nat.le_refl _
  | cons s rest ih =>
    have hrest := ih fun s' hs' => h s' (List.mem_cons_of_mem _ hs')
    exact Nat.add_le_add (h s List.mem_cons_self) hrest

theorem total_lt_total {f g : Slot → Nat} {slots : List Slot} (h : ∀ s ∈ slots, f s ≤ g s)
    (hs : s ∈ slots) (hlt : f s < g s) : total f slots < total g slots := by
  induction slots with
  | nil => cases hs
  | cons s₀ rest ih =>
    have hrest : ∀ s' ∈ rest, f s' ≤ g s' := fun s' hs' => h s' (List.mem_cons_of_mem _ hs')
    rcases List.mem_cons.mp hs with rfl | hs
    · exact Nat.add_lt_add_of_lt_of_le hlt (total_le_total hrest)
    · exact Nat.add_lt_add_of_le_of_lt (h s₀ List.mem_cons_self) (ih hrest hs)

def toDo (s : Slot) : Nat :=
  (s.running.elim 0 fun refresh => 1 + refresh.probes.countP (·.2.isInFlight)) +
    s.waiting.length * (s.endpoints.length + 2)

theorem toDo_apply (probe : Prober) (limit now : Nat) (moment : Moment) {due : Nat}
    (h : (due, m) ∈ s.moves) : (s.apply probe limit now moment m).1.toDo < s.toDo := by
  cases hr : s.running with
  | none =>
    cases hw : s.waiting with
    | nil => simp [moves, hr, hw] at h
    | cons call waiting =>
      rw [moves_waiting hr (by rw [hw]; rfl)] at h
      obtain ⟨rfl, rfl⟩ := Prod.mk.inj (List.mem_singleton.mp h)
      have hcount := (Refresh.launched probe limit now s.endpoints).countP_le_length
        (p := (·.2.isInFlight))
      simp only [Refresh.launched, List.length_map] at hcount
      simp only [apply_takeUp hr hw, toDo, hr, hw, Refresh.launched, Option.elim, List.length_cons,
        Nat.add_mul, Nat.one_mul]
      omega
  | some refresh =>
    cases ho : Refresh.outcomes? refresh.probes with
    | none =>
      rw [moves_probing hr ho] at h
      obtain ⟨⟨due', i⟩, hmem, heq⟩ := List.mem_map.mp h
      obtain ⟨rfl, rfl⟩ := Prod.mk.inj heq
      obtain ⟨e, f, hi, -⟩ := Refresh.mem_flights.mp hmem
      cases hf : Refresh.outcome? f with
      | none =>
        have hcrash :
            (s.apply probe limit now moment (.settle i)).1 = { s with running := none } := by
          simp only [apply, Slot.settle, hr, hi, hf]
        simp only [hcrash, toDo, hr, Option.elim]
        omega
      | some outcome =>
        have hcount := Refresh.countP_set_over hi outcome
        simp only [apply_settle hr hi hf, toDo, hr, Option.elim]
        omega
    | some outcomes =>
      rw [moves_measured hr (by rw [ho]; rfl)] at h
      obtain ⟨rfl, rfl⟩ := Prod.mk.inj (List.mem_singleton.mp h)
      simp only [apply_publish hr ho, toDo, hr, Option.elim]
      omega

end Slot

namespace Watch

variable {w : Watch} {n : NetworkId}

theorem foldl_book_scheduler (events : List SlotEvent) (w : Watch) :
    (events.foldl book w).scheduler =
      { w.scheduler with
        pending := w.scheduler.pending.filter (!(SlotEvent.ended events).contains ·) } := by
  induction events generalizing w with
  | nil => simp [SlotEvent.ended]
  | cons e rest ih =>
    rw [List.foldl_cons, ih]
    cases e with
    | probed e => rfl
    | measured e outcome => rfl
    | published call ranking =>
      rw [book, close, Scheduler.joined]
      simp only [List.filter_filter]
      congr 2
      funext call'
      simp [SlotEvent.ended, SlotEvent.closing?, bne, Bool.and_comm]
    | crashed call =>
      rw [book, close, Scheduler.joined]
      simp only [List.filter_filter]
      congr 2
      funext call'
      simp [SlotEvent.ended, SlotEvent.closing?, bne, Bool.and_comm]

/-- Whether a watch has no calls but those of the round, and at most one for each network. -/
structure Orderly (w : Watch) : Prop where
  single : ∀ s ∈ w.slots, s.calls.length ≤ 1
  pending : w.scheduler.pending = w.slots.flatMap Slot.calls
  resting : w.scheduler.phase ≠ .scanning → w.scheduler.pending = []

theorem new_orderly (networks : List (NetworkId × List Endpoint)) (interval : Nat) :
    (new networks interval).Orderly where
  single := by
    intro s hs
    obtain ⟨p, _, rfl⟩ := List.mem_map.mp hs
    exact Nat.zero_le 1
  pending := by simp [new, Scheduler.new, List.flatMap_map, Slot.new, Slot.calls]
  resting _ := rfl

theorem Orderly.mem_pending (h : w.Orderly) (hn : w.networks.Nodup) {call : CallId} :
    call ∈ w.scheduler.pending ↔ ∃ n, w.Holds n call := by
  rw [h.pending, List.mem_flatMap]
  constructor
  · rintro ⟨s, hs, hcall⟩
    exact ⟨s.network, s, slot?_of_mem hn hs, hcall⟩
  · rintro ⟨n, s, hs, hcall⟩
    exact ⟨s, mem_of_slot? hs, hcall⟩

theorem Orderly.calls_nil (h : w.Orderly) (hp : w.scheduler.pending = []) {s : Slot}
    (hs : s ∈ w.slots) : s.calls = [] :=
  List.flatMap_eq_nil_iff.mp (h.pending ▸ hp) s hs

theorem Orderly.congr {w' : Watch} (h : w.Orderly) (slots : w'.slots = w.slots)
    (pending : w'.scheduler.pending = w.scheduler.pending)
    (phase : w'.scheduler.phase ≠ .scanning → w.scheduler.pending = []) : w'.Orderly where
  single := slots ▸ h.single
  pending := by rw [pending, slots, h.pending]
  resting hphase := pending ▸ phase hphase

theorem flatMap_calls_enqueueAll (call : CallId) {slots : List Slot}
    (h : ∀ s ∈ slots, s.calls = []) :
    (enqueueAll call slots).flatMap Slot.calls = List.range' call slots.length ∧
      ∀ s ∈ enqueueAll call slots, s.calls.length ≤ 1 := by
  induction slots generalizing call with
  | nil => simp [enqueueAll]
  | cons s rest ih =>
    obtain ⟨hcalls, hsingle⟩ := ih (call + 1) fun s' h' => h s' (List.mem_cons_of_mem _ h')
    have hs : (s.enqueue call).calls = [call] := by
      rw [Slot.calls_enqueue, h s List.mem_cons_self, List.nil_append]
    constructor
    · rw [enqueueAll, List.flatMap_cons, hs, hcalls, List.length_cons, List.range'_succ]
      rfl
    · intro s' hs'
      rcases List.mem_cons.mp hs' with rfl | hs'
      · rw [hs]
        exact Nat.le_refl 1
      · exact hsingle s' hs'

theorem Orderly.wake (h : w.Orderly) (hphase : w.scheduler.phase ≠ .scanning) :
    w.wake.Orderly := by
  obtain ⟨hcalls, hsingle⟩ := flatMap_calls_enqueueAll w.nextCall fun _ hs =>
    h.calls_nil (h.resting hphase) hs
  exact ⟨hsingle, hcalls.symm, fun hphase => absurd rfl hphase⟩

theorem Orderly.turn {w' : Watch} (h : w.Orderly) (hd : w.Distinct) (hn : w.networks.Nodup)
    {probe : Prober} {limit now : Nat} {moment : Moment} {s s' : Slot} {m : SlotMove}
    {events : List SlotEvent} (hs : w.slot? n = some s)
    (ht : s.Turn probe limit now moment m s' events)
    (slots : w'.slots = (w.modify n fun _ => s').slots)
    (scheduler : w'.scheduler =
      { w.scheduler with
        pending := w.scheduler.pending.filter (!(SlotEvent.ended events).contains ·) }) :
    w'.Orderly := by
  have hcalls : s.calls = SlotEvent.ended events ++ s'.calls := ht.calls
  have hnodup := hd.queues n s hs
  rw [hcalls, List.nodup_append] at hnodup
  refine ⟨?_, ?_, ?_⟩
  · rw [slots]
    intro s₁ hs₁
    obtain ⟨s₀, hs₀, rfl⟩ := List.mem_map.mp hs₁
    dsimp only
    split
    · have hle := h.single s (mem_of_slot? hs)
      rw [hcalls, List.length_append] at hle
      omega
    · exact h.single s₀ hs₀
  · rw [scheduler, slots, h.pending, List.filter_flatMap, modify, List.flatMap_map]
    apply List.flatMap_congr
    intro s₀ hs₀
    by_cases hsn : s₀.network = n
    · have heq := eq_of_mem hn hs hs₀ hsn
      subst heq
      rw [if_pos (beq_iff_eq.mpr hsn), hcalls, List.filter_append]
      have hgone : ∀ call ∈ SlotEvent.ended events,
          ¬(!(SlotEvent.ended events).contains call) = true := by simp
      have hkept : ∀ call ∈ s'.calls, (!(SlotEvent.ended events).contains call) = true := by
        intro call hcall
        rw [Bool.not_eq_true', List.contains_eq_mem, decide_eq_false_iff_not]
        exact fun hmem => hnodup.2.2 call hmem call hcall rfl
      rw [List.filter_eq_nil_iff.mpr hgone, List.filter_eq_self.mpr hkept, List.nil_append]
    · rw [if_neg (by simpa using hsn)]
      apply List.filter_eq_self.mpr
      intro call hcall
      rw [Bool.not_eq_true', List.contains_eq_mem, decide_eq_false_iff_not]
      intro hmem
      have hheld : w.Holds n call := ⟨s, hs, hcalls ▸ List.mem_append_left _ hmem⟩
      exact hsn (hd.apart _ n call ⟨s₀, slot?_of_mem hn hs₀, hcall⟩ hheld)
  · intro hphase
    rw [scheduler] at hphase ⊢
    simp only [h.resting hphase, List.filter_nil]

def toDo (w : Watch) : Nat := Slot.total Slot.toDo w.slots

theorem toDo_modify {s s' : Slot} (hn : w.networks.Nodup) (hs : w.slot? n = some s)
    (h : s'.toDo < s.toDo) : (w.modify n fun _ => s').toDo < w.toDo := by
  rw [toDo, modify, Slot.total_map]
  refine Slot.total_lt_total (fun s₀ hs₀ => ?_) (mem_of_slot? hs) ?_
  · by_cases hsn : s₀.network = n
    · have heq := eq_of_mem hn hs hs₀ hsn
      subst heq
      simp only [hsn, beq_self_eq_true, if_true]
      exact Nat.le_of_lt h
    · have hb : (s₀.network == n) = false := by simpa using hsn
      simp only [hb, Bool.false_eq_true, if_false]
      exact Nat.le_refl _
  · simp only [network_of_slot? hs, beq_self_eq_true, if_true]
    exact h

theorem mem_moves_slot (hn : w.networks.Nodup) {due : Nat} {m : SlotMove} :
    (due, .slot n m) ∈ w.moves ↔ ∃ s, w.slot? n = some s ∧ (due, m) ∈ s.moves := by
  simp only [moves, List.mem_append, List.mem_flatMap, List.mem_map]
  constructor
  · rintro (⟨s, hs, ⟨due', m'⟩, hm, heq⟩ | ⟨_, _, heq⟩)
    · cases heq
      exact ⟨s, slot?_of_mem hn hs, hm⟩
    · cases heq
  · rintro ⟨s, hs, hm⟩
    exact .inl ⟨s, mem_of_slot? hs, (due, m), hm, by rw [network_of_slot? hs]⟩

theorem mem_moves_scheduler {due : Nat} {m : SchedulerMove} :
    (due, .scheduler m) ∈ w.moves ↔ w.scheduler.Due due m := by
  simp [moves, ← Scheduler.mem_moves]

theorem Orderly.moves_ne_nil (h : w.Orderly) (hphase : w.scheduler.phase = .scanning) :
    w.moves ≠ [] := by
  cases hp : w.scheduler.pending with
  | nil => exact List.ne_nil_of_mem (mem_moves_scheduler.mpr (.conclude hphase hp))
  | cons call rest =>
    have hcall : call ∈ w.slots.flatMap Slot.calls := by
      rw [← h.pending, hp]
      exact List.mem_cons_self
    obtain ⟨s, hs, hcall⟩ := List.mem_flatMap.mp hcall
    obtain ⟨m, hm⟩ := List.exists_mem_of_ne_nil _ (Slot.moves_ne_nil (List.ne_nil_of_mem hcall))
    refine List.ne_nil_of_mem (a := (m.1, .slot s.network m.2)) (List.mem_append_left _ ?_)
    exact List.mem_flatMap.mpr ⟨s, hs, List.mem_map.mpr ⟨m, hm, rfl⟩⟩

end Watch

namespace Relay

variable {env : Surroundings} {urgent : Move → Prop} {r r₁ r₂ : Relay} {a : Action} {w : Watch}
  {steps : List Step} {c : Config} {registry : Registry}

/-- What an action makes of the watch of a relay, unless it is one of a caller of refreshes. -/
inductive Beat (env : Surroundings) (r : Relay) : Action → Watch → Prop
  | rest {a : Action} (ha : ∀ m, a ≠ .move (.watch m)) : Beat env r a r.watch
  | start : Beat env r .start { r.watch with scheduler := r.watch.scheduler.start r.clock }
  | cancel : Beat env r .cancel { r.watch with scheduler := r.watch.scheduler.cancel }
  | wake {t : Nat} (due : r.watch.scheduler.Due t .wake) (hle : t ≤ r.clock) :
      Beat env r (.move (.watch (.scheduler .wake))) r.watch.wake
  | conclude (due : r.watch.scheduler.Due 0 .conclude) :
      Beat env r (.move (.watch (.scheduler .conclude)))
        { r.watch with scheduler := r.watch.scheduler.conclude r.clock }
  | terminate (due : r.watch.scheduler.Due 0 .terminate) :
      Beat env r (.move (.watch (.scheduler .terminate)))
        { r.watch with scheduler := r.watch.scheduler.terminate }
  | turn {n : NetworkId} {m : SlotMove} {due : Nat} {s s' : Slot} {events : List SlotEvent}
      {w : Watch} (hs : r.watch.slot? n = some s) (hm : (due, m) ∈ s.moves) (hle : due ≤ r.clock)
      (apply : s.apply env.probe r.settings.probeTimeout r.clock r.moment m = (s', events))
      (slots : w.slots = (r.watch.modify n fun _ => s').slots)
      (scheduler : w.scheduler =
        { r.watch.scheduler with
          pending := r.watch.scheduler.pending.filter (!(SlotEvent.ended events).contains ·) }) :
      Beat env r (.move (.watch (.slot n m))) w

theorem act_beat (env : Surroundings) (hn : r.watch.networks.Nodup) (hp : r.Permits urgent a)
    (ha : a.ofCaller = false) : Beat env r a (r.act env a).watch := by
  cases a with
  | move m =>
    cases m with
    | traffic m => exact .rest (by simp)
    | watch m =>
      obtain ⟨due, hle, hmem⟩ := hp
      rw [moves, List.mem_append] at hmem
      have hmem : (due, m) ∈ r.watch.moves := by simpa using hmem
      cases m with
      | scheduler m =>
        have hdue := Watch.mem_moves_scheduler.mp hmem
        cases hdue with
        | wake hphase hwake hcancelled => exact .wake (.wake hphase hwake hcancelled) hle
        | conclude hphase hpending => exact .conclude (.conclude hphase hpending)
        | terminate hphase hwake hcancelled => exact .terminate (.terminate hphase hwake hcancelled)
      | slot n m =>
        obtain ⟨s, hs, hm⟩ := (Watch.mem_moves_slot hn).mp hmem
        simp only [act, apply, withWatch, log_watch, Watch.apply, Watch.applySlot, hs]
        exact .turn hs hm hle rfl (Watch.foldl_book_slots _ _) (Watch.foldl_book_scheduler _ _)
  | refresh n => cases ha
  | abandon n call => cases ha
  | start => exact .start
  | cancel => exact .cancel
  | submitOn loan o =>
    simp only [act, submitOn?]
    cases r.traffic.submitOn? env.post r.settings.attemptTimeout r.clock
      (r.watch.ranking o.network) loan o <;> exact .rest (by simp)
  | release loan =>
    simp only [act]
    cases r.traffic.release? loan <;> exact .rest (by simp)
  | _ => exact .rest (by simp)

theorem act_follows (env : Surroundings) (hn : r.watch.networks.Nodup)
    (hp : r.Permits urgent a) : r.watch.scheduler.Follows (r.act env a).watch.scheduler := by
  cases ha : a.ofCaller with
  | true =>
    cases a with
    | refresh n =>
      simp only [act, refresh, Watch.request]
      cases r.watch.slot? n <;> exact .stays rfl rfl
    | abandon n call => exact .stays rfl rfl
    | _ => cases ha
  | false =>
    have hbeat := act_beat env hn hp ha
    generalize (r.act env a).watch = w at hbeat
    cases hbeat with
    | rest => exact .stays rfl rfl
    | start => exact .stays (Scheduler.start_phase _ _) (Scheduler.start_rounds _ _)
    | cancel => exact .stays rfl rfl
    | wake due =>
      cases due with
      | wake hphase => exact .starts hphase rfl rfl
    | conclude due =>
      cases due with
      | conclude hphase => exact .ends hphase rfl rfl
    | terminate due =>
      cases due with
      | terminate hphase => exact .stops hphase rfl rfl
    | turn hs hm hle happly slots scheduler =>
      rw [scheduler]
      exact .stays rfl rfl

theorem Beat.orderly (h : Beat env r a w) (hn : r.watch.networks.Nodup) (hd : r.watch.Distinct)
    (ho : r.watch.Orderly) : w.Orderly := by
  cases h with
  | rest => exact ho
  | start =>
    exact ho.congr rfl (Scheduler.start_pending _ _) fun hphase =>
      ho.resting (Scheduler.start_phase r.clock _ ▸ hphase)
  | cancel => exact ho.congr rfl rfl ho.resting
  | wake due hle =>
    cases due with
    | wake hphase => exact ho.wake (by simp [hphase])
  | conclude due =>
    cases due with
    | conclude hphase hpending => exact ho.congr rfl rfl fun _ => hpending
  | terminate due =>
    cases due with
    | terminate hphase => exact ho.congr rfl rfl fun _ => ho.resting (by simp [hphase])
  | turn hs hm hle happly slots scheduler =>
    exact ho.turn hd hn hs (Slot.turn_of_apply happly) slots scheduler

/-- Whether the slots of a relay are those of a registry and have no calls but those of a round. -/
structure Tidy (registry : Registry) (r : Relay) : Prop where
  config : r.watch.config = registry.networks
  distinct : r.watch.Distinct
  orderly : r.watch.Orderly

theorem Tidy.fresh {interval : Nat} (h : r.watch = .new registry.networks interval) :
    r.Tidy registry := by
  refine ⟨?_, ?_, ?_⟩ <;> rw [h]
  · simp [Watch.new, Watch.config, Slot.new, Function.comp_def]
  · exact Watch.new_distinct _ _
  · exact Watch.new_orderly _ _

theorem Tidy.nodup_networks (hb : registry.Built) (h : r.Tidy registry) :
    r.watch.networks.Nodup := by
  rw [Watch.networks_eq_config, h.config]
  exact hb.nodup_networks

theorem Tidy.beat (hb : registry.Built) (h : r.Tidy registry) (env : Surroundings)
    (hp : r.Permits urgent a) (ha : a.ofCaller = false) : Beat env r a (r.act env a).watch :=
  act_beat env (h.nodup_networks hb) hp ha

theorem Tidy.act (hb : registry.Built) (h : r.Tidy registry) (env : Surroundings)
    (hp : r.Permits urgent a) (ha : a.ofCaller = false) : (r.act env a).Tidy registry where
  config := ((act_watch env r a).config (h.nodup_networks hb)).trans h.config
  distinct := (act_watch env r a).distinct h.distinct
  orderly := (h.beat hb env hp ha).orderly (h.nodup_networks hb) h.distinct h.orderly

theorem Tidy.run (hb : registry.Built) (h : r₁.Tidy registry) (hrun : Run urgent r₁ steps r₂)
    (hsole : ∀ st ∈ steps, st.action.ofCaller = false) : r₂.Tidy registry :=
  hrun.keeps (fun _ st hr ha hp => hr.act hb st.env hp ha) hsole h

/-- Whether a relay has been reached without a call for a refresh but those of its scheduler. -/
def Sole (c : Config) (registry : Registry) (r : Relay) : Prop :=
  ∃ (epoch : Moment) (steps : List Step), Run (fun _ => False) (.new c registry epoch) steps r ∧
    ∀ st ∈ steps, st.action.ofCaller = false

theorem new_sole (c : Config) (registry : Registry) (epoch : Moment) :
    Sole c registry (.new c registry epoch) := ⟨epoch, [], .nil _, by simp⟩

theorem Sole.run (h : Sole c registry r₁) (hrun : Run urgent r₁ steps r₂)
    (hsole : ∀ st ∈ steps, st.action.ofCaller = false) : Sole c registry r₂ := by
  obtain ⟨epoch, before, hbefore, hall⟩ := h
  refine ⟨epoch, before ++ steps, hbefore.append (hrun.mono fun _ => False.elim), ?_⟩
  exact fun st hst => (List.mem_append.mp hst).elim (hall st) (hsole st)

theorem Sole.act (h : Sole c registry r) (env : Surroundings) (hp : r.Permits urgent a)
    (ha : a.ofCaller = false) : Sole c registry (r.act env a) :=
  h.run (.single (s := ⟨env, a⟩) hp) (by simpa using ha)

theorem Sole.reachable (h : Sole c registry r) : Reachable c registry r := by
  obtain ⟨epoch, steps, hrun, _⟩ := h
  exact ⟨epoch, steps, hrun⟩

theorem Sole.nodup_networks (hb : registry.Built) (h : Sole c registry r) :
    r.watch.networks.Nodup := h.reachable.nodup_networks hb

theorem Sole.tidy (hb : registry.Built) (h : Sole c registry r) : r.Tidy registry := by
  obtain ⟨epoch, steps, hrun, hsole⟩ := h
  exact hrun.keeps (fun _ _ hr ha hp => hr.act hb _ hp ha) hsole (.fresh rfl)

theorem Sole.orderly (hb : registry.Built) (h : Sole c registry r) : r.watch.Orderly :=
  (h.tidy hb).orderly

theorem Sole.beat (hb : registry.Built) (h : Sole c registry r) (env : Surroundings)
    (hp : r.Permits urgent a) (ha : a.ofCaller = false) : Beat env r a (r.act env a).watch :=
  act_beat env (h.nodup_networks hb) hp ha

/-- Whether a move is one of the watch: in a prompt run these are not late. -/
def Prompt : Move → Prop
  | .watch _ => True
  | .traffic _ => False

instance : DecidablePred Prompt
  | .watch _ => .isTrue trivial
  | .traffic _ => .isFalse id

theorem toDo_act_slot (env : Surroundings) (hn : r.watch.networks.Nodup) {due : Nat}
    {n : NetworkId} {m : SlotMove} (hm : (due, .slot n m) ∈ r.watch.moves) :
    (r.act env (.move (.watch (.slot n m)))).watch.toDo < r.watch.toDo ∧
      ∃ pending, (r.act env (.move (.watch (.slot n m)))).watch.scheduler =
        { r.watch.scheduler with pending := pending } := by
  obtain ⟨s, hs, hm⟩ := (Watch.mem_moves_slot hn).mp hm
  have hless := Slot.toDo_apply env.probe r.settings.probeTimeout r.clock r.moment hm
  simp only [act, apply, withWatch, log_watch, Watch.apply, Watch.applySlot, hs]
  refine ⟨?_, _, Watch.foldl_book_scheduler _ _⟩
  rw [Watch.toDo, Watch.foldl_book_slots]
  exact Watch.toDo_modify hn hs hless

theorem exists_prompt_move (env : Surroundings) (h : r.watch.moves ≠ []) :
    ∃ due m steps, (due, m) ∈ r.watch.moves ∧
      (∀ st ∈ steps, st.env = env ∧ st.action.ofTime = true) ∧
      Run Prompt r steps (r.moveAt env due (.watch m)) := by
  cases hfirst : earliest r.watch.moves with
  | none => exact absurd (earliest_eq_none hfirst) h
  | some first =>
    obtain ⟨due, m⟩ := first
    obtain ⟨hmem, hleast⟩ := earliest_spec hfirst
    have hmoves : (due, Move.watch m) ∈ r.moves := by simpa [moves] using hmem
    obtain ⟨steps, hsteps, hrun⟩ := moveAt_isRun Prompt env hmoves (by
      rintro ⟨due', m' | m'⟩ hm' hprompt
      · exact hleast (due', m') (by simpa [moves] using hm')
      · cases hprompt)
    refine ⟨due, m, steps, hmem, fun st hst => ⟨(hsteps st hst).1, ?_⟩, hrun⟩
    rcases (hsteps st hst).2 with ha | ⟨t, ha⟩ <;> rw [ha] <;> rfl

theorem round_settles (hb : registry.Built) (env : Surroundings) (h : r.Tidy registry)
    (hphase : r.watch.scheduler.phase = .scanning) :
    ∃ steps r', Run Prompt r steps r' ∧
      (∀ st ∈ steps, st.env = env ∧ st.action.ofTime = true) ∧
      r'.watch.scheduler.Due 0 .conclude ∧
      r'.watch.scheduler.rounds = r.watch.scheduler.rounds := by
  -- By induction on what is left to do at the slots, which each move makes less.
  induction hk : r.watch.toDo using Nat.strongRecOn generalizing r with
  | ind k ih =>
    cases hpending : r.watch.scheduler.pending with
    | nil => exact ⟨[], r, .nil r, by simp, .conclude hphase hpending, rfl⟩
    | cons call calls =>
      obtain ⟨due, m, first, hmem, hfirst, hmove⟩ :=
        exists_prompt_move env (h.orderly.moves_ne_nil hphase)
      have hn := h.nodup_networks hb
      obtain ⟨n, m, rfl⟩ : ∃ n m', m = .slot n m' := by
        cases m with
        | slot n m => exact ⟨n, m, rfl⟩
        | scheduler m =>
          cases Watch.mem_moves_scheduler.mp hmem with
          | wake hidle => simp [hphase] at hidle
          | conclude _ hnone => simp [hpending] at hnone
          | terminate hidle => simp [hphase] at hidle
      obtain ⟨hless, pending, hscheduler⟩ :=
        toDo_act_slot (r := { r with clock := max r.clock due }) env hn hmem
      have hnext := h.run hb hmove fun st hst => Action.ofCaller_of_ofTime (hfirst st hst).2
      have hscheduler : (r.moveAt env due (.watch (.slot n m))).watch.scheduler =
          { r.watch.scheduler with pending := pending } := hscheduler
      obtain ⟨rest, r', hrun, hrest, hdue, hrounds⟩ :=
        ih _ (hk ▸ hless) hnext (by rw [hscheduler]; exact hphase) rfl
      rw [hscheduler] at hrounds
      refine ⟨first ++ rest, r', hmove.append hrun, fun st hst => ?_, hdue, hrounds⟩
      exact (List.mem_append.mp hst).elim (hfirst st) (hrest st)

/-- A round comes to its end by itself, whatever becomes of its probes. -/
theorem round_ends (hb : registry.Built) (env : Surroundings) (h : Sole c registry r)
    (hphase : r.watch.scheduler.phase = .scanning) :
    ∃ steps r', Run Prompt r steps r' ∧
      (∀ st ∈ steps, st.env = env ∧ st.action.ofTime = true) ∧
      r'.watch.scheduler.phase = .idle ∧
      r'.watch.scheduler.rounds = r.watch.scheduler.rounds + 1 := by
  obtain ⟨steps, r', hrun, hsteps, hdue, hrounds⟩ := round_settles hb env (h.tidy hb) hphase
  have hconclude : r'.Permits Prompt (.move (.watch (.scheduler .conclude))) := by
    refine ⟨0, Nat.zero_le _, ?_⟩
    exact List.mem_append_left _ (List.mem_map_of_mem (Watch.mem_moves_scheduler.mpr hdue))
  refine ⟨steps ++ [⟨env, .move (.watch (.scheduler .conclude))⟩], _,
    hrun.append (.single hconclude), ?_, rfl, congrArg (· + 1) hrounds⟩
  intro st hst
  rcases List.mem_append.mp hst with hst | hst
  · exact hsteps st hst
  · cases List.mem_singleton.mp hst
    exact ⟨rfl, rfl⟩

end Relay

end RankedRelay
