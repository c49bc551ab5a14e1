import RankedRelay.Proofs.Laps
import RankedRelay.Proofs.Quiet

namespace RankedRelay

def WatchEvent.milestone? : WatchEvent → Option SchedulerMove
  | .roundStarted => some .wake
  | .roundOver => some .conclude
  | .stopped => some .terminate
  | .slot _ => none

structure Scheduler.Stopping (s : Scheduler) : Prop where
  phase : s.phase = .idle
  started : ∃ t, s.wakeAt = some t
  cancelled : s.cancelled = true

structure Scheduler.Unstarted (s : Scheduler) : Prop where
  phase : s.phase = .idle
  wakeAt : s.wakeAt = none

def Scheduler.Live (s : Scheduler) : Prop :=
  s.phase = .scanning ∨ s.phase = .idle ∧ ∃ t, s.wakeAt = some t

namespace Slot

variable {probe : Prober} {limit now start : Nat} {moment : Moment} {s s' : Slot} {m : SlotMove}
  {events : List SlotEvent}

theorem moves_eq_nil (h : s.calls = []) : s.moves = [] := by
  obtain ⟨hr, hw⟩ := calls_eq_nil_iff.mp h
  simp [moves, hr, hw]

/-- Whether a slot is not late in a round that started at a time: its call waits only then, and its
probes were started then. -/
structure OnTime (limit start now : Nat) (s : Slot) : Prop where
  waiting : s.waiting ≠ [] → now = start
  flying : ∀ refresh, s.running = some refresh → ∀ e f, (e, .inFlight f) ∈ refresh.probes →
    f.departed = start ∧ f.limit = limit

theorem OnTime.exists_due (h : s.OnTime limit start now) (hcalls : s.calls ≠ []) :
    ∃ m ∈ s.moves, m.1 ≤ start + limit := by
  cases hr : s.running with
  | none =>
    have hwaiting : s.waiting ≠ [] := by simpa [calls, hr] using hcalls
    obtain ⟨call, rest, hw⟩ := List.exists_cons_of_ne_nil hwaiting
    rw [moves_waiting hr (by rw [hw]; rfl)]
    exact ⟨_, List.mem_singleton_self _, Nat.zero_le _⟩
  | some refresh =>
    cases ho : Refresh.outcomes? refresh.probes with
    | none =>
      obtain ⟨i, e, f, hi⟩ := Refresh.exists_inFlight ho
      obtain ⟨hdeparted, hlimit⟩ := h.flying refresh hr e f (List.mem_of_getElem? hi)
      refine ⟨(f.due, .settle i), settle_mem_moves hr ho hi, ?_⟩
      have hduration : f.duration ≤ f.limit := by
        rw [Flight.duration]
        split <;> omega
      show f.departed + f.duration ≤ start + limit
      omega
    | some outcomes =>
      rw [moves_measured hr (by rw [ho]; rfl)]
      exact ⟨_, List.mem_singleton_self _, Nat.zero_le _⟩

theorem OnTime.turn (h : s.OnTime limit start now)
    (ht : s.Turn probe limit now moment m s' events) : s'.OnTime limit start now := by
  cases ht with
  | idle => exact h
  | takeUp hr hw =>
    have hnow := h.waiting (by simp [hw])
    refine ⟨fun _ => hnow, fun refresh hrefresh e f hf => ?_⟩
    cases hrefresh
    obtain ⟨e', _, heq⟩ := List.mem_map.mp hf
    cases heq
    exact ⟨hnow, rfl⟩
  | settle hr hp ho =>
    refine ⟨h.waiting, fun refresh hrefresh e f hf => ?_⟩
    cases hrefresh
    rcases List.mem_or_eq_of_mem_set hf with hf | heq
    · exact h.flying _ hr e f hf
    · cases heq
  | crash hr hp ho => exact ⟨h.waiting, by simp⟩
  | publish hr ho => exact ⟨h.waiting, by simp⟩

theorem toDo_le_effort {P : Prober → Nat → Prop} (h : s.Sound P limit) : s.toDo ≤ s.effort := by
  rw [toDo, effort, Nat.succ_mul, Nat.add_comm]
  refine Nat.add_le_add_left ?_ _
  cases hr : s.running with
  | none => exact Nat.zero_le _
  | some refresh =>
    obtain ⟨probe, start, -, hstarted⟩ := h.running refresh hr
    have hcount := refresh.probes.countP_le_length (p := (·.2.isInFlight))
    have hlength := congrArg List.length hstarted.endpoints
    rw [List.length_map] at hlength
    simp only [Option.elim]
    omega

end Slot

namespace Watch

/-- How many moves a cancelled watch has before it at most. -/
def remaining (w : Watch) : Nat :=
  match w.scheduler.phase with
  | .idle => 1
  | .scanning => w.toDo + 2
  | .terminated => 0

theorem mem_enqueueAll {call : CallId} {slots : List Slot} {s' : Slot}
    (h : s' ∈ enqueueAll call slots) : ∃ s ∈ slots, ∃ call', s' = s.enqueue call' := by
  induction slots generalizing call with
  | nil => cases h
  | cons s rest ih =>
    rcases List.mem_cons.mp h with rfl | h
    · exact ⟨s, List.mem_cons_self, call, rfl⟩
    · obtain ⟨s, hs, call', rfl⟩ := ih h
      exact ⟨s, List.mem_cons_of_mem _ hs, call', rfl⟩

end Watch

namespace Relay

variable {n : NetworkId} {env : Surroundings} {urgent : Move → Prop} {r r₁ r₂ : Relay} {a : Action}
  {w : Watch} {start : Nat} {steps : List Step} {c : Config} {registry : Registry}
  {epoch : Moment}

/-- The moves that the scheduler has made, the latest first, with their times. -/
def milestones (r : Relay) : List (Nat × SchedulerMove) :=
  r.news.filterMap fun p => p.2.milestone?.map (p.1, ·)

theorem news_act (env : Surroundings) (r : Relay) (ha : ∀ m, a ≠ .move (.watch m)) :
    (r.act env a).news = r.news := by
  cases hof : a.ofWatch with
  | false => exact (act_alike env r hof).news
  | true =>
    cases a with
    | move m =>
      cases m with
      | watch m => exact absurd rfl (ha m)
      | traffic m => cases hof
    | refresh n =>
      simp only [act, refresh]
      cases r.watch.request n <;> rfl
    | submit o => cases hof
    | submitOn loan o => cases hof
    | release loan => cases hof
    | acquire => cases hof
    | drop id => cases hof
    | _ => rfl

theorem milestones_act (env : Surroundings) (r : Relay)
    (ha : ∀ m, a ≠ .move (.watch (.scheduler m))) : (r.act env a).milestones = r.milestones := by
  by_cases hslot : ∃ n m, a = .move (.watch (.slot n m))
  · obtain ⟨n, m, rfl⟩ := hslot
    simp only [act, apply, milestones, news_withWatch, Watch.apply, Watch.applySlot]
    split
    · rfl
    · simp [List.filterMap_append, List.filterMap_map, Function.comp_def, ← List.map_reverse,
        WatchEvent.milestone?]
  · have hrest : ∀ m, a ≠ .move (.watch m) := by
      rintro (⟨n, m⟩ | m) rfl
      · exact hslot ⟨n, m, rfl⟩
      · exact ha m rfl
    rw [milestones, news_act env r hrest, milestones]

theorem act_resting (hb : registry.Built) (h : Sole c registry r) (env : Surroundings)
    (hrest : r.watch.scheduler.phase ≠ .scanning) (hp : r.Permits urgent a)
    (ha : a.ofCaller = false) :
    ((r.act env a).watch.slots = r.watch.slots ∧ (r.act env a).news = r.news ∧
      ((r.act env a).watch.scheduler = r.watch.scheduler ∨
        a = .start ∧ (r.act env a).watch.scheduler = r.watch.scheduler.start r.clock ∨
        (r.act env a).watch.scheduler = r.watch.scheduler.cancel)) ∨
    ∃ t m, r.watch.scheduler.Due t m ∧ a = .move (.watch (.scheduler m)) := by
  have hnews := news_act (a := a) env r
  have hbeat := h.beat hb env hp ha
  generalize (r.act env a).watch = w at hbeat
  cases hbeat with
  | rest ha => exact .inl ⟨rfl, hnews ha, .inl rfl⟩
  | start => exact .inl ⟨rfl, hnews (by simp), .inr (.inl ⟨rfl, rfl⟩)⟩
  | cancel => exact .inl ⟨rfl, hnews (by simp), .inr (.inr rfl)⟩
  | wake due => exact .inr ⟨_, _, due, rfl⟩
  | conclude due => exact .inr ⟨_, _, due, rfl⟩
  | terminate due => exact .inr ⟨_, _, due, rfl⟩
  | turn hs hm =>
    have ho := h.orderly hb
    rw [Slot.moves_eq_nil (ho.calls_nil (ho.resting hrest) (Watch.mem_of_slot? hs))] at hm
    cases hm

theorem terminated_run (hb : registry.Built) (h : Sole c registry r₁)
    (hphase : r₁.watch.scheduler.phase = .terminated) (hrun : Run urgent r₁ steps r₂)
    (hsole : ∀ st ∈ steps, st.action.ofCaller = false) :
    r₂.watch.scheduler.phase = .terminated ∧
      r₂.watch.scheduler.rounds = r₁.watch.scheduler.rounds ∧
      r₂.watch.slots = r₁.watch.slots ∧ r₂.news = r₁.news := by
  induction hrun with
  | nil => exact ⟨hphase, rfl, rfl, rfl⟩
  | @cons r r' st rest permitted _ ih =>
    obtain ⟨hst, hrest⟩ := List.forall_mem_cons.mp hsole
    rcases act_resting hb h st.env (by simp [hphase]) permitted hst with
      ⟨hslots, hnews, hscheduler⟩ | ⟨t, m, hdue, -⟩
    · have hsame : (r.act st.env st.action).watch.scheduler.phase = .terminated ∧
          (r.act st.env st.action).watch.scheduler.rounds = r.watch.scheduler.rounds := by
        rcases hscheduler with hs | ⟨-, hs⟩ | hs <;> rw [hs]
        · exact ⟨hphase, rfl⟩
        · exact ⟨(Scheduler.start_phase _ _).trans hphase, Scheduler.start_rounds _ _⟩
        · exact ⟨hphase, rfl⟩
      obtain ⟨hphase', hrounds, hslots', hnews'⟩ :=
        ih (h.act st.env permitted hst) hsame.1 hrest
      exact ⟨hphase', hrounds.trans hsame.2, hslots'.trans hslots, hnews'.trans hnews⟩
    · cases hdue <;> simp_all

/-- A cancelled scheduler stops between rounds before any time goes by. -/
theorem stopping_run (hb : registry.Built) (h : Sole c registry r₁)
    (hs : r₁.watch.scheduler.Stopping) (hrun : Run Prompt r₁ steps r₂)
    (hsole : ∀ st ∈ steps, st.action.ofCaller = false) :
    r₂.watch.slots = r₁.watch.slots ∧
    r₂.watch.scheduler.rounds = r₁.watch.scheduler.rounds ∧
    (r₂.watch.scheduler.Stopping ∧ r₂.clock = r₁.clock ∧ r₂.news = r₁.news ∨
      r₂.watch.scheduler.phase = .terminated ∧ r₂.news = (r₁.clock, .stopped) :: r₁.news) := by
  induction hrun with
  | nil => exact ⟨rfl, rfl, .inl ⟨hs, rfl, rfl⟩⟩
  | @cons r r' st rest permitted hrun ih =>
    obtain ⟨hst, hrest⟩ := List.forall_mem_cons.mp hsole
    have hnext := h.act st.env permitted hst
    obtain ⟨hphase, ⟨t₀, hwake⟩, hcancelled⟩ := hs
    rcases act_resting hb h st.env (by simp [hphase]) permitted hst with
      ⟨hslots, hnews, hscheduler⟩ | ⟨t, m, hdue, ha⟩
    · have hsame : (r.act st.env st.action).watch.scheduler.Stopping ∧
          (r.act st.env st.action).watch.scheduler.rounds = r.watch.scheduler.rounds := by
        rcases hscheduler with hs | ⟨-, hs⟩ | hs <;> rw [hs]
        · exact ⟨⟨hphase, ⟨t₀, hwake⟩, hcancelled⟩, rfl⟩
        · have hstart : r.watch.scheduler.start r.clock = r.watch.scheduler := by
            simp [Scheduler.start, hwake]
          rw [hstart]
          exact ⟨⟨hphase, ⟨t₀, hwake⟩, hcancelled⟩, rfl⟩
        · exact ⟨⟨hphase, ⟨t₀, hwake⟩, rfl⟩, rfl⟩
      -- The end of the scheduler is due at once, so nobody waits.
      have hclock : (r.act st.env st.action).clock = r.clock := by
        by_cases hwait : ∃ t, st.action = .wait t
        · obtain ⟨t, ht⟩ := hwait
          rw [ht] at permitted ⊢
          have hmem : (0, Move.watch (.scheduler .terminate)) ∈ r.moves :=
            watch_mem_moves.mpr (Watch.mem_moves_scheduler.mpr (.terminate hphase hwake hcancelled))
          have hle := permitted.2 _ hmem trivial
          exact Nat.le_antisymm (Nat.le_trans hle (Nat.zero_le _)) permitted.1
        · exact act_clock r st.env fun t ht => hwait ⟨t, ht⟩
      obtain ⟨hslots', hrounds, hend⟩ := ih hnext hsame.1 hrest
      rw [hclock, hnews] at hend
      exact ⟨hslots'.trans hslots, hrounds.trans hsame.2, hend⟩
    · cases hdue with
      | wake _ _ hnot => simp [hcancelled] at hnot
      | conclude hscanning => simp [hphase] at hscanning
      | terminate =>
        rw [ha] at hrun hnext
        obtain ⟨hphase', hrounds, hslots, hnews⟩ := terminated_run hb hnext rfl hrun hrest
        exact ⟨hslots, hrounds, .inr ⟨hphase', hnews⟩⟩

/-- Whether a round that started at a time goes on without delay. -/
structure OnTime (start : Nat) (r : Relay) : Prop where
  phase : r.watch.scheduler.phase = .scanning
  bound : start ≤ r.clock ∧ r.clock ≤ start + r.settings.probeTimeout
  slots : ∀ s ∈ r.watch.slots, s.OnTime r.settings.probeTimeout start r.clock

theorem OnTime.exists_due (h : r.OnTime start) (ho : r.watch.Orderly) :
    ∃ m ∈ r.watch.moves, m.1 ≤ start + r.settings.probeTimeout := by
  cases hp : r.watch.scheduler.pending with
  | nil =>
    exact ⟨_, Watch.mem_moves_scheduler.mpr (.conclude h.phase hp), Nat.zero_le _⟩
  | cons call rest =>
    have hcall : call ∈ r.watch.slots.flatMap Slot.calls := by
      rw [← ho.pending, hp]
      exact List.mem_cons_self
    obtain ⟨s, hs, hcall⟩ := List.mem_flatMap.mp hcall
    obtain ⟨m, hm, hle⟩ := (h.slots s hs).exists_due (List.ne_nil_of_mem hcall)
    refine ⟨(m.1, .slot s.network m.2), List.mem_append_left _ ?_, hle⟩
    exact List.mem_flatMap.mpr ⟨s, hs, List.mem_map.mpr ⟨m, hm, rfl⟩⟩

theorem OnTime.wait (h : r.OnTime start) (ho : r.watch.Orderly) {t : Nat}
    (hp : r.Permits Prompt (.wait t)) : OnTime start { r with clock := t } where
  phase := h.phase
  bound := by
    obtain ⟨m, hm, hle⟩ := h.exists_due ho
    have hdue := hp.2 (m.1, .watch m.2) (watch_mem_moves.mpr hm) trivial
    exact ⟨Nat.le_trans h.bound.1 hp.1, Nat.le_trans hdue hle⟩
  slots := by
    intro s hs
    refine ⟨fun hwaiting => ?_, (h.slots s hs).flying⟩
    -- A call that waits is taken up at once, for it is the only one at its slot.
    have hsingle := ho.single s hs
    have hrunning : s.running = none := by
      have hpos := List.length_pos_iff.mpr hwaiting
      cases hr : s.running with
      | none => rfl
      | some refresh =>
        simp only [Slot.calls, hr, Option.map_some, Option.toList_some, List.length_append,
          List.length_singleton] at hsingle
        omega
    obtain ⟨call, rest, hw⟩ := List.exists_cons_of_ne_nil hwaiting
    have hmoves := Slot.moves_waiting hrunning (by rw [hw]; rfl)
    have hmem : (0, WatchMove.slot s.network .takeUp) ∈ r.watch.moves := by
      refine List.mem_append_left _ (List.mem_flatMap.mpr ⟨s, hs, ?_⟩)
      rw [hmoves]
      exact List.mem_singleton_self _
    have hzero := hp.2 (0, .watch (.slot s.network .takeUp)) (watch_mem_moves.mpr hmem) trivial
    have hnow := (h.slots s hs).waiting hwaiting
    have hle := hp.1
    simp only at hzero ⊢
    omega

theorem OnTime.congr {r' : Relay} (h : r.OnTime start)
    (phase : r'.watch.scheduler.phase = r.watch.scheduler.phase)
    (slots : r'.watch.slots = r.watch.slots) (clock : r'.clock = r.clock)
    (settings : r'.settings = r.settings) : r'.OnTime start := by
  refine ⟨phase.trans h.phase, ?_, ?_⟩
  · rw [clock, settings]
    exact h.bound
  · rw [slots, clock, settings]
    exact h.slots

theorem OnTime.act (h : r.OnTime start) (hb : registry.Built) (hr : Sole c registry r)
    (env : Surroundings) (hp : r.Permits Prompt a) (ha : a.ofCaller = false) :
    ((r.act env a).OnTime start ∧ (r.act env a).milestones = r.milestones ∧
      (r.act env a).watch.scheduler.rounds = r.watch.scheduler.rounds) ∨
    a = .move (.watch (.scheduler .conclude)) := by
  by_cases hwait : ∃ t, a = .wait t
  · obtain ⟨t, rfl⟩ := hwait
    exact .inl ⟨h.wait (hr.orderly hb) hp, rfl, rfl⟩
  · have hclock := act_clock r env fun t ht => hwait ⟨t, ht⟩
    have hsettings := act_settings r env a
    have hmilestones := milestones_act (a := a) env r
    have hbeat := hr.beat hb env hp ha
    generalize hw : (r.act env a).watch = w at hbeat
    cases hbeat with
    | rest ha =>
      refine .inl ⟨h.congr (by rw [hw]) (by rw [hw]) hclock hsettings, hmilestones ?_, rfl⟩
      exact fun m => ha _
    | start =>
      refine .inl ⟨h.congr ?_ (by rw [hw]) hclock hsettings, hmilestones (by simp),
        Scheduler.start_rounds _ _⟩
      rw [hw]
      exact Scheduler.start_phase _ _
    | cancel =>
      exact .inl ⟨h.congr (by rw [hw]; rfl) (by rw [hw]) hclock hsettings,
        hmilestones (by simp), rfl⟩
    | wake due =>
      cases due with
      | wake hidle => simp [h.phase] at hidle
    | conclude due => exact .inr rfl
    | terminate due =>
      cases due with
      | terminate hidle => simp [h.phase] at hidle
    | turn hs hm hle happly slots scheduler =>
      refine .inl ⟨⟨?_, ?_, ?_⟩, hmilestones (by simp), by rw [scheduler]⟩
      · rw [hw, scheduler]
        exact h.phase
      · rw [hclock, hsettings]
        exact h.bound
      · rw [hw, slots, hclock, hsettings]
        intro s₁ hs₁
        obtain ⟨s₀, hs₀, rfl⟩ := List.mem_map.mp hs₁
        dsimp only
        split
        · exact (h.slots _ (Watch.mem_of_slot? hs)).turn (Slot.turn_of_apply happly)
        · exact h.slots s₀ hs₀

theorem OnTime.wake (hb : registry.Built) (hr : Sole c registry r)
    (hrest : r.watch.scheduler.phase ≠ .scanning) (env : Surroundings) :
    (r.act env (.move (.watch (.scheduler .wake)))).OnTime r.clock where
  phase := rfl
  bound := ⟨Nat.le_refl _, Nat.le_add_right _ _⟩
  slots := by
    intro s' hs'
    obtain ⟨s, hs, call, rfl⟩ := Watch.mem_enqueueAll hs'
    have ho := hr.orderly hb
    obtain ⟨hrunning, -⟩ := Slot.calls_eq_nil_iff.mp (ho.calls_nil (ho.resting hrest) hs)
    refine ⟨fun _ => rfl, fun refresh hrefresh => ?_⟩
    simp [Slot.enqueue, hrunning] at hrefresh

theorem exists_onTime (hb : registry.Built) (hrun : Run Prompt (.new c registry epoch) steps r)
    (hsole : ∀ st ∈ steps, st.action.ofCaller = false)
    (hphase : r.watch.scheduler.phase = .scanning) : ∃ start, r.OnTime start := by
  have hboth : Sole c registry r ∧
      (r.watch.scheduler.phase = .scanning → ∃ start, r.OnTime start) := by
    refine hrun.keeps (P := fun r => Sole c registry r ∧
      (r.watch.scheduler.phase = .scanning → ∃ start, r.OnTime start)) ?_ hsole
      ⟨new_sole _ _ _, fun h => by cases h⟩
    rintro r ⟨env, a⟩ ⟨hr, hround⟩ ha hp
    refine ⟨hr.act env hp ha, fun hscanning => ?_⟩
    by_cases hbefore : r.watch.scheduler.phase = .scanning
    · obtain ⟨start, hstart⟩ := hround hbefore
      rcases hstart.act hb hr env hp ha with ⟨hnext, -, -⟩ | rfl
      · exact ⟨start, hnext⟩
      · cases hscanning
    · rcases act_resting hb hr env hbefore hp ha with ⟨-, -, hs | ⟨-, hs⟩ | hs⟩ | ⟨t, m, hdue, rfl⟩
      · exact absurd (hs ▸ hscanning) hbefore
      · exact absurd (Scheduler.start_phase r.clock _ ▸ hs ▸ hscanning) hbefore
      · rw [hs] at hscanning
        exact absurd hscanning hbefore
      · cases hdue with
        | wake => exact ⟨r.clock, .wake hb hr hbefore env⟩
        | conclude hphase => exact absurd hphase hbefore
        | terminate => cases hscanning
  exact hboth.2 hphase

theorem Beat.cancelled (h : Beat env r a w) (hc : r.watch.scheduler.cancelled = true) :
    w.scheduler.cancelled = true := by
  cases h with
  | start => exact (Scheduler.start_cancelled _ _).trans hc
  | cancel => rfl
  | turn hs hm hle happly slots scheduler => rw [scheduler]; exact hc
  | _ => exact hc

/-- A round that is under way when the scheduler is cancelled runs to its end, and the scheduler
stops there. -/
theorem scanning_run (hb : registry.Built) (hr : Sole c registry r₁) (h : r₁.OnTime start)
    (hc : r₁.watch.scheduler.cancelled = true) (hrun : Run Prompt r₁ steps r₂)
    (hsole : ∀ st ∈ steps, st.action.ofCaller = false) :
    (r₂.OnTime start ∧ r₂.milestones = r₁.milestones ∧
      r₂.watch.scheduler.rounds = r₁.watch.scheduler.rounds) ∨
    ∃ t, r₁.clock ≤ t ∧ t ≤ start + r₁.settings.probeTimeout ∧
      r₂.watch.scheduler.rounds = r₁.watch.scheduler.rounds + 1 ∧
      (r₂.watch.scheduler.Stopping ∧ r₂.clock = t ∧
          r₂.milestones = (t, .conclude) :: r₁.milestones ∨
        r₂.watch.scheduler.phase = .terminated ∧
          r₂.milestones = (t, .terminate) :: (t, .conclude) :: r₁.milestones) := by
  induction hrun with
  | nil => exact .inl ⟨h, rfl, rfl⟩
  | @cons r r' st rest permitted hrun ih =>
    obtain ⟨hst, hrest⟩ := List.forall_mem_cons.mp hsole
    have hnext := hr.act st.env permitted hst
    have hcancelled := (hr.beat hb st.env permitted hst).cancelled hc
    rcases h.act hb hr st.env permitted hst with ⟨hon, hmilestones, hrounds⟩ | hconclude
    · rw [← hmilestones, ← hrounds, ← act_settings r st.env st.action]
      refine (ih hnext hon hcancelled hrest).imp_right ?_
      rintro ⟨t, hle, hend⟩
      exact ⟨t, Nat.le_trans (clock_le_act st.env permitted) hle, hend⟩
    · rw [hconclude] at hnext hrun hcancelled
      have hstopping : Scheduler.Stopping
          (r.act st.env (.move (.watch (.scheduler .conclude)))).watch.scheduler :=
        ⟨rfl, ⟨_, rfl⟩, hcancelled⟩
      obtain ⟨-, hrounds, hend⟩ := stopping_run hb hnext hstopping hrun hrest
      refine .inr ⟨r.clock, Nat.le_refl _, h.bound.2, hrounds, ?_⟩
      rcases hend with ⟨hstopping', hclock, hnews⟩ | ⟨hphase, hnews⟩
      · exact .inl ⟨hstopping', hclock, by rw [milestones, hnews]; rfl⟩
      · exact .inr ⟨hphase, by rw [milestones, hnews]; rfl⟩

def startOf (r : Relay) : List Step → Option Nat
  | [] => none
  | st :: rest =>
    match st.action with
    | .start => some r.clock
    | _ => (r.act st.env st.action).startOf rest

theorem Beat.unstarted (h : Beat env r a w) (hw : w.scheduler.Unstarted) :
    r.watch.scheduler.Unstarted ∧ w.scheduler.rounds = r.watch.scheduler.rounds := by
  obtain ⟨hphase, hwake⟩ := hw
  cases h with
  | rest => exact ⟨⟨hphase, hwake⟩, rfl⟩
  | start =>
    simp only [Scheduler.start] at hphase hwake ⊢
    split at hwake
    · cases hwake
    · rename_i hnot
      rw [if_neg hnot] at hphase
      exact absurd ⟨hphase, by rw [hwake]; rfl⟩ hnot
  | cancel => exact ⟨⟨hphase, hwake⟩, rfl⟩
  | wake => cases hphase
  | conclude => cases hwake
  | terminate => cases hphase
  | turn hs hm hle happly slots scheduler =>
    rw [scheduler] at hphase hwake ⊢
    exact ⟨⟨hphase, hwake⟩, rfl⟩

theorem act_unstarted (hb : registry.Built) (hr : Sole c registry r)
    (h : r.watch.scheduler.Unstarted) (env : Surroundings) (hp : r.Permits urgent a)
    (ha : a.ofCaller = false) :
    (r.act env a).watch.slots = r.watch.slots ∧ (r.act env a).news = r.news ∧
      ((r.act env a).watch.scheduler = r.watch.scheduler ∨
        a = .start ∧ (r.act env a).watch.scheduler = r.watch.scheduler.start r.clock ∨
        (r.act env a).watch.scheduler = r.watch.scheduler.cancel) := by
  rcases act_resting hb hr env (by simp [h.phase]) hp ha with hsame | ⟨t, m, hdue, rfl⟩
  · exact hsame
  · cases hdue with
    | wake _ hwake => simp [h.wakeAt] at hwake
    | conclude hphase => simp [h.phase] at hphase
    | terminate _ hwake => simp [h.wakeAt] at hwake

theorem unstarted_milestones (hb : registry.Built) (hr : Sole c registry r)
    (h : r.watch.scheduler.Unstarted) : r.milestones = [] := by
  obtain ⟨epoch, steps, hrun, hsole⟩ := hr
  have hboth : Sole c registry r ∧ (r.watch.scheduler.Unstarted → r.milestones = []) := by
    refine hrun.keeps (P := fun r => Sole c registry r ∧
      (r.watch.scheduler.Unstarted → r.milestones = [])) ?_ hsole ⟨new_sole _ _ _, fun _ => rfl⟩
    rintro r ⟨env, a⟩ ⟨hr, hnone⟩ ha hp
    refine ⟨hr.act env hp ha, fun hafter => ?_⟩
    obtain ⟨hbefore, -⟩ := (hr.beat hb env hp ha).unstarted hafter
    obtain ⟨-, hnews, -⟩ := act_unstarted hb hr hbefore env hp ha
    rw [milestones, hnews]
    exact hnone hbefore
  exact hboth.2 h

theorem milestones_suffix_act (env : Surroundings) (r : Relay) (a : Action) :
    r.milestones <:+ (r.act env a).milestones :=
  ((events_act r env a).filterMap _).filterMap _

theorem fresh_of_milestones (hb : registry.Built) (hr : Sole c registry r)
    (h : r.milestones = []) :
    r.watch.scheduler.phase = .idle ∧ r.watch.scheduler.rounds = 0 ∧
      r.watch.slots = registry.networks.map (fun p => .new p.1 p.2) ∧ r.news = [] := by
  obtain ⟨epoch, steps, hrun, hsole⟩ := hr
  have hboth : Sole c registry r ∧ (r.milestones = [] →
      r.watch.scheduler.phase = .idle ∧ r.watch.scheduler.rounds = 0 ∧
        r.watch.slots = registry.networks.map (fun p => .new p.1 p.2) ∧ r.news = []) := by
    refine hrun.keeps (P := fun r => Sole c registry r ∧ (r.milestones = [] →
      r.watch.scheduler.phase = .idle ∧ r.watch.scheduler.rounds = 0 ∧
        r.watch.slots = registry.networks.map (fun p => .new p.1 p.2) ∧ r.news = [])) ?_ hsole
      ⟨new_sole _ _ _, fun _ => ⟨rfl, rfl, rfl, rfl⟩⟩
    rintro r ⟨env, a⟩ ⟨hr, hfresh⟩ ha hp
    refine ⟨hr.act env hp ha, fun hafter => ?_⟩
    have hbefore := List.suffix_nil.mp (hafter ▸ milestones_suffix_act env r a)
    obtain ⟨hphase, hrounds, hslots, hnews⟩ := hfresh hbefore
    rcases act_resting hb hr env (by simp [hphase]) hp ha with
      ⟨hslots', hnews', hscheduler⟩ | ⟨t, m, hdue, rfl⟩
    · refine ⟨?_, ?_, hslots'.trans hslots, hnews'.trans hnews⟩
      · rcases hscheduler with hs | ⟨-, hs⟩ | hs <;> rw [hs]
        · exact hphase
        · exact (Scheduler.start_phase _ _).trans hphase
        · exact hphase
      · rcases hscheduler with hs | ⟨-, hs⟩ | hs <;> rw [hs]
        · exact hrounds
        · exact (Scheduler.start_rounds _ _).trans hrounds
        · exact hrounds
    · cases m <;> cases hafter
  exact hboth.2 h

theorem unstarted_run (hb : registry.Built) (hr : Sole c registry r₁)
    (h : r₁.watch.scheduler.Unstarted) (hc : r₁.watch.scheduler.cancelled = true)
    (hrun : Run Prompt r₁ steps r₂) (hsole : ∀ st ∈ steps, st.action.ofCaller = false) :
    r₂.watch.slots = r₁.watch.slots ∧
    r₂.watch.scheduler.rounds = r₁.watch.scheduler.rounds ∧
    (r₁.startOf steps = none ∧ r₂.watch.scheduler.Unstarted ∧ r₂.news = r₁.news ∨
      ∃ t, r₁.startOf steps = some t ∧
        (r₂.watch.scheduler.Stopping ∧ r₂.clock = t ∧ r₂.news = r₁.news ∨
          r₂.watch.scheduler.phase = .terminated ∧ r₂.news = (t, .stopped) :: r₁.news)) := by
  induction hrun with
  | nil => exact ⟨rfl, rfl, .inl ⟨rfl, h, rfl⟩⟩
  | @cons r r' st rest permitted hrun ih =>
    obtain ⟨hst, hrest⟩ := List.forall_mem_cons.mp hsole
    obtain ⟨env, a⟩ := st
    have hnext := hr.act env permitted hst
    have hcancelled := (hr.beat hb env permitted hst).cancelled hc
    by_cases hstart : a = .start
    · subst hstart
      have hscheduler : (r.act env .start).watch.scheduler =
          { r.watch.scheduler with wakeAt := some r.clock } := by
        simp [act, Relay.start, Scheduler.start, h.phase, h.wakeAt]
      have hstopping : (r.act env .start).watch.scheduler.Stopping := by
        rw [hscheduler] at hcancelled ⊢
        exact ⟨h.phase, ⟨_, rfl⟩, hcancelled⟩
      obtain ⟨hslots, hrounds, hend⟩ := stopping_run hb hnext hstopping hrun hrest
      rw [hscheduler] at hrounds
      exact ⟨hslots, hrounds, .inr ⟨r.clock, rfl, hend⟩⟩
    · have hof : r.startOf (⟨env, a⟩ :: rest) = (r.act env a).startOf rest := by
        cases a <;> first | rfl | exact absurd rfl hstart
      obtain ⟨hslots, hnews, hscheduler⟩ := act_unstarted hb hr h env permitted hst
      have hsame : (r.act env a).watch.scheduler.Unstarted ∧
          (r.act env a).watch.scheduler.rounds = r.watch.scheduler.rounds := by
        rcases hscheduler with hs | ⟨ha, -⟩ | hs
        · rw [hs]
          exact ⟨h, rfl⟩
        · exact absurd ha hstart
        · rw [hs]
          exact ⟨⟨h.phase, h.wakeAt⟩, rfl⟩
      obtain ⟨hslots', hrounds, hend⟩ := ih hnext hsame.1 hcancelled hrest
      rw [hnews] at hend
      rw [hof]
      exact ⟨hslots'.trans hslots, hrounds.trans hsame.2, hend⟩

theorem exists_move_of_live (ho : r.watch.Orderly) (h : r.watch.scheduler.Live)
    (hc : r.watch.scheduler.cancelled = true) : r.watch.moves ≠ [] := by
  rcases h with hphase | ⟨hphase, t, hwake⟩
  · exact ho.moves_ne_nil hphase
  · exact List.ne_nil_of_mem (Watch.mem_moves_scheduler.mpr (.terminate hphase hwake hc))

/-- Whether the scheduler has stopped at this time. -/
structure Stopped (r : Relay) : Prop where
  phase : r.watch.scheduler.phase = .terminated
  last : r.milestones.head? = some (r.clock, .terminate)

theorem act_remaining (hn : r.watch.networks.Nodup) (ho : r.watch.Orderly) (env : Surroundings)
    {due : Nat} {m : WatchMove} (hm : (due, m) ∈ r.watch.moves)
    (hc : r.watch.scheduler.cancelled = true) :
    (r.act env (.move (.watch m))).watch.remaining < r.watch.remaining ∧
    (r.act env (.move (.watch m))).watch.scheduler.cancelled = true ∧
    ((r.act env (.move (.watch m))).watch.scheduler.Live ∨
      (r.act env (.move (.watch m))).Stopped) := by
  cases m with
  | scheduler m =>
    cases Watch.mem_moves_scheduler.mp hm with
    | wake _ _ hnot => simp [hc] at hnot
    | conclude hphase =>
      refine ⟨?_, hc, .inl (.inr ⟨rfl, _, rfl⟩)⟩
      show 1 < r.watch.remaining
      simp [Watch.remaining, hphase]
    | terminate hphase =>
      refine ⟨?_, hc, .inr ⟨rfl, rfl⟩⟩
      show 0 < r.watch.remaining
      simp [Watch.remaining, hphase]
  | slot n m =>
    have hphase : r.watch.scheduler.phase = .scanning := by
      by_contra hrest
      obtain ⟨s, hs, hm⟩ := (Watch.mem_moves_slot hn).mp hm
      rw [Slot.moves_eq_nil (ho.calls_nil (ho.resting hrest) (Watch.mem_of_slot? hs))] at hm
      cases hm
    obtain ⟨hless, pending, hscheduler⟩ := toDo_act_slot env hn hm
    simp only [Watch.remaining, hscheduler, hphase]
    exact ⟨by omega, hc, .inl (.inl rfl)⟩

/-- A scheduler that is cancelled while it runs stops by itself. -/
theorem exists_termination (hb : registry.Built) (env : Surroundings) (hr : Sole c registry r)
    (h : r.watch.scheduler.Live) (hc : r.watch.scheduler.cancelled = true) :
    ∃ steps r', Run Prompt r steps r' ∧
      (∀ st ∈ steps, st.env = env ∧ st.action.ofTime = true) ∧
      r'.watch.scheduler.phase = .terminated := by
  induction hk : r.watch.remaining using Nat.strongRecOn generalizing r with
  | ind k ih =>
    have ho := hr.orderly hb
    obtain ⟨due, m, first, hmem, hfirst, hmove⟩ :=
      exists_prompt_move env (exists_move_of_live ho h hc)
    have hn := hr.nodup_networks hb
    obtain ⟨hless, hcancelled, hlive | hend⟩ :=
      act_remaining (r := { r with clock := max r.clock due }) hn ho env hmem hc
    · have hnext := hr.run hmove fun st hst => Action.ofCaller_of_ofTime (hfirst st hst).2
      obtain ⟨rest, r', hrun, hrest, hend⟩ := ih _ (hk ▸ hless) hnext hlive hcancelled rfl
      refine ⟨first ++ rest, r', hmove.append hrun, ?_, hend⟩
      exact fun st hst => (List.mem_append.mp hst).elim (hfirst st) (hrest st)
    · exact ⟨first, _, hmove, hfirst, hend.phase⟩

theorem run_terminates (hb : registry.Built) (env : Surroundings) {fuel : Nat}
    (hr : Sole c registry r) (hquiet : r.traffic.moves = [])
    (hc : r.watch.scheduler.cancelled = true)
    (h : r.watch.scheduler.Live ∨ r.Stopped) (hfuel : r.watch.remaining ≤ fuel) :
    ∃ steps, (∀ st ∈ steps, st.env = env ∧ st.action.ofTime = true) ∧
      Run Prompt r steps (r.run env (·.watch.scheduler.phase == .terminated) none fuel) ∧
      (r.run env (·.watch.scheduler.phase == .terminated) none fuel).Stopped := by
  induction fuel generalizing r with
  | zero =>
    rcases h with (hphase | ⟨hphase, -⟩) | hstopped
    · simp [Watch.remaining, hphase] at hfuel
    · simp [Watch.remaining, hphase] at hfuel
    · exact ⟨[], by simp, .nil r, hstopped⟩
  | succ fuel ih =>
    simp only [run]
    split
    · rename_i hgoal
      have hphase : r.watch.scheduler.phase = .terminated := by simpa using hgoal
      refine ⟨[], by simp, .nil r, h.resolve_left ?_⟩
      rintro (hscanning | ⟨hidle, -⟩)
      · simp [hphase] at hscanning
      · simp [hphase] at hidle
    · rename_i hgoal
      have hlive := h.resolve_right fun hstopped => hgoal (by simp [hstopped.phase])
      have ho := hr.orderly hb
      have hn := hr.nodup_networks hb
      cases hnext : r.next? with
      | none =>
        have hmoves := earliest_eq_none hnext
        rw [moves, List.append_eq_nil_iff, List.map_eq_nil_iff] at hmoves
        exact absurd hmoves.1 (exists_move_of_live ho hlive hc)
      | some next =>
        obtain ⟨due, m⟩ := next
        obtain ⟨hmem, hleast⟩ := earliest_spec hnext
        cases m with
        | traffic m =>
          rw [traffic_mem_moves, hquiet] at hmem
          cases hmem
        | watch m =>
          obtain ⟨first, hfirst, hmove⟩ :=
            moveAt_isRun Prompt env hmem fun p hp _ => hleast p hp
          have htime : ∀ st ∈ first, st.env = env ∧ st.action.ofTime = true := by
            intro st hst
            obtain ⟨henv, ha | ⟨t, ha⟩⟩ := hfirst st hst <;> exact ⟨henv, by rw [ha]; rfl⟩
          obtain ⟨hless, hcancelled, hend⟩ :=
            act_remaining (r := { r with clock := max r.clock due }) hn ho env
              (watch_mem_moves.mp hmem) hc
          obtain ⟨rest, hrest, hrun, hdone⟩ := ih
            (hr.run hmove fun st hst => Action.ofCaller_of_ofTime (htime st hst).2) hquiet
            hcancelled hend (Nat.le_of_lt_succ (Nat.lt_of_lt_of_le hless hfuel))
          refine ⟨first ++ rest, ?_, hmove.append hrun, hdone⟩
          exact fun st hst => (List.mem_append.mp hst).elim (htime st) (hrest st)

theorem remaining_le_manyMoves (hb : registry.Built) (hr : Sole c registry r) :
    r.watch.remaining ≤ r.manyMoves := by
  have hle : r.watch.toDo ≤ r.watch.effort := by
    refine Slot.total_le_total fun s hs => ?_
    have hslot := Watch.slot?_of_mem (hr.nodup_networks hb) hs
    exact Slot.toDo_le_effort (hr.reachable.sound _ s hslot)
  have hmany : 2 ≤ UInt64.size := by decide
  rw [Watch.remaining, manyMoves]
  split <;> omega

theorem idle_run (hb : registry.Built) (hr : Sole c registry r₁)
    (hphase : r₁.watch.scheduler.phase = .idle) (hc : r₁.watch.scheduler.cancelled = true)
    (hrun : Run Prompt r₁ steps r₂) (hsole : ∀ st ∈ steps, st.action.ofCaller = false) :
    r₂.watch.slots = r₁.watch.slots ∧
    r₂.watch.scheduler.rounds = r₁.watch.scheduler.rounds ∧
    ∃ later, r₂.news = later ++ r₁.news ∧ ∀ p ∈ later, p.2 = .stopped := by
  cases hwake : r₁.watch.scheduler.wakeAt with
  | none =>
    obtain ⟨hslots, hrounds, ⟨-, -, hnews⟩ | ⟨t, -, ⟨-, -, hnews⟩ | ⟨-, hnews⟩⟩⟩ :=
      unstarted_run hb hr ⟨hphase, hwake⟩ hc hrun hsole
    · exact ⟨hslots, hrounds, [], hnews, by simp⟩
    · exact ⟨hslots, hrounds, [], hnews, by simp⟩
    · exact ⟨hslots, hrounds, [(t, .stopped)], hnews, by simp⟩
  | some t =>
    obtain ⟨hslots, hrounds, ⟨-, -, hnews⟩ | ⟨-, hnews⟩⟩ :=
      stopping_run hb hr ⟨hphase, ⟨t, hwake⟩, hc⟩ hrun hsole
    · exact ⟨hslots, hrounds, [], hnews, by simp⟩
    · exact ⟨hslots, hrounds, [(r₁.clock, .stopped)], hnews, by simp⟩

theorem live_run (hb : registry.Built) (hr : Sole c registry r₁) (h : r₁.watch.scheduler.Live)
    (hon : r₁.watch.scheduler.phase = .scanning → ∃ start, r₁.OnTime start)
    (hc : r₁.watch.scheduler.cancelled = true) (hrun : Run Prompt r₁ steps r₂)
    (hsole : ∀ st ∈ steps, st.action.ofCaller = false) :
    r₂.watch.scheduler.Live ∨ r₂.watch.scheduler.phase = .terminated := by
  rcases h with hphase | ⟨hphase, hwake⟩
  · obtain ⟨start, hstart⟩ := hon hphase
    rcases scanning_run hb hr hstart hc hrun hsole with
      ⟨hon', -⟩ | ⟨t, -, -, -, ⟨hstopping, -⟩ | ⟨hend, -⟩⟩
    · exact .inl (.inl hon'.phase)
    · exact .inl (.inr ⟨hstopping.phase, hstopping.started⟩)
    · exact .inr hend
  · obtain ⟨-, -, ⟨hstopping, -⟩ | ⟨hend, -⟩⟩ :=
      stopping_run hb hr ⟨hphase, hwake, hc⟩ hrun hsole
    · exact .inl (.inr ⟨hstopping.phase, hstopping.started⟩)
    · exact .inr hend

theorem cancelled_run (hb : registry.Built) (hr : Sole c registry r₁)
    (hc : r₁.watch.scheduler.cancelled = true) (hrun : Run urgent r₁ steps r₂)
    (hsole : ∀ st ∈ steps, st.action.ofCaller = false) :
    ∃ later, r₂.milestones = later ++ r₁.milestones ∧ (∀ p ∈ later, p.2 ≠ .wake) ∧
      r₂.watch.scheduler.cancelled = true := by
  induction hrun with
  | nil => exact ⟨[], rfl, by simp, hc⟩
  | @cons r r' st rest permitted _ ih =>
    obtain ⟨hst, hrest⟩ := List.forall_mem_cons.mp hsole
    obtain ⟨env, a⟩ := st
    have hbeat := hr.beat hb env permitted hst
    obtain ⟨later, hlater, hno, hend⟩ :=
      ih (hr.act env permitted hst) (hbeat.cancelled hc) hrest
    by_cases hmove : ∃ m, a = .move (.watch (.scheduler m))
    · obtain ⟨m, rfl⟩ := hmove
      refine ⟨later ++ [(r.clock, m)], ?_, fun p hp => ?_, hend⟩
      · rw [hlater, List.append_assoc]
        cases m <;> rfl
      · rcases List.mem_append.mp hp with hp | hp
        · exact hno p hp
        · rw [List.mem_singleton.mp hp]
          rintro rfl
          generalize (r.act env (.move (.watch (.scheduler .wake)))).watch = w at hbeat
          cases hbeat with
          | rest ha => exact ha _ rfl
          | wake due =>
            cases due with
            | wake _ _ hnot => simp [hc] at hnot
    · rw [milestones_act env r fun m hm => hmove ⟨m, hm⟩] at hlater
      exact ⟨later, hlater, hno, hend⟩

theorem inFlight_resting (ho : r.watch.Orderly) (hrest : r.watch.scheduler.phase ≠ .scanning)
    (n : NetworkId) : r.watch.inFlight n = [] := by
  refine List.flatMap_eq_nil_iff.mpr fun s hs => ?_
  obtain ⟨hrunning, -⟩ :=
    Slot.calls_eq_nil_iff.mp (ho.calls_nil (ho.resting hrest) (List.mem_filter.mp hs).1)
  rw [Slot.inFlight, hrunning]
  rfl

theorem drain_terminates (hb : registry.Built) {s : Program.Service} (hr : Sole c registry s.relay)
    (h : s.relay.watch.scheduler.Live) (hquiet : s.relay.traffic.walks = []) :
    ∃ steps, (∀ st ∈ steps, st.env = s.env ∧ st.action.ofTime = true) ∧
      Run Prompt (s.relay.act s.env .cancel) steps s.drain.relay ∧ s.drain.relay.Stopped := by
  have hstep : Run Prompt s.relay [⟨s.env, .cancel⟩] (s.relay.act s.env .cancel) :=
    .single (s := ⟨s.env, .cancel⟩) trivial
  have hcancel := hr.run hstep (by simp [Action.ofCaller])
  have hmoves : (s.relay.act s.env .cancel).traffic.moves = [] := by
    show s.relay.traffic.moves = []
    simp [Traffic.moves, hquiet]
  exact run_terminates hb s.env hcancel hmoves rfl (.inl h) (remaining_le_manyMoves hb hcancel)

/-- Once the scheduler is cancelled, no round starts. Between rounds it stops at once, or as soon as
it is started, and no probe is made. A round that is under way runs to its end within the time limit
of a probe, for all networks, and is counted; the scheduler stops just then. If it runs it does
stop, and all is over then: no probe is in flight, and nothing that the watch shows changes any
more. The drain of a service without requests ends at that time. -/
theorem cancellation_drains {before after : List Step} {r₀ : Relay} (hb : registry.Built)
    (hbefore : Run Prompt (.new c registry epoch) before r₀)
    (hafter : Run Prompt (r₀.act env .cancel) after r)
    (hsole : ∀ st ∈ before ++ after, st.action.ofCaller = false) :
    (∃ later, r.milestones = later ++ r₀.milestones ∧ ∀ p ∈ later, p.2 ≠ .wake) ∧
    (r₀.watch.scheduler.phase = .idle → (∃ t, r₀.watch.scheduler.wakeAt = some t) →
      r.watch.rankings = r₀.watch.rankings ∧
      r.watch.scheduler.rounds = r₀.watch.scheduler.rounds ∧
      (r.watch.scheduler.phase = .idle ∧ r.clock = r₀.clock ∧ r.news = r₀.news ∨
        r.watch.scheduler.phase = .terminated ∧ r.news = (r₀.clock, .stopped) :: r₀.news)) ∧
    (r₀.watch.scheduler.Unstarted → r₀.milestones = [] ∧
      match (r₀.act env .cancel).startOf after with
      | none => r.watch.scheduler.phase = .idle ∧ r.news = []
      | some t => r.watch.scheduler.phase = .idle ∧ r.clock = t ∧ r.news = [] ∨
          r.watch.scheduler.phase = .terminated ∧ r.news = [(t, .stopped)]) ∧
    (r₀.milestones = [] →
      r.watch.rankings = registry.networks.map (fun p => .unprobed p.1 p.2) ∧
      r.watch.scheduler.rounds = 0 ∧ ∀ p ∈ r.news, p.2 = .stopped) ∧
    (r₀.watch.scheduler.phase = .scanning →
      (r.watch.scheduler.phase = .scanning ∧
        r.clock ≤ r₀.clock + c.probeTimeoutMs.toNat ∧ r.milestones = r₀.milestones ∧
        r.watch.scheduler.rounds = r₀.watch.scheduler.rounds) ∨
      ∃ t, r₀.clock ≤ t ∧ t ≤ r₀.clock + c.probeTimeoutMs.toNat ∧
        r.watch.scheduler.rounds = r₀.watch.scheduler.rounds + 1 ∧
        (r.watch.scheduler.phase = .idle ∧ r.clock = t ∧
            r.milestones = (t, .conclude) :: r₀.milestones ∨
          r.watch.scheduler.phase = .terminated ∧
            r.milestones = (t, .terminate) :: (t, .conclude) :: r₀.milestones) ∧
        ∀ n es, registry.endpoints? n = some es → ∃ l last ranking,
          ((Relay.new c registry epoch).laps n (before ++ ⟨env, .cancel⟩ :: after)).head? = some l ∧
          l.before = .ok last ∧ r.watch.ranking n = .ok ranking ∧
          (l.crashed = true ∧ ranking = last ∨
            l.crashed = false ∧ ranking.round = last.round + 1)) ∧
    (r₀.watch.scheduler.Live → r.watch.scheduler.phase = .terminated ∨
      ∀ env', ∃ more r', Run Prompt r more r' ∧
        (∀ st ∈ more, st.env = env' ∧ st.action.ofTime = true) ∧
        r'.watch.scheduler.phase = .terminated) ∧
    (r.watch.scheduler.phase = .terminated → (∀ n, r.watch.inFlight n = []) ∧
      ∀ more r', Run (fun _ => False) r more r' → (∀ st ∈ more, st.action.ofCaller = false) →
        r'.watch.scheduler.phase = .terminated ∧
        r'.watch.scheduler.rounds = r.watch.scheduler.rounds ∧
        r'.watch.rankings = r.watch.rankings ∧ r'.news = r.news) ∧
    (r₀.watch.scheduler.Live → ∀ s : Program.Service, s.relay = r₀ → r₀.traffic.walks = [] →
      ∃ steps, (∀ st ∈ steps, st.env = s.env ∧ st.action.ofTime = true) ∧
        Run Prompt (r₀.act s.env .cancel) steps s.drain.relay ∧ s.drain.relay.Stopped) := by
  have hbefore_sole : ∀ st ∈ before, st.action.ofCaller = false :=
    fun st hst => hsole st (List.mem_append_left _ hst)
  have hafter_sole : ∀ st ∈ after, st.action.ofCaller = false :=
    fun st hst => hsole st (List.mem_append_right _ hst)
  have hr₀ : Sole c registry r₀ := (new_sole c registry epoch).run hbefore hbefore_sole
  have hcancel : Run Prompt r₀ [⟨env, .cancel⟩] (r₀.act env .cancel) :=
    .single (s := ⟨env, .cancel⟩) trivial
  have hr₁ := hr₀.run hcancel (by simp [Action.ofCaller])
  have hr := hr₁.run hafter hafter_sole
  obtain ⟨later, hlater, hno, hc⟩ := cancelled_run hb hr₁ rfl hafter hafter_sole
  refine ⟨⟨later, hlater, hno⟩, fun hphase hwake => ?_, fun hunstarted => ?_, fun hnone => ?_,
    fun hphase => ?_, fun hlive => ?_, fun hphase => ?_, fun hlive s hs hquiet => ?_⟩
  · obtain ⟨hslots, hrounds, hend⟩ :=
      stopping_run hb hr₁ ⟨hphase, hwake, rfl⟩ hafter hafter_sole
    refine ⟨by rw [Watch.rankings, hslots]; rfl, hrounds, hend.imp_left ?_⟩
    rintro ⟨hstopping, hclock, hnews⟩
    exact ⟨hstopping.phase, hclock, hnews⟩
  · have hnone := unstarted_milestones hb hr₀ hunstarted
    obtain ⟨-, -, -, hnews⟩ := fresh_of_milestones hb hr₀ hnone
    have hunstarted₁ : (r₀.act env .cancel).watch.scheduler.Unstarted :=
      ⟨hunstarted.phase, hunstarted.wakeAt⟩
    refine ⟨hnone, ?_⟩
    obtain ⟨-, -, hend⟩ := unstarted_run hb hr₁ hunstarted₁ rfl hafter hafter_sole
    rcases hend with
      ⟨hstart, hun, hsame⟩ | ⟨t, hstart, ⟨hstopping, hclock, hsame⟩ | ⟨hphase, hstop⟩⟩
    · rw [hstart]
      exact ⟨hun.phase, hsame.trans hnews⟩
    · rw [hstart]
      exact .inl ⟨hstopping.phase, hclock, hsame.trans hnews⟩
    · rw [hstart]
      exact .inr ⟨hphase, hstop.trans (congrArg _ hnews)⟩
  · obtain ⟨hphase, hrounds, hslots, hnews⟩ := fresh_of_milestones hb hr₀ hnone
    obtain ⟨hslots', hrounds', later, hlater, hstopped⟩ :=
      idle_run hb hr₁ hphase rfl hafter hafter_sole
    refine ⟨?_, hrounds'.trans hrounds, fun p hp => hstopped p ?_⟩
    · rw [Watch.rankings, hslots'.trans hslots, List.map_map]
      rfl
    · rwa [hlater.trans (congrArg _ hnews), List.append_nil] at hp
  · obtain ⟨start, hon⟩ := exists_onTime hb hbefore hbefore_sole hphase
    have hon₁ : (r₀.act env .cancel).OnTime start := hon.congr rfl rfl rfl rfl
    have hlimit : (r₀.act env .cancel).settings.probeTimeout = c.probeTimeoutMs.toNat :=
      hr₁.reachable.settings.1
    have hstart := hon.bound.1
    rcases scanning_run hb hr₁ hon₁ rfl hafter hafter_sole with
      ⟨hon', hmilestones, hrounds⟩ | ⟨t, hpast, hbound, hrounds, hend⟩
    · have hclock := hon'.bound.2
      rw [hr.reachable.settings.1] at hclock
      exact .inl ⟨hon'.phase, by omega, hmilestones, hrounds⟩
    · rw [hlimit] at hbound
      have hrest : r.watch.scheduler.phase ≠ .scanning := by
        rcases hend with ⟨hstopping, -⟩ | ⟨hphase', -⟩
        · simp [hstopping.phase]
        · simp [hphase']
      refine .inr ⟨t, hpast, by omega, hrounds, hend.imp_left (And.imp_left (·.phase)),
        fun n es hes => ?_⟩
      have hpaced := laps_paced hb hes (hbefore.append (hcancel.append hafter)) (by
        simpa [or_imp, forall_and, Action.ofCaller] using hsole)
      exact hpaced.ended (hr.nodup_networks hb) (hr.orderly hb) hrest (by omega)
  · have honTime : r₀.watch.scheduler.phase = .scanning →
        ∃ start, (r₀.act env .cancel).OnTime start := fun hphase => by
      obtain ⟨start, hon⟩ := exists_onTime hb hbefore hbefore_sole hphase
      exact ⟨start, hon.congr rfl rfl rfl rfl⟩
    exact (live_run hb hr₁ hlive honTime rfl hafter hafter_sole).symm.imp_right fun hlive' env' =>
      exists_termination hb env' hr hlive' hc
  · refine ⟨inFlight_resting (hr.orderly hb) (by simp [hphase]), fun more r' hmore hmore_sole => ?_⟩
    obtain ⟨hphase', hrounds, hslots, hnews⟩ := terminated_run hb hr hphase hmore hmore_sole
    exact ⟨hphase', hrounds, by rw [Watch.rankings, hslots, Watch.rankings], hnews⟩
  · subst hs
    exact drain_terminates hb hr₀ hlive hquiet

def upsetEnd : List Step :=
  [.wait 10, .move (.watch (.slot ⟨1⟩ (.settle 1))), .wait 30,
    .move (.watch (.slot ⟨1⟩ (.settle 0))), .move (.watch (.slot ⟨1⟩ .publish)),
    .move (.watch (.scheduler .conclude)),
    .move (.watch (.scheduler .terminate))].map (⟨disturbed, ·⟩)

theorem cancellation_drains_crashing :
    ∃ r₀ r : Relay, r₀.clock = 5 ∧ r₀.watch.scheduler.phase = .scanning ∧
      r.watch.scheduler.phase = .terminated ∧ r.watch.rankings.map (·.round) = [1, 0] ∧
      (∃ t ≤ 5 + 5000, r.milestones = [(t, .terminate), (t, .conclude), (0, .wake)]) ∧
      ∀ n, r.watch.inFlight n = [] := by
  let new := Relay.new (.withNetworks []) neighbours ⟨0, 0⟩
  let r₀ := new.after upset
  let r := (r₀.act disturbed .cancel).after upsetEnd
  have hbefore : Run Prompt new upset r₀ := run_after (by decide +kernel)
  have hafter : Run Prompt (r₀.act disturbed .cancel) upsetEnd r := run_after (by decide +kernel)
  obtain ⟨-, -, -, -, hround, -, hend, -⟩ := cancellation_drains neighbours_built hbefore hafter
    (by simp [upset, upsetEnd, Action.ofCaller])
  have hclock : r₀.clock = 5 := by decide +kernel
  have hphase : r₀.watch.scheduler.phase = .scanning := by decide +kernel
  have hphase' : r.watch.scheduler.phase = .terminated := by decide +kernel
  have hmilestones : r₀.milestones = [(0, .wake)] := by decide +kernel
  obtain ⟨hscanning, -⟩ | ⟨t, -, hbound, -, ⟨hidle, -⟩ | ⟨-, hends⟩, -⟩ := hround hphase
  · rw [hphase'] at hscanning
    cases hscanning
  · rw [hphase'] at hidle
    cases hidle
  · rw [hmilestones] at hends
    exact ⟨r₀, r, hclock, hphase, hphase', by decide +kernel, ⟨t, hclock ▸ hbound, hends⟩,
      (hend hphase').1⟩

end Relay

end RankedRelay
