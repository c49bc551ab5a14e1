import RankedRelay.Watch.Basic

namespace RankedRelay

def ProbeState.isInFlight : ProbeState → Bool
  | .inFlight _ => true
  | .over _ => false

namespace Refresh

def flight (probe : Prober) (limit now : Nat) (e : Endpoint) : Flight (Except CallError Span) :=
  ⟨now, limit, probe e now⟩

theorem outcome?_eq_ok {f : Flight (Except CallError Span)} {latency : Span}
    (h : outcome? f = some (.ok latency)) : f.ending = .answered (.ok latency) := by
  simp only [outcome?] at h
  split at h
  · rename_i hending
    cases h
    exact hending
  · cases h
  · cases h

theorem course_of_outcome? {f : Flight (Except CallError Span)} (h : outcome? f = none) :
    ∃ d ≤ f.limit, f.course = .crashes d := by
  simp only [outcome?, Flight.ending] at h
  split at h
  · cases h
  · rename_i hending
    split at hending
    · split at hending <;> cases hending
    · rename_i d hcourse
      split at hending
      · rename_i hd
        exact ⟨d, hd, hcourse⟩
      · cases hending
    · cases hending
  · cases h

def launched (probe : Prober) (limit now : Nat) (es : List Endpoint) :
    List (Endpoint × ProbeState) :=
  es.map fun e => (e, .inFlight (flight probe limit now e))

variable {probe : Prober} {limit now start : Nat} {es : List Endpoint}
  {ps : List (Endpoint × ProbeState)} {os : List Outcome}

theorem outcomes?_eq_some (h : outcomes? ps = some os) :
    ps = os.map fun o => (o.1, .over o.2) := by
  induction ps generalizing os with
  | nil =>
    cases h
    rfl
  | cons p rest ih =>
    obtain ⟨e, f | outcome⟩ := p
    · cases h
    · obtain ⟨os', hos, rfl⟩ := Option.map_eq_some_iff.mp h
      rw [List.map_cons, ih hos]

theorem outcomes?_isSome_iff :
    (outcomes? ps).isSome = true ↔ ∀ p ∈ ps, ∃ outcome, p.2 = .over outcome := by
  induction ps with
  | nil => simp [outcomes?]
  | cons p rest ih =>
    obtain ⟨e, f | outcome⟩ := p
    · simp [outcomes?]
    · simp [outcomes?, ih]

theorem exists_inFlight (h : outcomes? ps = none) :
    ∃ (i : Nat) (e : Endpoint) (f : Flight (Except CallError Span)),
      ps[i]? = some (e, .inFlight f) := by
  induction ps with
  | nil => cases h
  | cons p rest ih =>
    obtain ⟨e, f | outcome⟩ := p
    · exact ⟨0, e, f, rfl⟩
    · obtain ⟨i, e', f, hi⟩ := ih (Option.map_eq_none_iff.mp h)
      exact ⟨i + 1, e', f, hi⟩

/-- Whether all of some probes were started at one time, one for each of some endpoints, and each is
still on its way or has ended as its call did. -/
structure StartedAt (probe : Prober) (limit start : Nat) (es : List Endpoint)
    (ps : List (Endpoint × ProbeState)) : Prop where
  endpoints : ps.map (·.1) = es
  states : ∀ p ∈ ps, p.2 = .inFlight (flight probe limit start p.1) ∨
    ∃ outcome, outcome? (flight probe limit start p.1) = some outcome ∧ p.2 = .over outcome

theorem launched_startedAt : StartedAt probe limit start es (launched probe limit start es) where
  endpoints := by simp [launched, Function.comp_def]
  states := by
    intro p hp
    obtain ⟨e, _, rfl⟩ := List.mem_map.mp hp
    exact .inl rfl

theorem map_fst_set {i : Nat} {e : Endpoint} {state state' : ProbeState}
    (hi : ps[i]? = some (e, state)) : (ps.set i (e, state')).map (·.1) = ps.map (·.1) := by
  apply List.ext_getElem?
  intro j
  rw [List.getElem?_map, List.getElem?_map, List.getElem?_set]
  split
  · rename_i hij
    subst hij
    rw [hi]
    split
    · rfl
    · rename_i hlt
      rw [List.getElem?_eq_none (by omega)] at hi
      cases hi
  · rfl

theorem StartedAt.flight_eq (h : StartedAt probe limit start es ps) {e : Endpoint}
    {f : Flight (Except CallError Span)} (hp : (e, .inFlight f) ∈ ps) :
    f = flight probe limit start e := by
  rcases h.states _ hp with hs | ⟨o, _, hs⟩
  · exact ProbeState.inFlight.inj hs
  · cases hs

theorem countP_set_over {i : Nat} {e : Endpoint} {f : Flight (Except CallError Span)}
    (hi : ps[i]? = some (e, .inFlight f)) (outcome : Except CallError Span) :
    (ps.set i (e, .over outcome)).countP (·.2.isInFlight) < ps.countP (·.2.isInFlight) := by
  obtain ⟨hlt, hget⟩ := List.getElem?_eq_some_iff.mp hi
  have hpos : 0 < ps.countP (·.2.isInFlight) :=
    List.countP_pos_iff.mpr ⟨_, List.mem_of_getElem? hi, rfl⟩
  rw [List.countP_set hlt, hget]
  show ps.countP (·.2.isInFlight) - 1 + 0 < ps.countP (·.2.isInFlight)
  omega

theorem StartedAt.set (h : StartedAt probe limit start es ps) {i : Nat} {e : Endpoint}
    {f : Flight (Except CallError Span)} {outcome : Except CallError Span}
    (hi : ps[i]? = some (e, .inFlight f)) (hf : outcome? f = some outcome) :
    StartedAt probe limit start es (ps.set i (e, .over outcome)) where
  endpoints := (map_fst_set hi).trans h.endpoints
  states := by
    intro p hp
    rcases List.mem_or_eq_of_mem_set hp with hp | rfl
    · exact h.states p hp
    · rw [h.flight_eq (List.mem_of_getElem? hi)] at hf
      exact .inr ⟨outcome, hf, rfl⟩

theorem StartedAt.outcomes (h : StartedAt probe limit start es ps) (hos : outcomes? ps = some os) :
    os.map (·.1) = es ∧ ∀ o ∈ os, outcome? (flight probe limit start o.1) = some o.2 := by
  have hps := outcomes?_eq_some hos
  refine ⟨?_, fun o ho => ?_⟩
  · rw [← h.endpoints, hps]
    simp [Function.comp_def]
  · have hmem : (o.1, ProbeState.over o.2) ∈ ps := by
      rw [hps]
      exact List.mem_map_of_mem ho
    rcases h.states _ hmem with hs | ⟨outcome, hout, hs⟩
    · cases hs
    · cases hs
      exact hout

theorem mem_flights {refresh : Refresh} {due i : Nat} :
    (due, i) ∈ refresh.flights ↔
      ∃ e f, refresh.probes[i]? = some (e, .inFlight f) ∧ f.due = due := by
  simp only [flights, List.mem_filterMap]
  constructor
  · rintro ⟨⟨⟨e, _ | _⟩, j⟩, hmem, heq⟩
    · cases heq
      exact ⟨e, _, List.mem_zipIdx_iff_getElem?.mp hmem, rfl⟩
    · cases heq
  · rintro ⟨e, f, hi, rfl⟩
    exact ⟨((e, .inFlight f), i), List.mem_zipIdx_iff_getElem?.mpr hi, rfl⟩

end Refresh

namespace Slot

/-- What a move makes of a slot, and what it tells. -/
inductive Turn (probe : Prober) (limit now : Nat) (moment : Moment) (s : Slot) :
    SlotMove → Slot → List SlotEvent → Prop
  | idle (m : SlotMove) : Turn probe limit now moment s m s []
  | takeUp {call : CallId} {waiting : List CallId} (hr : s.running = none)
      (hw : s.waiting = call :: waiting) :
      Turn probe limit now moment s .takeUp
        { s with
          running := some ⟨call, Refresh.launched probe limit now s.endpoints⟩
          waiting := waiting }
        (s.endpoints.map .probed)
  | settle {refresh : Refresh} {i : Nat} {e : Endpoint} {f : Flight (Except CallError Span)}
      {outcome : Except CallError Span} (hr : s.running = some refresh)
      (hp : refresh.probes[i]? = some (e, .inFlight f)) (ho : Refresh.outcome? f = some outcome) :
      Turn probe limit now moment s (.settle i)
        { s with
          running := some { refresh with probes := refresh.probes.set i (e, .over outcome) } }
        [.measured e outcome]
  | crash {refresh : Refresh} {i : Nat} {e : Endpoint} {f : Flight (Except CallError Span)}
      (hr : s.running = some refresh) (hp : refresh.probes[i]? = some (e, .inFlight f))
      (ho : Refresh.outcome? f = none) :
      Turn probe limit now moment s (.settle i) { s with running := none } [.crashed refresh.call]
  | publish {refresh : Refresh} {outcomes : List Outcome} (hr : s.running = some refresh)
      (ho : Refresh.outcomes? refresh.probes = some outcomes) :
      Turn probe limit now moment s .publish
        { s with
          ranking := Ranking.ofOutcomes s.network outcomes moment (s.round + 1)
          round := s.round + 1
          running := none }
        [.published refresh.call (Ranking.ofOutcomes s.network outcomes moment (s.round + 1))]

variable {probe : Prober} {limit now : Nat} {moment : Moment} {s s' : Slot} {m : SlotMove}
  {events : List SlotEvent}

theorem apply_turn (probe : Prober) (limit now : Nat) (moment : Moment) (s : Slot) (m : SlotMove) :
    s.Turn probe limit now moment m (s.apply probe limit now moment m).1
      (s.apply probe limit now moment m).2 := by
  cases m with
  | takeUp =>
    simp only [apply, Slot.takeUp]
    split
    · rename_i hr hw
      exact .takeUp hr hw
    · exact .idle _
  | settle i =>
    simp only [apply, Slot.settle]
    split
    · exact .idle _
    · rename_i refresh hr
      split
      · rename_i e f hp
        split
        · rename_i outcome ho
          exact .settle hr hp ho
        · rename_i ho
          exact .crash hr hp ho
      · exact .idle _
  | publish =>
    simp only [apply, Slot.publish]
    split
    · exact .idle _
    · rename_i refresh hr
      split
      · exact .idle _
      · rename_i outcomes ho
        exact .publish hr ho

theorem apply_takeUp {call : CallId} {waiting : List CallId} (hr : s.running = none)
    (hw : s.waiting = call :: waiting) :
    s.apply probe limit now moment .takeUp =
      ({ s with
          running := some ⟨call, Refresh.launched probe limit now s.endpoints⟩
          waiting := waiting }, s.endpoints.map .probed) := by
  simp only [apply, Slot.takeUp, hr, hw]
  rfl

theorem apply_settle {refresh : Refresh} {i : Nat} {e : Endpoint}
    {f : Flight (Except CallError Span)} {outcome : Except CallError Span}
    (hr : s.running = some refresh) (hp : refresh.probes[i]? = some (e, .inFlight f))
    (ho : Refresh.outcome? f = some outcome) :
    s.apply probe limit now moment (.settle i) =
      ({ s with
          running := some { refresh with probes := refresh.probes.set i (e, .over outcome) } },
        [.measured e outcome]) := by
  simp only [apply, Slot.settle, hr, hp, ho]

theorem apply_publish {refresh : Refresh} {outcomes : List Outcome} (hr : s.running = some refresh)
    (ho : Refresh.outcomes? refresh.probes = some outcomes) :
    s.apply probe limit now moment .publish =
      ({ s with
          ranking := Ranking.ofOutcomes s.network outcomes moment (s.round + 1)
          round := s.round + 1
          running := none },
        [.published refresh.call
          (Ranking.ofOutcomes s.network outcomes moment (s.round + 1))]) := by
  simp only [apply, Slot.publish, hr, ho]

theorem Turn.network (h : s.Turn probe limit now moment m s' events) : s'.network = s.network := by
  cases h <;> rfl

theorem Turn.endpoints (h : s.Turn probe limit now moment m s' events) :
    s'.endpoints = s.endpoints := by
  cases h <;> rfl

theorem moves_waiting {call : CallId} (hr : s.running = none) (hw : s.waiting.head? = some call) :
    s.moves = [(0, .takeUp)] := by
  obtain ⟨rest, hrest⟩ := List.head?_eq_some_iff.mp hw
  simp [moves, hr, hrest]

theorem moves_measured {refresh : Refresh} (hr : s.running = some refresh)
    (ho : (Refresh.outcomes? refresh.probes).isSome = true) : s.moves = [(0, .publish)] := by
  simp [moves, hr, ho]

theorem moves_probing {refresh : Refresh} (hr : s.running = some refresh)
    (ho : Refresh.outcomes? refresh.probes = none) :
    s.moves = refresh.flights.map fun f => (f.1, .settle f.2) := by
  simp [moves, hr, ho]

theorem settle_mem_moves {refresh : Refresh} {i : Nat} {e : Endpoint}
    {f : Flight (Except CallError Span)} (hr : s.running = some refresh)
    (ho : Refresh.outcomes? refresh.probes = none)
    (hi : refresh.probes[i]? = some (e, .inFlight f)) : (f.due, .settle i) ∈ s.moves := by
  rw [moves_probing hr ho]
  exact List.mem_map.mpr ⟨(f.due, i), Refresh.mem_flights.mpr ⟨e, f, hi, rfl⟩, rfl⟩

theorem due_of_settle {refresh : Refresh} {i due : Nat} {e : Endpoint}
    {f : Flight (Except CallError Span)} (hm : (due, .settle i) ∈ s.moves)
    (hr : s.running = some refresh) (hi : refresh.probes[i]? = some (e, .inFlight f)) :
    f.due = due := by
  have hnone : Refresh.outcomes? refresh.probes = none := by
    cases hos : Refresh.outcomes? refresh.probes with
    | none => rfl
    | some os =>
      obtain ⟨_, hover⟩ := Refresh.outcomes?_isSome_iff.mp (by rw [hos]; rfl) _
        (List.mem_of_getElem? hi)
      cases hover
  rw [moves_probing hr hnone] at hm
  obtain ⟨⟨_, j⟩, hflight, heq⟩ := List.mem_map.mp hm
  cases heq
  obtain ⟨e', f', hj, rfl⟩ := Refresh.mem_flights.mp hflight
  rw [hi] at hj
  cases hj
  rfl

/-- The calls that are at a slot, the one whose refresh is running first. -/
def calls (s : Slot) : List CallId := (s.running.map (·.call)).toList ++ s.waiting

theorem calls_eq_nil_iff : s.calls = [] ↔ s.running = none ∧ s.waiting = [] := by
  simp [calls]

end Slot

end RankedRelay
