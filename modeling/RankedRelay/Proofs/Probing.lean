import RankedRelay.Proofs.Flight
import RankedRelay.Proofs.Measurement
import RankedRelay.Proofs.Ranking

namespace RankedRelay

namespace Probe

/-- What a probe finds, given what becomes of its call. An answer that comes at the timeout is in
time. Of a reply the status is checked first, and only then the body. -/
def verdict (timeout : UInt64) (verify : Bool) (n : NetworkId) :
    Course (Except CallError Reply) → Except CallError Span
  | .answers delay (.ok reply) =>
    if timeout.toNat < delay then .error (.timeout timeout)
    else if reply.status < 200 ∨ 300 ≤ reply.status then .error (.status reply.status)
    else
      match Reply.judgeBody verify n reply.body with
      | .error err => .error err
      | .ok () => .ok (.ofMillis delay)
  | .answers delay (.error err) =>
    if delay ≤ timeout.toNat then .error err else .error (.timeout timeout)
  | .crashes _ => .error (.timeout timeout)
  | .silent => .error (.timeout timeout)

variable {post : Transport} {verify : Bool} {span : Span} {timeout : UInt64} {start : Nat}
  {e : Endpoint}

theorem judge_eq (n : NetworkId) (reply : Reply) : reply.judge verify n =
    if reply.status < 200 ∨ 300 ≤ reply.status then .error (.status reply.status)
    else Reply.judgeBody verify n reply.body := by
  simp [Reply.judge, Reply.isSuccess]

theorem judge_eq_ok {n : NetworkId} {reply : Reply} : reply.judge verify n = .ok () ↔
    (200 ≤ reply.status ∧ reply.status < 300) ∧ Reply.judgeBody verify n reply.body = .ok () := by
  rw [judge_eq]
  split
  · rename_i h
    exact iff_of_false nofun fun hok => by omega
  · rename_i h
    exact (and_iff_right (by omega)).symm

theorem verdict_answered {n : NetworkId} {reply : Reply} {d : Nat} (hd : d ≤ timeout.toNat) :
    verdict timeout verify n (.answers d (.ok reply)) =
      (reply.judge verify n).map fun _ => .ofMillis d := by
  simp only [verdict, if_neg (Nat.not_lt.mpr hd), judge_eq]
  split
  · rfl
  · cases Reply.judgeBody verify n reply.body <;> rfl

theorem verdict_late {n : NetworkId} {reply : Reply} {d : Nat} (hd : ¬d ≤ timeout.toNat) :
    verdict timeout verify n (.answers d (.ok reply)) = .error (.timeout timeout) := by
  simp only [verdict, if_pos (Nat.lt_of_not_le hd)]

theorem duration_flight {limit : Nat} :
    (Refresh.flight (Prober.over post verify span) limit start e).duration =
      (post e.url Rpc.probePayload span start).lasting limit := by
  rw [Flight.duration_eq, Refresh.flight, Prober.over, Course.lasting_map]

theorem outcome_flight
    (h : ∀ d ≤ timeout.toNat, post e.url Rpc.probePayload span start ≠ .crashes d) :
    Refresh.outcome? (Refresh.flight (Prober.over post verify span) timeout.toNat start e) =
      some (verdict timeout verify e.network (post e.url Rpc.probePayload span start)) := by
  simp only [Refresh.flight, Prober.over, Refresh.outcome?, Flight.ending]
  cases hanswer : post e.url Rpc.probePayload span start with
  | answers d answer =>
    by_cases hd : d ≤ timeout.toNat
    · cases answer with
      | error err => simp [Course.map, verdict, hd]
      | ok reply => simp [Course.map, verdict_answered hd, hd]
    · cases answer with
      | error err => simp [Course.map, verdict, hd, CallError.cutOff_ofMillis]
      | ok reply => simp [Course.map, verdict_late hd, hd, CallError.cutOff_ofMillis]
  | crashes d =>
    have hd : ¬d ≤ timeout.toNat := fun hle => h d hle hanswer
    simp [Course.map, verdict, hd, CallError.cutOff_ofMillis]
  | silent => simp [Course.map, verdict, CallError.cutOff_ofMillis]

theorem verdict_eq_ok {n : NetworkId} {answer : Course (Except CallError Reply)} {latency : Span}
    (h : verdict timeout verify n answer = .ok latency) :
    ∃ d ≤ timeout.toNat, latency = .ofMillis d ∧
      ∃ reply, answer = .answers d (.ok reply) ∧ reply.judge verify n = .ok () := by
  rcases answer with ⟨d, err | reply⟩ | d | _
  · simp only [verdict] at h
    split at h <;> cases h
  · by_cases hd : d ≤ timeout.toNat
    · rw [verdict_answered hd] at h
      cases hjudge : reply.judge verify n with
      | error err =>
        rw [hjudge] at h
        cases h
      | ok _ =>
        rw [hjudge] at h
        cases h
        exact ⟨d, hd, rfl, reply, rfl, hjudge⟩
    · rw [verdict_late hd] at h
      cases h
  · cases h
  · cases h

/-- A latency that a probe over a transport has measured is the delay of a reply that came in time.
-/
theorem latency_of_outcome {limit : Nat} {latency : Span}
    (h : Refresh.outcome? (Refresh.flight (Prober.over post verify span) limit start e) =
      some (.ok latency)) :
    ∃ d ≤ limit, latency = .ofMillis d ∧ ∃ reply,
      post e.url Rpc.probePayload span start = .answers d (.ok reply) ∧
        reply.judge verify e.network = .ok () := by
  obtain ⟨d, hd, hcourse⟩ := Flight.ending_eq_answered (Refresh.outcome?_eq_ok h)
  simp only [Refresh.flight, Prober.over] at hd hcourse
  rcases hanswer : post e.url Rpc.probePayload span start with ⟨d', err | reply⟩ | d' | _
  · simp [hanswer, Course.map] at hcourse
  · simp only [hanswer, Course.map, Course.answers.injEq] at hcourse
    obtain ⟨rfl, hjudge⟩ := hcourse
    cases haccept : reply.judge verify e.network with
    | error err =>
      rw [haccept] at hjudge
      cases hjudge
    | ok _ =>
      rw [haccept] at hjudge
      cases hjudge
      exact ⟨d', hd, rfl, reply, rfl, haccept⟩
  · simp [hanswer, Course.map] at hcourse
  · simp [hanswer, Course.map] at hcourse

def measurement (post : Transport) (verify : Bool) (span : Span) (timeout : UInt64) (n : NetworkId)
    (es : List Endpoint) (call : CallId) (round start : Nat)
    (hcrash : ∀ e ∈ es, ∀ d ≤ timeout.toNat, post e.url Rpc.probePayload span start ≠ .crashes d) :
    Measurement where
  network := n
  endpoints := es
  call := call
  round := round
  probe := Prober.over post verify span
  limit := timeout.toNat
  start := start
  outcome e := verdict timeout verify e.network (post e.url Rpc.probePayload span start)
  found e he := outcome_flight (hcrash e he)

variable {n : NetworkId} {es : List Endpoint} {call : CallId} {round : Nat}
  {hcrash : ∀ e ∈ es, ∀ d ≤ timeout.toNat, post e.url Rpc.probePayload span start ≠ .crashes d}

theorem measurement_finish :
    (measurement post verify span timeout n es call round start hcrash).finish =
      start + (es.map fun e =>
        (post e.url Rpc.probePayload span start).lasting timeout.toNat).foldr max 0 := by
  simp only [measurement, Measurement.finish, Measurement.flight, duration_flight]

theorem measurement_ranking (htagged : ∀ e ∈ es, e.network = n) (epoch : Moment) :
    (measurement post verify span timeout n es call round start hcrash).ranking epoch =
      .ofOutcomes n
        (es.map fun e => (e, verdict timeout verify n (post e.url Rpc.probePayload span start)))
        (epoch.after (measurement post verify span timeout n es call round start hcrash).finish)
        (round + 1) := by
  have houtcomes : (es.map fun e =>
        (e, verdict timeout verify e.network (post e.url Rpc.probePayload span start))) =
      es.map fun e => (e, verdict timeout verify n (post e.url Rpc.probePayload span start)) := by
    apply List.map_congr_left
    intro e he
    rw [htagged e he]
  rw [← houtcomes]
  rfl

theorem reply_of_latency {answer : Endpoint → Course (Except CallError Reply)} {moment : Moment}
    {record : Record} {latency : Span}
    (hrecord : record ∈ (Ranking.ofOutcomes n (es.map fun e =>
      (e, verdict timeout verify n (answer e))) moment round).records)
    (hlatency : record.latency = some latency) :
    ∃ d ≤ timeout.toNat, latency = .ofMillis d ∧
      ∃ reply, answer record.endpoint = .answers d (.ok reply) ∧
        (200 ≤ reply.status ∧ reply.status < 300) ∧
        Reply.judgeBody verify n reply.body = .ok () := by
  obtain ⟨o, ho, rfl⟩ := Ranking.mem_ofOutcomes_records hrecord
  obtain ⟨e, he, rfl⟩ := List.mem_map.mp ho
  cases hverdict : verdict timeout verify n (answer e) with
  | error err =>
    rw [hverdict] at hlatency
    cases hlatency
  | ok found =>
    rw [hverdict] at hlatency
    cases hlatency
    simpa only [Ranking.ofOutcome_endpoint, judge_eq_ok] using verdict_eq_ok hverdict

end Probe

namespace Relay

/-- A refresh that finds its network free starts all its probes at once. It publishes when the last
probe is over, no matter in which order they end, and nothing keeps it from doing so: the ranking is
that of what each endpoint has answered within the timeout, in configuration order. -/
theorem refresh_exact {c : Config} {registry : Registry} {r₀ r₁ r : Relay} {n : NetworkId}
    {es : List Endpoint} {s : Slot} {call : CallId} {post : Transport} {verify : Bool} {span : Span}
    {steps : List Step} (hb : registry.Built) (hr : Reachable c registry r₀)
    (hes : registry.endpoints? n = some es) (hs : r₀.watch.slot? n = some s) (hfree : s.calls = [])
    (hcall : r₀.refresh n = .ok (call, r₁))
    (hcrash : ∀ e ∈ es, ∀ d ≤ c.probeTimeoutMs.toNat,
      post e.url Rpc.probePayload span r₀.clock ≠ .crashes d)
    (hrun : Run (OfSlot n) r₁ steps r)
    (hsteps : ∀ st ∈ steps, st.env.probe = Prober.over post verify span ∧
      st.action ≠ .abandon n call) :
    let answer e := post e.url Rpc.probePayload span r₀.clock
    let finish := r₀.clock +
      (es.map fun e => (answer e).lasting c.probeTimeoutMs.toNat).foldr max 0
    let ranking := Ranking.ofOutcomes n
      (es.map fun e => (e, Probe.verdict c.probeTimeoutMs verify n (answer e)))
      (r.settings.epoch.after finish) (s.round + 1)
    (r.watch.result? call = none ∧ r.clock = r₀.clock ∨
      ∀ e ∈ es, (r₀.clock, Event.watch (.slot (.probed e))) ∈ r.events) ∧
    (∀ result, r.watch.result? call = some result → result = some ranking ∧
      finish ≤ r.clock ∧ (finish, Event.watch (.slot (.published call ranking))) ∈ r.events) ∧
    (r.watch.result? call = none → r.clock ≤ finish ∧
      ∃ more r', Run (OfSlot n) r more r' ∧
        (∀ st ∈ more, st.env.probe = Prober.over post verify span ∧ st.action ≠ .abandon n call) ∧
        r'.clock = finish ∧ r'.watch.result? call = some (some ranking)) ∧
    ∀ record ∈ ranking.records, ∀ latency, record.latency = some latency →
      ∃ d ≤ c.probeTimeoutMs.toNat, latency = .ofMillis d ∧
        ∃ reply, answer record.endpoint = .answers d (.ok reply) ∧
          (200 ≤ reply.status ∧ reply.status < 300) ∧
          Reply.judgeBody verify n reply.body = .ok () := by
  intro answer finish ranking
  have hentry := hb.entry hes
  have hendpoints : s.endpoints = es := by
    obtain ⟨s', hs', rfl⟩ := hr.slot hb hes
    rw [hs] at hs'
    cases hs'
    rfl
  let m := Probe.measurement post verify span c.probeTimeoutMs n es call s.round r₀.clock hcrash
  have hact : r₁ = r₀.act ⟨post, Prober.over post verify span⟩ (.refresh n) := by
    simp only [act, hcall]
  have hr₁ : Reachable c registry r₁ := by
    rw [hact]
    exact hr.act _ trivial
  have hclock : r₁.clock = m.start := by
    rw [hact]
    exact act_clock r₀ _ (by simp)
  have hwaiting : m.Waiting r₁ :=
    Measurement.waiting_of_refresh hs hendpoints rfl hfree rfl hcall
  have hrr : Reachable c registry r := hr₁.run hrun
  have hat := (Measurement.At.waiting hwaiting).run hb hr₁ hr₁.settings.1 hrun hsteps
  have hresult := hat.result ⟨post, Prober.over post verify span⟩ hb hrr hrr.settings.1 rfl
  rw [Probe.measurement_ranking hentry.tagged, Probe.measurement_finish] at hresult
  exact ⟨hresult.1, hresult.2.1, hresult.2.2, fun _ hrecord _ => Probe.reply_of_latency hrecord⟩

def silentSecond : Transport := fun url _ _ _ =>
  if url = "http://[::1]" then
    .answers 30 (.ok ⟨200, none,
      Bytes.ofText "\x7b\"jsonrpc\":\"2.0\",\"id\":1,\"result\":\"0x1\"\x7d"⟩)
  else .silent

theorem refresh_exact_silent :
    ∃ r : Relay, r.clock = 5000 ∧ r.watch.result? 0 = some (some (.ofOutcomes ⟨1⟩
      [(⟨"http://[::1]", ⟨1⟩⟩, .ok (.ofMillis 30)), (⟨"http://[::2]", ⟨1⟩⟩, .error (.timeout 5000))]
      (Moment.after ⟨0, 0⟩ 5000) 1)) := by
  let r₀ := Relay.new (.withNetworks []) .loopback ⟨0, 0⟩
  let r₁ := r₀.act ⟨silentSecond, Prober.over silentSecond true (.ofMillis 5000)⟩ (.refresh ⟨1⟩)
  have hr : Reachable (.withNetworks []) .loopback r₀ := ⟨⟨0, 0⟩, [], .nil _⟩
  have hcrash : ∀ e ∈ [⟨"http://[::1]", ⟨1⟩⟩, ⟨"http://[::2]", ⟨1⟩⟩],
      ∀ d ≤ (Config.withNetworks []).probeTimeoutMs.toNat,
        silentSecond (Endpoint.url e) Rpc.probePayload (.ofMillis 5000) r₀.clock ≠ .crashes d := by
    intro e _ d _
    simp only [silentSecond]
    split <;> simp
  have hsteps : ∀ st ∈ ([] : List Step),
      st.env.probe = Prober.over silentSecond true (.ofMillis 5000) ∧
        st.action ≠ .abandon ⟨1⟩ 0 := by
    simp
  obtain ⟨-, -, hrest, -⟩ :=
    refresh_exact Registry.loopback_built hr rfl rfl rfl rfl hcrash (.nil r₁) hsteps
  obtain ⟨-, _, r, -, -, hclock, hresult⟩ := hrest rfl
  have houtcomes : [⟨"http://[::1]", ⟨1⟩⟩, ⟨"http://[::2]", ⟨1⟩⟩].map (fun e : Endpoint =>
      (e, Probe.verdict 5000 true ⟨1⟩
        (silentSecond e.url Rpc.probePayload (.ofMillis 5000) 0))) =
      [(⟨"http://[::1]", ⟨1⟩⟩, .ok (.ofMillis 30)),
        (⟨"http://[::2]", ⟨1⟩⟩, .error (.timeout 5000))] := by decide +kernel
  refine ⟨r, hclock, hresult.trans ?_⟩
  rw [← houtcomes]
  rfl

end Relay

end RankedRelay
