import RankedRelay.Program.Service
import RankedRelay.Proofs.Counting
import RankedRelay.Proofs.ErrorBody
import RankedRelay.Proofs.Forwarding
import RankedRelay.Proofs.Probing

namespace RankedRelay

structure EndpointView where
  url : String
  healthy : Bool
  latency : Option Nat
deriving DecidableEq, Repr

structure NetworkView where
  network : NetworkId
  round : Nat
  healthy : Nat
  endpoints : List EndpointView
deriving DecidableEq, Repr

open Json (Value)

open Json.Value in
def EndpointView.read? (v : Value) : Option EndpointView := do
  let url ← (← v.member? "url").string?
  let healthy ← (← v.member? "healthy").bool?
  let latency ← (← v.member? "latency_ms").nullable? natural?
  return ⟨url, healthy, latency⟩

open Json.Value in
def NetworkView.read? (v : Value) : Option NetworkView := do
  let network ← (← v.member? "network_id").natural?
  let round ← (← v.member? "round").natural?
  let healthy ← (← v.member? "healthy").natural?
  let endpoints ← (← v.member? "endpoints").items? EndpointView.read?
  return ⟨⟨.ofNat network⟩, round, healthy, endpoints⟩

def Json.Value.networks? (v : Value) : Option (List NetworkView) := do
  (← v.member? "networks").items? NetworkView.read?

def EndpointView.of (r : Record) : EndpointView :=
  ⟨r.endpoint.url, r.healthy, r.latency.map (·.millisWord)⟩

def NetworkView.of (r : Ranking) : NetworkView :=
  ⟨r.network, r.round, r.healthyCount, r.records.map .of⟩

theorem EndpointView.read?_recordValue (r : Record) :
    read? (Frontend.recordValue r) = some (.of r) := by
  obtain ⟨endpoint, latency, probedAt, healthy, failure⟩ := r
  cases latency <;> rfl

theorem NetworkView.read?_rankingValue (r : Ranking) :
    read? (Frontend.rankingValue r) = some (.of r) := by
  have hendpoints := Json.Value.items?_array EndpointView.read?_recordValue r.records
  have hread : read? (Frontend.rankingValue r) =
      ((Value.array (r.records.map Frontend.recordValue)).items? EndpointView.read?).bind fun es =>
        some ⟨⟨.ofNat r.network.number.toNat⟩, r.round, r.healthyCount, es⟩ := rfl
  rw [hread, hendpoints, UInt64.ofNat_toNat]
  rfl

theorem networks?_statusValue (r : Relay) :
    (Frontend.statusValue r).networks? = some (r.watch.rankings.map .of) :=
  Json.Value.items?_array NetworkView.read?_rankingValue _

theorem EndpointView.read?_ordered (r : Record) :
    read? (Frontend.recordValue r).ordered = some (.of r) := by
  obtain ⟨endpoint, latency, probedAt, healthy, failure⟩ := r
  cases latency <;>
    simp [read?, of, Frontend.recordValue, Value.ordered, Json.orderedMembers,
      Json.member?_ofMembers, Value.string?, Value.bool?, Value.nullable?, Value.natural?,
      Value.ofOption, Value.natural]

theorem NetworkView.read?_ordered (r : Ranking) :
    read? (Frontend.rankingValue r).ordered = some (.of r) := by
  have hendpoints := Json.Value.items?_array EndpointView.read?_ordered r.records
  have hread : read? (Frontend.rankingValue r).ordered =
      ((Value.array (r.records.map Frontend.recordValue)).ordered.items? EndpointView.read?).bind
        fun es => some ⟨⟨.ofNat r.network.number.toNat⟩, r.round, r.healthyCount, es⟩ := by
    simp [read?, Frontend.rankingValue, Value.ordered, Json.orderedMembers,
      Json.member?_ofMembers, Value.natural?, Value.natural]
  rw [hread, Json.ordered_map, hendpoints, UInt64.ofNat_toNat]
  rfl

theorem networks?_ordered (r : Relay) :
    (Frontend.statusValue r).ordered.networks? = some (r.watch.rankings.map .of) := by
  have hnetworks := Json.Value.items?_array NetworkView.read?_ordered r.watch.rankings
  have hread : (Frontend.statusValue r).ordered.networks? =
      (Value.array (r.watch.rankings.map Frontend.rankingValue)).ordered.items?
        NetworkView.read? := by
    simp [Value.networks?, Frontend.statusValue, Value.ordered, Json.orderedMembers,
      Json.member?_ofMembers]
  rw [hread, Json.ordered_map, hnetworks]

namespace Frontend

open Json

theorem regular_ofOption {depth : Nat} {α : Type} {f : α → Value} (h : ∀ a, Regular depth (f a))
    (o : Option α) : Regular depth (.ofOption f o) := by
  cases o with
  | none => exact .null
  | some a => exact h a

theorem regular_recordValue (r : Record) : Regular 1 (recordValue r) := by
  refine .object fun m hm => ?_
  simp only [List.mem_cons, List.not_mem_nil, or_false] at hm
  rcases hm with rfl | rfl | rfl | rfl | rfl
  · exact .string _
  · exact .bool _
  · exact regular_ofOption (fun d => regular_natural (Nat.mod_lt _ (by decide))) _
  · exact regular_ofOption (fun _ => .string _) _
  · exact regular_ofOption (fun _ => .string _) _

theorem regular_rankingValue {r : Ranking} (hround : r.round < UInt64.size)
    (hhealthy : r.healthyCount < UInt64.size) : Regular 3 (rankingValue r) := by
  refine .object fun m hm => ?_
  simp only [List.mem_cons, List.not_mem_nil, or_false] at hm
  rcases hm with rfl | rfl | rfl | rfl | rfl
  · exact regular_natural r.network.number.toNat_lt_size
  · exact regular_natural hround
  · exact regular_ofOption (fun _ => .string _) _
  · exact regular_natural hhealthy
  · exact .array (List.forall_mem_map.mpr fun record _ => regular_recordValue record)

theorem regular_statusValue {r : Relay} (h : r.CountsInWords) : Regular 5 (statusValue r) := by
  have hpool : Regular 4 (poolValue r.traffic.pool) := by
    refine .object fun m hm => ?_
    simp only [List.mem_cons, List.not_mem_nil, or_false] at hm
    rcases hm with rfl | rfl | rfl
    · exact regular_natural h.created
    · exact regular_natural h.reused
    · exact regular_natural h.idle
  refine .object fun m hm => ?_
  simp only [List.mem_cons, List.not_mem_nil, or_false] at hm
  rcases hm with rfl | rfl | rfl | rfl
  · exact .string _
  · exact regular_natural h.rounds
  · exact hpool
  · exact .array (List.forall_mem_map.mpr fun ranking hranking =>
      regular_rankingValue (h.published ranking hranking) (h.healthy ranking hranking))

theorem decode_status {r : Relay} (h : r.CountsInWords) : ∃ v,
    Json.decode (status r).body = .ok v ∧ v.networks? = some (r.watch.rankings.map .of) :=
  ⟨_, decode_text (regular_statusValue h) (by decide), networks?_ordered r⟩

end Frontend

namespace Span

@[simp] theorem millis_ofMillis (d : Nat) : (ofMillis d).millis = d := by
  simp [millis, ofMillis]

theorem millisWord_ofMillis {d : Nat} (h : d < UInt64.size) : (ofMillis d).millisWord = d := by
  rw [millisWord, millis_ofMillis, Nat.mod_eq_of_lt h]

end Span

/-- Whether the probes go over some transport. -/
def Config.Probes (c : Config) (probe : Prober) (_ : Nat) : Prop :=
  ∃ post, probe = .over post c.verifyChainId c.probeTimeout

namespace Ranking.Coherent

variable {P : Prober → Nat → Prop} {limit : Nat} {n : NetworkId} {es : List Endpoint}
  {ranking : Ranking} {c : Config}

theorem timed (h : ranking.Coherent c.Probes limit n es) {record : Record}
    (hrecord : record ∈ ranking.records) {latency : Span}
    (hlatency : record.latency = some latency) : ∃ d ≤ limit, latency = .ofMillis d := by
  rcases h.content with huntouched | ⟨-, probe, start, os, moment, ⟨post, rfl⟩, -, hos, hperm, -⟩
  · rw [huntouched.records] at hrecord
    obtain ⟨e, -, rfl⟩ := List.mem_map.mp hrecord
    cases hlatency
  · obtain ⟨⟨e, outcome⟩, ho, rfl⟩ := List.mem_map.mp (hperm.mem_iff.mp hrecord)
    cases outcome with
    | error err => cases hlatency
    | ok found =>
      cases hlatency
      obtain ⟨d, hd, hlatency, -⟩ := Probe.latency_of_outcome (hos _ ho)
      exact ⟨d, hd, hlatency⟩

theorem measured (h : ranking.Coherent P limit n es) {record : Record}
    (hrecord : record ∈ ranking.records) :
    record.latency.isSome = true ↔ record.healthy = true ∧ 0 < ranking.round := by
  rcases h.content with huntouched | ⟨hround, _, _, _, _, _, _, _, _, hofRound⟩
  · rw [huntouched.records] at hrecord
    obtain ⟨e, -, rfl⟩ := List.mem_map.mp hrecord
    simp [huntouched.round]
  · rw [← hofRound.latency record hrecord]
    exact ⟨fun hhealthy => ⟨hhealthy, hround⟩, And.left⟩

theorem arranged (h : ranking.Coherent P limit n es) :
    ∃ fast slow, ranking.records = fast ++ slow ∧ (∀ a ∈ fast, a.healthy = true) ∧
      (∀ a ∈ slow, a.healthy = false) ∧
      fast.Pairwise fun a b => ∀ x y, a.latency = some x → b.latency = some y →
        x.nanos ≤ y.nanos := by
  rcases h.content with huntouched | ⟨-, _, _, _, _, _, _, _, _, hofRound⟩
  · refine ⟨ranking.records, [], (List.append_nil _).symm, ?_, by simp, ?_⟩
    · rw [huntouched.records]
      simp
    · rw [huntouched.records, List.pairwise_map]
      exact List.pairwise_of_forall fun _ _ _ _ hx => nomatch hx
  · obtain ⟨fast, slow, hrecords, hfast, hbefore, hslow, -⟩ := hofRound.arranged
    refine ⟨fast, slow, hrecords, hfast, hslow, hbefore.imp ?_⟩
    rintro a b ⟨x', y', hx', hy', hle⟩ x y hx hy
    rw [hx'] at hx
    rw [hy'] at hy
    cases hx
    cases hy
    rcases hle with hlt | ⟨rfl, -⟩
    · exact Nat.le_of_lt hlt
    · exact Nat.le_refl _

end Ranking.Coherent

/-- Whether the view of a network is that of one ranking, its latest one, as it is. -/
structure NetworkView.Faithful (c : Config) (r : Relay) (urls : List String) (ranking : Ranking)
    (v : NetworkView) : Prop where
  configured : (v.network, urls) ∈ c.networks
  current : r.watch.ranking v.network = .ok ranking
  /-- It is the last one that was published, or none was. -/
  published : ranking = ((r.watch.published v.network).getLast?.map (·.2)).getD
    (.unprobed v.network (urls.map fun url => ⟨url, v.network⟩))
  coherent : ranking.Coherent c.Probes c.probeTimeoutMs.toNat v.network
    (urls.map fun url => ⟨url, v.network⟩)
  round : v.round = ranking.round
  /-- The latencies are those of the records, and none is cut down to a word. -/
  endpoints : v.endpoints = ranking.records.map fun record =>
    ⟨record.endpoint.url, record.healthy, record.latency.map (·.millis)⟩
  complete : (v.endpoints.map (·.url)).Perm urls
  counted : v.healthy = (v.endpoints.filter (·.healthy)).length
  arranged : ∃ fast slow, v.endpoints = fast ++ slow ∧ (∀ e ∈ fast, e.healthy = true) ∧
    (∀ e ∈ slow, e.healthy = false) ∧
    fast.Pairwise fun a b => ∀ x y, a.latency = some x → b.latency = some y → x ≤ y
  measured : ∀ e ∈ v.endpoints, e.latency.isSome = true ↔ e.healthy = true ∧ 0 < v.round
  bounded : ∀ e ∈ v.endpoints, ∀ latency, e.latency = some latency →
    latency ≤ c.probeTimeoutMs.toNat
  /-- A request that starts now tries the endpoints in this order, and all of them before it fails.
  -/
  tried : ∀ {a : Action} {o : Order} {env : Surroundings} {steps : List Step} {r' : Relay},
    a.order? r = some o → o.network = v.network →
    Relay.Run (Relay.OfRequest r.traffic.nextRequest) (r.act env a) steps r' →
    (∀ st ∈ steps, st.env.post = env.post ∧ st.action ≠ .drop r.traffic.nextRequest ∧
      st.action ≠ .move (.traffic (.drop r.traffic.nextRequest))) →
    ((r.postsFor r.traffic.nextRequest (⟨env, a⟩ :: steps)).map (·.url) <+:
      v.endpoints.map (·.url)) ∧
    ∀ e, r'.traffic.result? r.traffic.nextRequest = some (.failed e) →
      (r.postsFor r.traffic.nextRequest (⟨env, a⟩ :: steps)).map (·.url) =
        v.endpoints.map (·.url)

namespace Relay

variable {parse : SchemeParser} {c : Config} {registry : Registry} {r : Relay} {n : NetworkId}
  {ranking : Ranking}

/-- A request goes down the ranking that its network has when it starts. -/
theorem tries_ranking {a : Action} {o : Order} {env : Surroundings} {steps : List Step} {r' : Relay}
    (hr : Reachable c registry r) (hranking : r.watch.ranking o.network = .ok ranking)
    (ho : a.order? r = some o)
    (hrun : Run (OfRequest r.traffic.nextRequest) (r.act env a) steps r')
    (hsteps : ∀ st ∈ steps, st.env.post = env.post ∧ st.action ≠ .drop r.traffic.nextRequest ∧
      st.action ≠ .move (.traffic (.drop r.traffic.nextRequest))) :
    ((r.postsFor r.traffic.nextRequest (⟨env, a⟩ :: steps)).map (·.url) <+:
      ranking.endpoints.map (·.url)) ∧
    ∀ e, r'.traffic.result? r.traffic.nextRequest = some (.failed e) →
      (r.postsFor r.traffic.nextRequest (⟨env, a⟩ :: steps)).map (·.url) =
        ranking.endpoints.map (·.url) := by
  obtain ⟨hposts, hresult, -⟩ := request_run hr ho hrun hsteps
  simp only [hranking, Journey.of] at hposts hresult
  refine ⟨(hposts.map _).trans Journey.down_posts_isPrefix, fun e he => ?_⟩
  rcases hresult with hnone | ⟨hsome, hall⟩
  · rw [hnone] at he
    cases he
  · rw [hsome, Option.some.injEq] at he
    have hexhausted := Journey.exhausted_of_failed he
    rw [hall]
    exact (Journey.down_exhausted hexhausted).1

theorem build_eq_ok {epoch : Moment} {new : Relay} (h : Relay.build c epoch parse = .ok new) :
    ∃ registry, Registry.ofConfig c parse = .ok registry ∧ new = .new c registry epoch := by
  simp only [build] at h
  split at h
  · cases h
  · split at h
    · cases h
    · rename_i registry hconfig
      cases h
      exact ⟨registry, hconfig, rfl⟩

theorem faithful_of_mem (hconfig : Registry.ofConfig c parse = .ok registry)
    (hr : Reachable c registry r) (hsound : r.Sound fun _ => c.Probes)
    (hmem : ranking ∈ r.watch.rankings) :
    ∃ urls, (NetworkView.of ranking).Faithful c r urls ranking := by
  have hb := Registry.built_of_ofConfig hconfig
  obtain ⟨s, hs, rfl⟩ := List.mem_map.mp hmem
  obtain ⟨hslot, hes, hcoherent⟩ := hsound.coherent_of_mem hb hr hs
  obtain ⟨urls, hurls, hendpoints⟩ :=
    (Registry.ofConfig_networks hconfig).2 _ _ (Registry.mem_of_endpoints? hes)
  have hnetwork : s.ranking.network = s.network := hcoherent.network
  have hranking : r.watch.ranking s.network = .ok s.ranking := by
    rw [Watch.ranking, hslot]
  have hshown := (hr.numbered hb hes).shown
  rw [Watch.shown, hslot, Option.map_some, Option.some.injEq, Prod.mk.injEq] at hshown
  -- What is shown of a latency is all of it.
  have hwhole : ∀ record ∈ s.ranking.records,
      record.latency.map (·.millisWord) = record.latency.map (·.millis) ∧
      ∀ latency, record.latency.map (·.millis) = some latency →
        latency ≤ c.probeTimeoutMs.toNat := by
    intro record hrecord
    cases hlatency : record.latency with
    | none => simp
    | some latency =>
      obtain ⟨d, hd, rfl⟩ := hcoherent.timed hrecord hlatency
      have hword : d < UInt64.size := Nat.lt_of_le_of_lt hd c.probeTimeoutMs.toNat_lt
      simp [Span.millisWord_ofMillis hword, hd]
  have hrecords : (NetworkView.of s.ranking).endpoints = s.ranking.records.map fun record =>
      ⟨record.endpoint.url, record.healthy, record.latency.map (·.millis)⟩ := by
    apply List.map_congr_left
    intro record hrecord
    rw [EndpointView.of, (hwhole record hrecord).1]
  have hendpointUrls : (NetworkView.of s.ranking).endpoints.map (·.url) =
      s.ranking.endpoints.map (·.url) := by
    simp [NetworkView.of, EndpointView.of, Ranking.endpoints, Function.comp_def]
  have hstart : (NetworkView.of s.ranking).network = s.network := hnetwork
  refine ⟨urls, ?_, ?_, ?_, ?_, rfl, hrecords, ?_, ?_, ?_, ?_, ?_, ?_⟩
  · exact hstart ▸ hurls
  · rw [hstart, hranking]
  · rw [hstart, ← hendpoints]
    exact hshown.1
  · rw [hstart, ← hendpoints]
    exact hcoherent
  · have hperm := hcoherent.complete.map (·.url)
    rw [hendpoints, List.map_map] at hperm
    rw [hendpointUrls]
    simpa [Function.comp_def] using hperm
  · rw [hrecords, List.filter_map, List.length_map]
    rfl
  · obtain ⟨fast, slow, hsplit, hfast, hslow, hsorted⟩ := hcoherent.arranged
    rw [hrecords, hsplit, List.map_append]
    refine ⟨_, _, rfl, by simpa using hfast, by simpa using hslow, ?_⟩
    rw [List.pairwise_map]
    refine hsorted.imp fun {a b} hle x y hx hy => ?_
    obtain ⟨x', hx', rfl⟩ := Option.map_eq_some_iff.mp hx
    obtain ⟨y', hy', rfl⟩ := Option.map_eq_some_iff.mp hy
    exact Nat.div_le_div_right (hle x' y' hx' hy')
  · rw [hrecords]
    intro e he
    obtain ⟨record, hrecord, rfl⟩ := List.mem_map.mp he
    rw [Option.isSome_map]
    exact hcoherent.measured hrecord
  · rw [hrecords]
    intro e he latency hlatency
    obtain ⟨record, hrecord, rfl⟩ := List.mem_map.mp he
    exact (hwhole record hrecord).2 latency hlatency
  · intro a o env steps r' ho hnetwork' hrun hsteps
    rw [hendpointUrls]
    refine tries_ranking hr ?_ ho hrun hsteps
    rw [hnetwork', hstart, hranking]

theorem sound_of_over {epoch : Moment} {steps : List Step} {urgent : Move → Prop}
    (hrun : Run urgent (.new c registry epoch) steps r)
    (hsteps : ∀ st ∈ steps, ∃ post, st.env = .over c post) : r.Sound fun _ => c.Probes := by
  refine hrun.keeps (E := fun st => ∃ post, st.env = .over c post)
    (P := Sound fun _ => c.Probes) ?_ hsteps (new_sound _ c registry epoch)
  rintro r s hsound ⟨post, henv⟩ -
  exact hsound.act fun n _ => ⟨post, by rw [henv, Surroundings.over]⟩

/-- A client who asks for the state of the service reads in the answer what is the case: of each
network that is configured, the ranking that it published last, in the order in which a request that
starts now goes down it. -/
theorem view_faithful {epoch : Moment} {new : Relay} {steps : List Step}
    (hbuild : Relay.build c epoch parse = .ok new) (hrun : Run (fun _ => False) new steps r)
    (hsteps : ∀ st ∈ steps, ∃ post, st.env = .over c post) {call : Frontend.Call}
    (hmethod : call.method = "GET") (hpath : Frontend.path call.target = "/status".toList) :
    ∃ (response : Frontend.Response) (views : List NetworkView),
      (∀ s : Program.Service, s.relay = r → s.config = c → s.answer call = (s, some response)) ∧
      response.status = 200 ∧ response.contentType = some "application/json" ∧
      response.body = .ofText (Frontend.statusValue r).text ∧
      (Frontend.statusValue r).networks? = some views ∧
      (r.CountsInWords → ∃ v, Json.decode response.body = .ok v ∧ v.networks? = some views) ∧
      (steps.length < UInt64.size → (∀ q ∈ c.networks, q.2.length < UInt64.size) →
        r.CountsInWords) ∧
      (∀ n, n ∈ views.map (·.network) ↔ n ∈ c.networks.map (·.1)) ∧
      (views.map (·.network)).Pairwise (· < ·) ∧
      ∀ v ∈ views, ∃ urls ranking, v.Faithful c r urls ranking := by
  obtain ⟨registry, hconfig, rfl⟩ := build_eq_ok hbuild
  have hb := Registry.built_of_ofConfig hconfig
  have hr : Reachable c registry r := ⟨epoch, steps, hrun⟩
  have hsound := sound_of_over hrun hsteps
  have hnetworks : (r.watch.rankings.map NetworkView.of).map (·.network) =
      registry.networks.map (·.1) := by
    rw [← hr.config hb, ← Watch.networks_eq_config, Watch.rankings, Watch.networks, List.map_map,
      List.map_map]
    apply List.map_congr_left
    intro s hs
    obtain ⟨-, -, hcoherent⟩ := hsound.coherent_of_mem hb hr hs
    exact hcoherent.network
  have hreceive : Frontend.receive c.maxRequestBytes.toNat r call =
      .answered (Frontend.status r) := by
    have hroute : Frontend.route call.method call.target = .status := by
      simp [Frontend.route, hpath, hmethod, Frontend.isRead]
    have hget : call.method ≠ "HEAD" := by simp [hmethod]
    simp only [Frontend.receive, hroute, if_neg hget]
  refine ⟨Frontend.status r, _, ?_, rfl, rfl, rfl, networks?_statusValue r,
    Frontend.decode_status, fun hshort hfew => ?_, ?_, ?_, ?_⟩
  · rintro s rfl rfl
    simp only [Program.Service.answer, hreceive]
  · refine countsInWords_of_run hb hrun hshort fun n es hes => ?_
    obtain ⟨urls, hurls, rfl⟩ :=
      (Registry.ofConfig_networks hconfig).2 n es (Registry.mem_of_endpoints? hes)
    rw [List.length_map]
    exact hfew _ hurls
  · rw [hnetworks]
    exact (Registry.ofConfig_networks hconfig).1
  · rw [hnetworks]
    exact hb.ascending
  · intro v hv
    obtain ⟨ranking, hmem, rfl⟩ := List.mem_map.mp hv
    obtain ⟨urls, hfaithful⟩ := faithful_of_mem hconfig hr hsound hmem
    exact ⟨urls, ranking, hfaithful⟩

def firstRound : List Step :=
  [.refresh ⟨1⟩, .move (.watch (.slot ⟨1⟩ .takeUp)), .wait 30,
    .move (.watch (.slot ⟨1⟩ (.settle 0))), .wait 5000, .move (.watch (.slot ⟨1⟩ (.settle 1))),
    .move (.watch (.slot ⟨1⟩ .publish))].map
    (⟨.over (.withNetworks [(⟨1⟩, ["http://[::1]", "http://[::2]"])]) silentSecond, ·⟩)

theorem view_faithful_silent :
    ∃ (c : Config) (r : Relay) (response : Frontend.Response) (value : Value) (v : NetworkView)
        (urls : List String) (ranking : Ranking),
      (∀ s : Program.Service, s.relay = r → s.config = c →
        s.answer ⟨"GET", "/status", [], []⟩ = (s, some response)) ∧
      Json.decode response.body = .ok value ∧ value.networks? = some [v] ∧
      v = ⟨⟨1⟩, 1, 1, [⟨"http://[::1]", true, some 30⟩, ⟨"http://[::2]", false, none⟩]⟩ ∧
      v.Faithful c r urls ranking := by
  let c : Config := .withNetworks [(⟨1⟩, ["http://[::1]", "http://[::2]"])]
  let call : Frontend.Call := ⟨"GET", "/status", [], []⟩
  have hconfig : Registry.ofConfig c = .ok .loopback := by
    have h : (Registry.ofConfig c).toOption = some .loopback := by decide +kernel
    cases hc : Registry.ofConfig c with
    | error e =>
      rw [hc] at h
      cases h
    | ok registry =>
      rw [hc] at h
      cases h
      rfl
  have hbuild : Relay.build c ⟨0, 0⟩ = .ok (.new c .loopback ⟨0, 0⟩) := by
    simp only [build, hconfig]
    rfl
  let r := (Relay.new c .loopback ⟨0, 0⟩).after firstRound
  have hrun : Run (fun _ => False) (.new c .loopback ⟨0, 0⟩) firstRound r :=
    run_after (by decide +kernel)
  have hsteps : ∀ st ∈ firstRound, ∃ post, st.env = .over c post := by
    intro st hst
    obtain ⟨a, -, rfl⟩ := List.mem_map.mp hst
    exact ⟨silentSecond, rfl⟩
  have hmethod : call.method = "GET" := rfl
  have hpath : Frontend.path call.target = "/status".toList := by decide +kernel
  obtain ⟨response, views, hanswer, -, -, -, hviews, hdecodes, hcounts, -, -, hall⟩ :=
    view_faithful hbuild hrun hsteps hmethod hpath
  have hread : (Frontend.statusValue r).networks? = some
      [⟨⟨1⟩, 1, 1, [⟨"http://[::1]", true, some 30⟩, ⟨"http://[::2]", false, none⟩]⟩] := by
    decide +kernel
  rw [hread, Option.some.injEq] at hviews
  subst hviews
  have hwords : r.CountsInWords := hcounts (by decide) (by decide)
  obtain ⟨value, hdecode, hvalue⟩ := hdecodes hwords
  obtain ⟨urls, ranking, hfaithful⟩ := hall _ List.mem_cons_self
  exact ⟨c, r, response, value, _, urls, ranking, hanswer, hdecode, hvalue, rfl, hfaithful⟩

end Relay

end RankedRelay
