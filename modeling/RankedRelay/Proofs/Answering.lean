import RankedRelay.Proofs.ErrorBody
import RankedRelay.Proofs.Forwarding
import RankedRelay.Proofs.Quiet

namespace RankedRelay

namespace Frontend

/-- The response to a call that came to the relay `before`, as far as it is there. -/
def response? (maxBytes : Nat) (call : Call) (before now : Relay) : Option Response :=
  match receive maxBytes before call with
  | .answered r => some r
  | .rejected e => some (ofError e)
  | .admitted _ => (now.traffic.result? before.traffic.nextRequest).bind ofResult

theorem route_network {method target : String} {segment : List Char} (hmethod : method = "POST")
    (hpath : path target = "/rpc/".toList ++ segment) (hne : segment ≠ [])
    (hslash : '/' ∉ segment) :
    route method target = .network (Percent.decode (.ofText (String.ofList segment))) := by
  have hsegment : networkSegment? ("/rpc/".toList ++ segment) = some segment := by
    show (if segment.isEmpty ∨ segment.contains '/' then none else some segment) = some segment
    rw [if_neg]
    simp [hne, hslash]
  have hhealth : "/rpc/".toList ++ segment ≠ "/health-check".toList := by simp
  have hstatus : "/rpc/".toList ++ segment ≠ "/status".toList := by simp
  simp only [route, hpath, if_neg hhealth, if_neg hstatus, hsegment, if_pos hmethod]

theorem ofReply_status {reply : Reply} (h : 200 ≤ reply.status ∧ reply.status < 300) :
    (ofReply reply).status = reply.status := by
  have hdigits : 100 ≤ reply.status ∧ reply.status ≤ 999 := by omega
  simp only [ofReply, statusCode, if_pos hdigits]

theorem ofReply_contentType {reply : Reply} {ct : String} (h : reply.contentType = some ct)
    (hheader : isHeaderText ct = true) : (ofReply reply).contentType = some ct := by
  simp [ofReply, h, Option.filter, hheader]

theorem ofReply_noContentType {reply : Reply}
    (h : ∀ ct, reply.contentType = some ct → isHeaderText ct = false) :
    (ofReply reply).contentType = some "application/json" := by
  cases hct : reply.contentType with
  | none => simp [ofReply, hct]
  | some ct => simp [ofReply, hct, Option.filter, h ct hct]

end Frontend

inductive Fate where
  | tooLarge
  | malformed
  | unknown
  | exhausted
  | relayed
deriving DecidableEq, Repr

def Fate.stage : Fate → Nat
  | tooLarge => 0
  | malformed => 1
  | unknown => 2
  | exhausted => 3
  | relayed => 4

theorem Fate.stage_inj {a b : Fate} (h : a.stage = b.stage) : a = b := by
  cases a <;> cases b <;> first | rfl | cases h

/-- A post to a network, and what it meets: the relay as it is then, and the upstreams. -/
structure Posting where
  name : String
  body : Bytes
  maxBytes : Nat
  registry : Registry
  relay : Relay
  post : Transport
  timeout : UInt64

/-- Whether a name is the number of a network in decimal digits. -/
structure NetworkId.SpelledBy (n : NetworkId) (name : String) : Prop where
  digits : ∀ ch ∈ name.toList, ch.isDigit = true
  number : Text.value name.toList = n.number.toNat

namespace NetworkId.SpelledBy

variable {n m : NetworkId} {name : String}

theorem of_parse (h : parse name = .ok n) : n.SpelledBy name := by
  have hdecimal := parse_eq_ok.mp h
  exact ⟨hdecimal.digits, (Text.value_eq _).trans hdecimal.value⟩

theorem unique (hn : n.SpelledBy name) (hm : m.SpelledBy name) : n = m := by
  have hnumber : n.number = m.number := UInt64.toNat_inj.mp (hn.number.symm.trans hm.number)
  obtain ⟨number⟩ := n
  obtain ⟨number'⟩ := m
  exact congrArg NetworkId.mk hnumber

theorem isNumber (h : n.SpelledBy name) :
    ¬((∃ ch ∈ name.toList, ch.isDigit = false) ∨ UInt64.size ≤ Text.value name.toList) := by
  rintro (⟨ch, hch, hdigit⟩ | hsize)
  · rw [h.digits ch hch] at hdigit
    cases hdigit
  · rw [h.number] at hsize
    exact absurd n.number.toNat_lt (Nat.not_lt.mpr hsize)

end NetworkId.SpelledBy

theorem NetworkId.not_number_of_parse {name : String} {e : RequestError} (hname : name ≠ "")
    (h : parse name = .error e) :
    (∃ ch ∈ name.toList, ch.isDigit = false) ∨ UInt64.size ≤ Text.value name.toList := by
  obtain ⟨-, hlarge⟩ := parse_eq_error.mp h
  by_cases hdigits : ∀ ch ∈ name.toList, ch.isDigit = true
  · rw [Text.value_eq]
    exact .inr (hlarge _ ⟨mt String.toList_eq_nil_iff.mp hname, hdigits, rfl⟩)
  · simp only [not_forall, Bool.not_eq_true] at hdigits
    obtain ⟨ch, hch, hdigit⟩ := hdigits
    exact .inl ⟨ch, hch, hdigit⟩

namespace Posting

open Frontend (Response)

/-- Whether a post ends in some way, with some response. -/
inductive Ends (p : Posting) : Fate → Response → Prop
  | tooLarge {response : Response} (large : p.maxBytes < p.body.length)
      (status : response.status = 413) : Ends p .tooLarge response
  | malformed {response : Response} (size : p.body.length ≤ p.maxBytes)
      (noNumber : (∃ ch ∈ p.name.toList, ch.isDigit = false) ∨
        UInt64.size ≤ Text.value p.name.toList)
      (status : response.status = 400) : Ends p .malformed response
  | unknown {response : Response} {n : NetworkId} (size : p.body.length ≤ p.maxBytes)
      (spelled : n.SpelledBy p.name) (unconfigured : p.registry.endpoints? n = none)
      (status : response.status = 503) : Ends p .unknown response
  | exhausted {response : Response} {n : NetworkId} {es : List Endpoint} {ranking : Ranking}
      {failures : List Attempt} {ended : Nat} (size : p.body.length ≤ p.maxBytes)
      (spelled : n.SpelledBy p.name) (configured : p.registry.endpoints? n = some es)
      (current : p.relay.watch.ranking n = .ok ranking)
      (fails : Journey.Fails p.post p.timeout p.body p.relay.clock ranking.endpoints failures ended)
      (urls : failures.map (·.url) = ranking.endpoints.map (·.url))
      (told : response = Frontend.ofError (.exhausted n failures))
      (status : response.status = 502)
      (contentType : response.contentType = some "application/json")
      (read : ∃ v, Json.decode response.body = .ok v ∧ ErrorView.read? v =
        some ⟨(RequestError.exhausted n failures).text, some n, some failures⟩) :
      Ends p .exhausted response
  | relayed {response : Response} {n : NetworkId} {es before after : List Endpoint} {e : Endpoint}
      {ranking : Ranking} {failures : List Attempt} {t delay : Nat} {reply : Reply}
      (size : p.body.length ≤ p.maxBytes) (spelled : n.SpelledBy p.name)
      (configured : p.registry.endpoints? n = some es)
      (current : p.relay.watch.ranking n = .ok ranking)
      (order : ranking.endpoints = before ++ e :: after)
      (fails : Journey.Fails p.post p.timeout p.body p.relay.clock before failures t)
      (answer : p.post e.url p.body (.ofMillis p.timeout.toNat) t = .answers delay (.ok reply))
      (inTime : delay ≤ p.timeout.toNat) (success : 200 ≤ reply.status ∧ reply.status < 300)
      (json : Json.check reply.body = .ok ()) (status : response.status = reply.status)
      (body : response.body = reply.body)
      (contentType : ∀ ct, reply.contentType = some ct → Frontend.isHeaderText ct = true →
        response.contentType = some ct)
      (noContentType : (∀ ct, reply.contentType = some ct → Frontend.isHeaderText ct = false) →
        response.contentType = some "application/json") : Ends p .relayed response

variable {p : Posting} {fate other : Fate} {response response' : Response}

theorem Ends.not_later (h : p.Ends fate response) (h' : p.Ends other response') :
    ¬fate.stage < other.stage := by
  intro hlt
  cases h with
  | tooLarge large =>
    cases h' with
    | tooLarge => cases hlt
    | malformed size | unknown size | exhausted size | relayed size =>
      exact absurd large (Nat.not_lt.mpr size)
  | malformed _ noNumber =>
    cases h' with
    | tooLarge | malformed => simp [Fate.stage] at hlt
    | unknown _ spelled | exhausted _ spelled | relayed _ spelled =>
      exact spelled.isNumber noNumber
  | unknown _ spelled unconfigured =>
    cases h' with
    | tooLarge | malformed | unknown => simp [Fate.stage] at hlt
    | exhausted _ spelled' configured | relayed _ spelled' configured =>
      obtain rfl := spelled.unique spelled'
      rw [unconfigured] at configured
      cases configured
  | exhausted _ spelled _ current fails =>
    cases h' with
    | tooLarge | malformed | unknown | exhausted => simp [Fate.stage] at hlt
    | relayed _ spelled' _ current' order fails' answer inTime success json =>
      obtain rfl := spelled.unique spelled'
      rw [current] at current'
      cases current'
      rw [order] at fails
      obtain ⟨err, herr⟩ := fails'.next fails
      rw [answer, Journey.verdict?_of_success inTime success.1 success.2 json] at herr
      cases herr
  | relayed => cases h' <;> simp [Fate.stage] at hlt

theorem Ends.unique (h : p.Ends fate response) (h' : p.Ends other response') : other = fate := by
  have hle := Nat.not_lt.mp (h.not_later h')
  have hge := Nat.not_lt.mp (h'.not_later h)
  exact Fate.stage_inj (Nat.le_antisymm hle hge)

theorem Ends.success_iff (h : p.Ends fate response) :
    200 ≤ response.status ∧ response.status < 300 ↔ fate = .relayed := by
  cases h with
  | tooLarge _ status => simp [status]
  | malformed _ _ status => simp [status]
  | unknown _ _ _ status => simp [status]
  | exhausted _ _ _ _ _ _ _ status => simp [status]
  | relayed _ _ _ _ _ _ _ _ success _ status => simpa [status] using success

end Posting

namespace Relay

open Frontend (Call Response receive response?)

/-- What a call makes a relay post, as far as it has come. -/
def callPosts (maxBytes : Nat) (r₀ : Relay) (env : Surroundings) (call : Call)
    (steps : List Step) : List Post :=
  match (Occurrence.call call none).action? maxBytes r₀ with
  | some a => r₀.postsFor r₀.traffic.nextRequest (⟨env, a⟩ :: steps)
  | none => []

/-- A run that starts with a call, whose client stays and whose upstreams stay the same. -/
structure Attends (maxBytes : Nat) (r₀ : Relay) (env : Surroundings) (call : Call)
    (steps : List Step) (r : Relay) : Prop where
  run : Run (OfRequest r₀.traffic.nextRequest) (r₀.meet maxBytes ⟨env, .call call none⟩) steps r
  stays : ∀ st ∈ steps, st.env.post = env.post ∧ st.action ≠ .drop r₀.traffic.nextRequest ∧
    st.action ≠ .move (.traffic (.drop r₀.traffic.nextRequest))

/-- Whether a call gets a response, when its post to a network ends in some way. -/
structure Serves (maxBytes : Nat) (r₀ : Relay) (env : Surroundings) (call : Call) (fate : Fate)
    (response : Response) : Prop where
  /-- A post that is turned away at the door is answered at once. Everything stays as it was, the
  pool included. -/
  untouched : fate = .tooLarge ∨ fate = .malformed →
    r₀.meet maxBytes ⟨env, .call call none⟩ = r₀ ∧ response? maxBytes call r₀ r₀ = some response ∧
    ∀ s : Program.Service, s.relay = r₀ → s.config.maxRequestBytes.toNat = maxBytes →
      (s.answer call).1.relay = r₀
  uncontacted : fate = .tooLarge ∨ fate = .malformed ∨ fate = .unknown →
    ∀ {steps r}, Attends maxBytes r₀ env call steps r → callPosts maxBytes r₀ env call steps = []
  /-- There is no other response at any time, -/
  sole : ∀ {steps r}, Attends maxBytes r₀ env call steps r →
    response? maxBytes call r₀ r = none ∨ response? maxBytes call r₀ r = some response
  /-- and nothing keeps it from coming. -/
  comes : ∀ {steps r}, Attends maxBytes r₀ env call steps r →
    ∃ more r', Attends maxBytes r₀ env call (steps ++ more) r' ∧
      response? maxBytes call r₀ r' = some response
  relayed : ∀ {steps r n reply}, receive maxBytes r₀ call = .admitted n →
    Attends maxBytes r₀ env call steps r →
    r.traffic.result? r₀.traffic.nextRequest = some (.replied reply) →
    fate = .relayed ∧ response = Frontend.ofReply reply ∧ 100 ≤ reply.status ∧ reply.status ≤ 999

variable {c : Config} {registry : Registry} {maxBytes : Nat} {r₀ r : Relay} {env : Surroundings}
  {call : Call} {steps : List Step} {n : NetworkId} {fate : Fate} {response : Response}

theorem answer_response (s : Program.Service) (call : Call) :
    (s.answer call).2 = response? s.config.maxRequestBytes.toNat call s.relay
      (s.answer call).1.relay := by
  simp only [Program.Service.answer, response?]
  cases receive s.config.maxRequestBytes.toNat s.relay call with
  | answered response => rfl
  | rejected e => rfl
  | admitted n =>
    have hresult : (s.request ⟨n, call.body, none⟩).2 =
        (s.request ⟨n, call.body, none⟩).1.relay.traffic.result? s.relay.traffic.nextRequest := rfl
    cases hrequest : s.request ⟨n, call.body, none⟩ with
    | mk s' result =>
      rw [hrequest] at hresult
      replace hresult : s'.relay.traffic.result? s.relay.traffic.nextRequest = result :=
        hresult.symm
      simp only [hrequest]
      rcases result with _ | ⟨reply⟩ | ⟨error⟩ | _ | _
      all_goals simp only [hresult, Option.bind_none, Option.bind_some, Frontend.ofResult]
      exact (congrArg (Option.bind · Frontend.ofResult) hresult).symm

theorem answer_relay (s : Program.Service)
    (h : ∀ n, receive s.config.maxRequestBytes.toNat s.relay call ≠ .admitted n) :
    (s.answer call).1.relay = s.relay := by
  simp only [Program.Service.answer]
  split
  · rfl
  · rfl
  · rename_i n hn
    exact absurd hn (h n)

theorem Serves.at_once (hreceive : ∀ n, receive maxBytes r₀ call ≠ .admitted n)
    (hresponse : ∀ r, response? maxBytes call r₀ r = some response) :
    Serves maxBytes r₀ env call fate response := by
  have haction : (Occurrence.call call none).action? maxBytes r₀ = none := by
    simp only [Occurrence.action?]
    split
    · rename_i n hn
      exact absurd hn (hreceive n)
    · rfl
    · rfl
  refine ⟨fun _ => ⟨?_, hresponse r₀, ?_⟩, fun _ _ _ _ => ?_, fun _ => .inr (hresponse _),
    fun {steps r} h => ?_, fun hn => absurd hn (hreceive _)⟩
  · simp only [meet, haction]
  · rintro s rfl rfl
    exact answer_relay s hreceive
  · simp only [callPosts, haction]
  · exact ⟨[], r, by rwa [List.append_nil], hresponse r⟩

theorem Serves.of_answered (h : receive maxBytes r₀ call = .answered response) :
    Serves maxBytes r₀ env call fate response :=
  .at_once (by simp [h]) fun r => by simp only [response?, h]

theorem Serves.of_rejected {e : RequestError} (h : receive maxBytes r₀ call = .rejected e) :
    Serves maxBytes r₀ env call fate (Frontend.ofError e) :=
  .at_once (by simp [h]) fun r => by simp only [response?, h]

theorem Attends.request (hr : Reachable c registry r₀)
    (hn : receive maxBytes r₀ call = .admitted n)
    (h : Attends maxBytes r₀ env call steps r) :
    let journey := Journey.of env.post c.attemptTimeoutMs call.body (r₀.watch.ranking n) r₀.clock
    let id := r₀.traffic.nextRequest
    (callPosts maxBytes r₀ env call steps <+: journey.posts) ∧
    (r.traffic.result? id = none ∨ r.traffic.result? id = some (journey.result n)) ∧
    ∃ more r', Attends maxBytes r₀ env call (steps ++ more) r' ∧
      r'.traffic.result? id = some (journey.result n) := by
  intro journey id
  let o : Order := ⟨n, call.body, none⟩
  have haction : (Occurrence.call call none).action? maxBytes r₀ = some (.submit o) := by
    simp only [Occurrence.action?, hn, o]
  have hmeet : r₀.meet maxBytes ⟨env, .call call none⟩ = r₀.act env (.submit o) := by
    simp only [meet, haction]
  have hrun := h.run
  rw [hmeet] at hrun
  obtain ⟨hposts, hresult, more, r', hmore, hstays, hend, -⟩ := request_run hr rfl hrun h.stays
  refine ⟨?_, ?_, more, r', ⟨hmeet ▸ hrun.append hmore, ?_⟩, hend⟩
  · simp only [callPosts, haction]
    exact hposts
  · exact hresult.imp_right (·.1)
  · exact fun st hst => (List.mem_append.mp hst).elim (h.stays st) (hstays st)

theorem Serves.of_journey (hr : Reachable c registry r₀)
    (hn : receive maxBytes r₀ call = .admitted n) {journey : Journey}
    (hjourney : journey =
      .of env.post c.attemptTimeoutMs call.body (r₀.watch.ranking n) r₀.clock)
    (hadmitted : fate ≠ .tooLarge ∧ fate ≠ .malformed)
    (hposts : fate = .unknown → journey.posts = [])
    (hresponse : Frontend.ofResult (journey.result n) = some response)
    (hreply : ∀ reply, journey.result n = .replied reply →
      fate = .relayed ∧ 200 ≤ reply.status ∧ reply.status < 300) :
    Serves maxBytes r₀ env call fate response := by
  subst hjourney
  have hbind : ∀ {r' : Relay} {result : RequestResult},
      r'.traffic.result? r₀.traffic.nextRequest = some result →
      response? maxBytes call r₀ r' = Frontend.ofResult result := by
    intro r' result h
    simp only [response?, hn, h, Option.bind_some]
  refine ⟨fun h => ?_, fun h _ _ hattends => ?_, fun hattends => ?_, fun hattends => ?_, ?_⟩
  · exact absurd h (not_or.mpr hadmitted)
  · have hunknown : fate = .unknown :=
      (h.resolve_left hadmitted.1).resolve_left hadmitted.2
    obtain ⟨hfront, -⟩ := hattends.request hr hn
    rw [hposts hunknown] at hfront
    exact List.prefix_nil.mp hfront
  · obtain ⟨-, hnone | hsome, -⟩ := hattends.request hr hn
    · simp only [response?, hn, hnone, Option.bind_none, true_or]
    · exact .inr ((hbind hsome).trans hresponse)
  · obtain ⟨-, -, more, r', hmore, hend⟩ := hattends.request hr hn
    exact ⟨more, r', hmore, (hbind hend).trans hresponse⟩
  · intro steps r n' reply hn' hattends hresult
    rw [hn] at hn'
    cases hn'
    obtain ⟨-, hnone | hsome, -⟩ := hattends.request hr hn
    · rw [hnone] at hresult
      cases hresult
    · rw [hsome, Option.some.injEq] at hresult
      obtain ⟨hfate, hlow, hhigh⟩ := hreply reply hresult
      rw [hresult] at hresponse
      exact ⟨hfate, (Option.some.inj hresponse).symm, by omega, by omega⟩

/-- A request that is let in meets with failures only, or with a success. -/
theorem admitted_ends (hb : registry.Built) (hr : Reachable c registry r₀)
    (hcalm : ∀ url body limit t d, env.post url body limit t ≠ .crashes d)
    (hn : receive maxBytes r₀ call = .admitted n) {name : String}
    (hsize : call.body.length ≤ maxBytes) (hname : n.SpelledBy name) :
    ∃ fate response, Posting.Ends
        ⟨name, call.body, maxBytes, registry, r₀, env.post, c.attemptTimeoutMs⟩ fate response ∧
      Serves maxBytes r₀ env call fate response := by
  cases hes : registry.endpoints? n with
  | none =>
    have hjourney : Journey.of env.post c.attemptTimeoutMs call.body (r₀.watch.ranking n) r₀.clock =
        ⟨[], [], .refused (.unknownNetwork n), r₀.clock⟩ := by
      rw [ranking_unknown hb hr hes, Journey.of]
    refine ⟨.unknown, Frontend.ofError (.unknownNetwork n), .unknown hsize hname hes rfl,
      .of_journey hr hn hjourney.symm ⟨by simp, by simp⟩ (fun _ => rfl) rfl ?_⟩
    rintro reply ⟨⟩
  | some es =>
    obtain ⟨ranking, hranking, -⟩ := ranking_complete hb hr hes
    have hjourney : Journey.of env.post c.attemptTimeoutMs call.body (r₀.watch.ranking n) r₀.clock =
        .down env.post c.attemptTimeoutMs call.body r₀.clock ranking.endpoints := by
      rw [hranking, Journey.of]
    have hdown := @Journey.down_cases env.post c.attemptTimeoutMs call.body hcalm r₀.clock
      ranking.endpoints
    rw [← hjourney] at hdown
    rcases hdown with ⟨ended, hfails, harrival⟩ |
      ⟨before, e, after, failures, t, reply, horder, hfails, hverdict, harrival⟩
    · obtain ⟨members, hdecode, -, hread⟩ := Frontend.decode_ofError (.exhausted n _)
      refine ⟨.exhausted, _, .exhausted hsize hname hes hranking hfails hfails.urls rfl rfl rfl
          ⟨_, hdecode, hread⟩,
        .of_journey hr hn rfl ⟨by simp, by simp⟩ (by simp) ?_ ?_⟩
      · simp only [Journey.result, harrival, Frontend.ofResult]
      · simp [Journey.result, harrival]
    · obtain ⟨delay, htime, hanswer, hlow, hhigh, hjson⟩ := Journey.verdict?_eq_ok hverdict
      have hresult : (Journey.of env.post c.attemptTimeoutMs call.body (r₀.watch.ranking n)
          r₀.clock).result n = .replied reply := by
        simp only [Journey.result, harrival]
      refine ⟨.relayed, Frontend.ofReply reply,
        .relayed hsize hname hes hranking horder hfails hanswer htime ⟨hlow, hhigh⟩ hjson
          (Frontend.ofReply_status ⟨hlow, hhigh⟩) rfl
          (fun _ => Frontend.ofReply_contentType) Frontend.ofReply_noContentType,
        .of_journey hr hn rfl ⟨by simp, by simp⟩ (by simp) (by rw [hresult, Frontend.ofResult]) ?_⟩
      intro reply' hreply
      cases hresult.symm.trans hreply
      exact ⟨rfl, hlow, hhigh⟩

def fallBack : List Step :=
  [.wait 20, .move (.traffic (.resume 0)), .wait 25, .move (.traffic (.resume 0))].map
    (⟨unready, ·⟩)

end Relay

end RankedRelay
