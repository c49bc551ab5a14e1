import RankedRelay.Proofs.Forwarding
import RankedRelay.Proofs.Quiet

namespace RankedRelay

namespace Traffic

/-- Whether a request stands where another one stands in other traffic. -/
inductive Mirrors (id : RequestId) (t : Traffic) (id' : RequestId) (t' : Traffic) : Prop
  | walking {w w' : Walk} (serving : t.Serving w) (serving' : t'.Serving w') (number : w.id = id)
      (number' : w'.id = id') (network : w'.network = w.network) (payload : w'.payload = w.payload)
      (trying : w'.trying = w.trying) (failures : w'.forwarder.failures = w.forwarder.failures)
  | ended {result : RequestResult} (served : t.Served id result) (served' : t'.Served id' result)

variable {t t' t₁ t₁' : Traffic} {id id' : RequestId} {n : NetworkId} {payload : Bytes}
  {s : Strides} {result : RequestResult}

theorem Mirrors.result? (h : t.Mirrors id id' t') : t'.result? id' = t.result? id := by
  cases h with
  | walking serving serving' number number' =>
    rw [← number, ← number', serving.pending, serving'.pending]
  | ended served served' => rw [served.result, served'.result]

theorem Mirrors.served (h : t.Mirrors id id' t') (hresult : t.result? id = some result) :
    t.Served id result := by
  cases h with
  | walking serving serving' number =>
    rw [← number, serving.pending] at hresult
    cases hresult
  | ended served served' =>
    rw [served.result] at hresult
    cases hresult
    exact served

theorem Mirrors.agree (h : t.Mirrors id id' t') (ha : t.Agree id t₁) : t₁.Mirrors id id' t' := by
  cases h with
  | walking serving serving' number number' network payload trying failures =>
    subst number
    exact .walking (ha.serving serving) serving' rfl number' network payload trying failures
  | ended served served' => exact .ended (ha.served served) served'

theorem Mirrors.of_placed (h : t.Placed id n payload s t₁) (h' : t'.Placed id' n payload s t₁')
    (hwalks : ∀ w ∈ t.walks, w.id ≠ id) (hwalks' : ∀ w ∈ t'.walks, w.id ≠ id')
    (hresult : t.result? id = none) (hresult' : t'.result? id' = none) :
    t₁.Mirrors id id' t₁' := by
  rcases h.cases hwalks hresult with
    ⟨w, hserving, hid, hnetwork, hbody, hstand, hfailures⟩ | ⟨result, hserved, hstand⟩
  · rcases h'.cases hwalks' hresult' with
      ⟨w', hserving', hid', hnetwork', hbody', hstand', hfailures'⟩ | ⟨_, _, hstand'⟩
    · rw [hstand] at hstand'
      exact .walking hserving hserving' hid hid' (hnetwork'.trans hnetwork.symm)
        (hbody'.trans hbody.symm) (Stand.trying.inj hstand').symm (hfailures'.trans hfailures.symm)
    · rw [hstand] at hstand'
      cases hstand'
  · rcases h'.cases hwalks' hresult' with ⟨_, _, _, _, _, hstand', _⟩ | ⟨_, hserved', hstand'⟩
    · rw [hstand] at hstand'
      cases hstand'
    · rw [hstand] at hstand'
      cases hstand'
      exact .ended hserved hserved'

theorem Served.find? (h : t.Served id result) : t.walks.find? (·.id == id) = none :=
  List.find?_eq_none.mpr fun w hw => by simpa using h.gone w hw

end Traffic

/-- What is left of a step for a request that is alone: the clock, the watch, and what is about that
request, which is now the first one. -/
def Step.alone? (id : RequestId) (s : Step) : Option Step :=
  match s.action with
  | .move (.traffic (.resume k)) =>
    if k = id then some ⟨s.env, .move (.traffic (.resume 0))⟩ else none
  | .move (.traffic (.drop k)) | .drop k => if k = id then some ⟨s.env, .drop 0⟩ else none
  | a => if a.ofWatch then some s else none

theorem Step.alone?_of_ofWatch {s : Step} (id : RequestId) (ha : s.action.ofWatch = true) :
    s.alone? id = some s := by
  obtain ⟨env, a⟩ := s
  cases a with
  | move m =>
    cases m with
    | watch m => rfl
    | traffic m => cases ha
  | wait t => rfl
  | refresh n => rfl
  | abandon n call => rfl
  | start => rfl
  | cancel => rfl
  | _ => cases ha

theorem Step.alone?_eq_none {s : Step} {r : Relay} {id : RequestId}
    (ha : s.action.ofWatch = false) (hid : s.action.request? r ≠ some id) :
    s.alone? id = none := by
  obtain ⟨env, a⟩ := s
  cases a with
  | move m =>
    cases m with
    | watch m => cases ha
    | traffic m => cases m <;> exact if_neg fun h => hid (congrArg some h)
  | drop k => exact if_neg fun h => hid (congrArg some h)
  | submit o => rfl
  | acquire => rfl
  | submitOn loan o => rfl
  | release loan => rfl
  | _ => cases ha

theorem Action.request?_of_ofWatch {a : Action} (r : Relay) (ha : a.ofWatch = true) :
    a.request? r = none := by
  cases a with
  | move m =>
    cases m with
    | watch m => rfl
    | traffic m => cases ha
  | submit o => cases ha
  | submitOn loan o => cases ha
  | drop id => cases ha
  | _ => rfl

namespace Relay

/-- What is urgent for a request that is alone, given what is urgent among others. -/
def Alone (id : RequestId) (urgent : Move → Prop) : Move → Prop
  | .watch m => urgent (.watch m)
  | .traffic m => m = .resume 0 ∧ urgent (.traffic (.resume id))

/-- Whether one relay serves a request alone that another one serves among others. -/
structure Isolates (id : RequestId) (r q : Relay) : Prop where
  alike : Alike r q
  known : r.traffic.Known
  started : id < r.traffic.nextRequest
  mirrors : r.traffic.Mirrors id 0 q.traffic

variable {urgent : Move → Prop} {env : Surroundings} {r r₀ r₁ r₂ q q₁ : Relay} {a : Action}
  {id : RequestId} {s : Step} {steps : List Step} {o : Order} {result : RequestResult}

theorem ofWatch_of_order? (ho : a.order? r = some o) : a.ofWatch = false := by
  cases a with
  | submit o => rfl
  | submitOn loan o => rfl
  | _ => cases ho

theorem Isolates.start (halike : Alike r q) (hknown : r.traffic.Known) {maxIdle : Nat}
    (hq : q.traffic = .new maxIdle) (ho : a.order? r = some o) (env : Surroundings) :
    Isolates r.traffic.nextRequest (r.act env a) (q.act env (.submit { o with patience := none })) ∧
    q.newPosts (q.act env (.submit { o with patience := none })) = r.newPosts (r.act env a) := by
  obtain ⟨hplaced, hnext, hposts⟩ := act_start env ho
  have ho' : (Action.submit { o with patience := none }).order? q =
      some { o with patience := none } := rfl
  obtain ⟨hplaced', -, hposts'⟩ := act_start env ho'
  rw [halike.settings, halike.watch, halike.clock] at hplaced' hposts'
  rw [hq] at hplaced'
  have hmirrors := Traffic.Mirrors.of_placed hplaced hplaced'
    (fun w hw => Nat.ne_of_lt (hknown.walks w hw)) (by simp [Traffic.new])
    hknown.result?_eq_none rfl
  have halike' := (act_alike env r (ofWatch_of_order? ho)).symm.trans
    (halike.trans (act_alike env q (ofWatch_of_order? ho')))
  exact ⟨⟨halike', (act_known env hknown).1, hnext ▸ Nat.lt_succ_self _, hmirrors⟩,
    hposts'.trans hposts.symm⟩

theorem Isolates.watch (h : Isolates id r q) (hp : r.Permits urgent a) (ha : a.ofWatch = true)
    (env : Surroundings) :
    q.Permits (Alone id urgent) a ∧ Isolates id (r.act env a) (q.act env a) := by
  constructor
  · refine h.alike.permits ha hp (fun _ hm => hm) ?_
    rintro t rfl ⟨due, m⟩ hm ⟨rfl, hurgent⟩
    obtain ⟨w'', hmem, hid, rfl⟩ := walk_of_resume_mem (traffic_mem_moves.mpr hm)
    cases h.mirrors with
    | @walking w w' serving serving' number number' network payload trying failures =>
      obtain rfl : w'' = w' := serving'.only w'' hmem (hid.trans number'.symm)
      have hdue := resume_mem_moves serving.mem
      rw [number] at hdue
      rw [trying]
      exact hp.2 _ hdue hurgent
    | ended served served' => exact absurd hid (served'.gone w'' hmem)
  · have htraffic := traffic_act_ofWatch env r ha
    have htraffic' := traffic_act_ofWatch env q ha
    refine ⟨h.alike.act env ha, htraffic ▸ h.known, htraffic ▸ h.started, ?_⟩
    rw [htraffic, htraffic']
    exact h.mirrors

theorem Isolates.resume (h : Isolates id r q)
    (hp : r.Permits urgent (.move (.traffic (.resume id))))
    (env : Surroundings) :
    q.Permits (Alone id urgent) (.move (.traffic (.resume 0))) ∧
    Isolates id (r.act env (.move (.traffic (.resume id))))
      (q.act env (.move (.traffic (.resume 0)))) ∧
    q.newPosts (q.act env (.move (.traffic (.resume 0)))) =
      r.newPosts (r.act env (.move (.traffic (.resume id)))) := by
  obtain ⟨due, hle, hmem⟩ := hp
  obtain ⟨w'', hw, hid, rfl⟩ := walk_of_resume_mem hmem
  cases h.mirrors with
  | ended served => exact absurd hid (served.gone w'' hw)
  | @walking w w' serving serving' number number' network payload trying failures =>
    obtain rfl : w'' = w := serving.only w'' hw (hid.trans number.symm)
    have hfind := serving.find?
    have hfind' := serving'.find?
    rw [number] at hfind
    rw [number'] at hfind'
    obtain ⟨hplaced, hnext, hposts⟩ := act_resume env hfind
    obtain ⟨hplaced', -, hposts'⟩ := act_resume env hfind'
    rw [h.alike.settings, h.alike.clock, network, payload, trying, failures] at hplaced' hposts'
    have hdue := resume_mem_moves serving'.mem
    rw [number', trying] at hdue
    refine ⟨⟨_, h.alike.clock ▸ hle, hdue⟩, ⟨?_, (act_known env h.known).1, hnext ▸ h.started, ?_⟩,
      hposts'.trans hposts.symm⟩
    · exact (act_alike env r rfl).symm.trans (h.alike.trans (act_alike env q rfl))
    · exact .of_placed hplaced hplaced' Traffic.withoutWalk_gone Traffic.withoutWalk_gone
        (number ▸ serving.pending) (number' ▸ serving'.pending)

theorem newPosts_drop (env : Surroundings) (r : Relay) (id : RequestId) :
    r.newPosts (r.act env (.drop id)) = [] := by
  refine (newPosts_withTraffic r _).trans ?_
  simp only [Traffic.apply]
  cases r.traffic.walks.find? (·.id == id) <;> rfl

theorem drop_served (env : Surroundings) (h : r.traffic.Served id result) :
    (r.act env (.drop id)).traffic = r.traffic := by
  simp only [act, apply, withTraffic, log_traffic, Traffic.apply, h.find?]

theorem Isolates.drop (h : Isolates id r q) (env : Surroundings) :
    Isolates id (r.act env (.drop id)) (q.act env (.drop 0)) ∧
    (r.traffic.result? id = none → (r.act env (.drop id)).traffic.result? id = some .dropped) := by
  have halike := (act_alike env r (a := .drop id) rfl).symm.trans
    (h.alike.trans (act_alike env q (a := .drop 0) rfl))
  obtain ⟨hknown, hnext⟩ := act_known env h.known (a := .drop id)
  have hstarted := Nat.lt_of_lt_of_le h.started hnext
  cases h.mirrors with
  | ended served served' =>
    refine ⟨⟨halike, hknown, hstarted, ?_⟩, by simp [served.result]⟩
    rw [drop_served env served, drop_served env served']
    exact .ended served served'
  | walking serving serving' number number' network payload trying failures =>
    have hfind := serving.find?
    have hfind' := serving'.find?
    rw [number] at hfind
    rw [number'] at hfind'
    obtain ⟨hplaced, -⟩ := act_drop env hfind
    obtain ⟨hplaced', -⟩ := act_drop env hfind'
    rw [network, payload] at hplaced'
    have hmirrors := Traffic.Mirrors.of_placed hplaced hplaced' Traffic.withoutWalk_gone
      Traffic.withoutWalk_gone (number ▸ serving.pending) (number' ▸ serving'.pending)
    refine ⟨⟨halike, hknown, hstarted, hmirrors⟩, fun _ => ?_⟩
    rcases hplaced.cases Traffic.withoutWalk_gone (number ▸ serving.pending) with
      ⟨_, _, _, _, _, hstand, _⟩ | ⟨_, hserved, hstand⟩
    · cases hstand
    · cases hstand
      exact hserved.result

/-- What a step does for the request, it does for the request alone. -/
theorem Isolates.act (h : Isolates id r q) (hp : r.Permits urgent s.action) :
    ∃ q', Run (Alone id urgent) q (s.alone? id).toList q' ∧
      Isolates id (r.act s.env s.action) q' ∧ q.postsFor 0 (s.alone? id).toList =
        if s.action.request? r = some id then r.newPosts (r.act s.env s.action) else [] := by
  obtain ⟨env, a⟩ := s
  cases ha : a.ofWatch with
  | true =>
    obtain ⟨hp', h'⟩ := h.watch hp ha env
    rw [Step.alone?_of_ofWatch id ha]
    refine ⟨_, .single (s := ⟨env, a⟩) hp', h', ?_⟩
    simp [postsFor, Action.request?_of_ofWatch _ ha]
  | false =>
    by_cases hrequest : a.request? r = some id
    · rw [if_pos hrequest]
      have hdrop : ∃ q', Run (Alone id urgent) q [⟨env, .drop 0⟩] q' ∧
          Isolates id (r.act env (.drop id)) q' ∧
          q.postsFor 0 [⟨env, .drop 0⟩] = r.newPosts (r.act env (.drop id)) := by
        refine ⟨_, .single (s := ⟨env, .drop 0⟩) trivial, (h.drop env).1, ?_⟩
        simp [postsFor, newPosts_drop]
      rcases Action.request?_eq_some hrequest with (rfl | rfl | rfl) | ⟨_, _, hid⟩
      · obtain ⟨hp', h', hposts⟩ := h.resume hp env
        have hstep : Step.alone? id ⟨env, .move (.traffic (.resume id))⟩ =
            some ⟨env, .move (.traffic (.resume 0))⟩ := if_pos rfl
        rw [hstep]
        refine ⟨_, .single (s := ⟨env, .move (.traffic (.resume 0))⟩) hp', h', ?_⟩
        rw [← hposts]
        exact (List.append_nil _).trans (if_pos rfl)
      · have hstep : Step.alone? id ⟨env, .move (.traffic (.drop id))⟩ = some ⟨env, .drop 0⟩ :=
          if_pos rfl
        rw [hstep]
        exact hdrop
      · have hstep : Step.alone? id ⟨env, .drop id⟩ = some ⟨env, .drop 0⟩ := if_pos rfl
        rw [hstep]
        exact hdrop
      · exact absurd hid (Nat.ne_of_lt h.started)
    · rw [if_neg hrequest, Step.alone?_eq_none ha hrequest]
      obtain ⟨hknown, hnext⟩ := act_known env h.known (a := a)
      exact ⟨q, .nil q, ⟨(act_alike env r ha).symm.trans h.alike, hknown,
        Nat.lt_of_lt_of_le h.started hnext, h.mirrors.agree (act_agree env h.started hrequest)⟩,
        rfl⟩

theorem Isolates.run (h : Isolates id r₁ q₁) (hrun : Run urgent r₁ steps r₂) :
    ∃ q₂, Run (Alone id urgent) q₁ (steps.filterMap (Step.alone? id)) q₂ ∧ Isolates id r₂ q₂ ∧
      q₁.postsFor 0 (steps.filterMap (Step.alone? id)) = r₁.postsFor id steps := by
  induction hrun generalizing q₁ with
  | nil => exact ⟨q₁, .nil q₁, h, rfl⟩
  | @cons r r' s steps permitted _ ih =>
    obtain ⟨q, hfirst, hq, hposts⟩ := h.act permitted
    obtain ⟨q₂, hrest, hq₂, hmore⟩ := ih hq
    have hsplit : (s :: steps).filterMap (Step.alone? id) =
        (s.alone? id).toList ++ steps.filterMap (Step.alone? id) := by
      rw [List.filterMap_cons]
      cases s.alone? id <;> rfl
    rw [hsplit]
    refine ⟨q₂, hfirst.append hrest, hq₂, ?_⟩
    rw [postsFor_append hfirst, hposts, hmore, postsFor]

theorem served_run (hrun : Run urgent r₁ steps r₂) (hknown : r₁.traffic.Known)
    (hid : id < r₁.traffic.nextRequest) (h : r₁.traffic.Served id result) :
    r₂.traffic.Served id result ∧ r₁.postsFor id steps = [] := by
  induction hrun with
  | nil => exact ⟨h, rfl⟩
  | @cons r r' s steps permitted _ ih =>
    obtain ⟨hknown', hnext⟩ := act_known s.env hknown (a := s.action)
    have hstep : (r.act s.env s.action).traffic.Served id result ∧
        (s.action.request? r = some id → r.newPosts (r.act s.env s.action) = []) := by
      by_cases hrequest : s.action.request? r = some id
      · rcases Action.request?_eq_some hrequest with (ha | ha | ha) | ⟨_, _, hstart⟩
        · rw [ha] at permitted
          obtain ⟨due, -, hmem⟩ := permitted
          obtain ⟨w, hw, hwid, -⟩ := walk_of_resume_mem hmem
          exact absurd hwid (h.gone w hw)
        · rw [ha]
          exact ⟨(drop_served s.env h).symm ▸ h, fun _ => newPosts_drop s.env r id⟩
        · rw [ha]
          exact ⟨(drop_served s.env h).symm ▸ h, fun _ => newPosts_drop s.env r id⟩
        · exact absurd hstart (Nat.ne_of_lt hid)
      · exact ⟨(act_agree s.env hid hrequest).served h, fun heq => absurd heq hrequest⟩
    obtain ⟨hserved, hnone⟩ := hstep
    obtain ⟨hend, hposts⟩ := ih hknown' (Nat.lt_of_lt_of_le hid hnext) hserved
    refine ⟨hend, ?_⟩
    rw [postsFor, hposts, List.append_nil]
    split
    · rename_i hrequest
      exact hnone hrequest
    · rfl

variable {c : Config} {registry : Registry} {epoch : Moment} {before : List Step}

/-- Whoever else is served before and meanwhile, and however those requests end, a request has the
result that it has alone, with a new pool and at the same rankings, and it has posted the same. Once
it is over, as it is when it is dropped, it posts no more. -/
theorem requests_independent (hbefore : Run urgent (.new c registry epoch) before r₀)
    (ho : a.order? r₀ = some o) (hrun : Run urgent (r₀.act env a) steps r) (maxIdle : UInt64) :
    let id := r₀.traffic.nextRequest
    let new := Relay.new { c with maxIdleForwarders := maxIdle } registry epoch
    let own : List Step :=
      ⟨env, .submit { o with patience := none }⟩ :: steps.filterMap (Step.alone? id)
    (∃ q₀ q, Run (Alone id urgent) new (before.filter (·.action.ofWatch)) q₀ ∧
      q₀.clock = r₀.clock ∧ q₀.watch = r₀.watch ∧ q₀.traffic = .new maxIdle.toNat ∧
      Run (Alone id urgent) q₀ own q ∧
      q.clock = r.clock ∧ q.watch = r.watch ∧ q.news = r.news ∧
      q.traffic.result? 0 = r.traffic.result? id ∧
      q₀.postsFor 0 own = r₀.postsFor id (⟨env, a⟩ :: steps)) ∧
    (∀ result, r.traffic.result? id = some result → ∀ urgent' more r', Run urgent' r more r' →
      r'.traffic.result? id = some result ∧ r.postsFor id more = []) ∧
    (r.traffic.result? id = none → ∀ env',
      (r.act env' (.drop id)).traffic.result? id = some .dropped ∧
      r.newPosts (r.act env' (.drop id)) = []) := by
  intro id new own
  have hr₀ : Reachable c registry r₀ := ⟨epoch, before, hbefore.mono fun _ => False.elim⟩
  have hnew : Alike (.new c registry epoch) new := ⟨rfl, rfl, rfl, rfl⟩
  have hsilent : ∃ q₀, Run (Alone id urgent) new (before.filter (·.action.ofWatch)) q₀ ∧
      Alike r₀ q₀ ∧ q₀.traffic = .new maxIdle.toNat := hbefore.quiet hnew rfl fun _ hm => hm
  obtain ⟨q₀, hquiet, halike, htraffic⟩ := hsilent
  obtain ⟨hstart, hfirst⟩ := Isolates.start halike hr₀.known htraffic ho env
  obtain ⟨q, hq, hend, hposts⟩ := hstart.run hrun
  refine ⟨⟨q₀, q, hquiet, halike.clock, halike.watch, htraffic, .cons _ trivial hq,
    hend.alike.clock, hend.alike.watch, hend.alike.news, hend.mirrors.result?, ?_⟩, ?_, ?_⟩
  · have hrequest : (Action.submit { o with patience := none }).request? q₀ = some 0 := by
      simp only [Action.request?, Action.order?, Option.map_some, htraffic, Traffic.new]
    rw [postsFor, postsFor, hposts, hfirst, if_pos (Action.request?_of_order? ho), if_pos hrequest]
  · intro result hresult urgent' more r' hmore
    obtain ⟨hserved, hnone⟩ :=
      served_run hmore hend.known hend.started (hend.mirrors.served hresult)
    exact ⟨hserved.result, hnone⟩
  · exact fun hnone env' => ⟨(hend.drop env').2 hnone, newPosts_drop env' r id⟩

def discarded : List Step :=
  [⟨unready, .submit ⟨⟨1⟩, [1], none⟩⟩, ⟨unready, .wait 20⟩,
    ⟨unready, .move (.traffic (.resume 0))⟩, ⟨unready, .drop 0⟩]

def following : List Step :=
  [⟨unready, .submit ⟨⟨1⟩, [3], none⟩⟩, ⟨unready, .wait 40⟩,
    ⟨unready, .move (.traffic (.resume 1))⟩, ⟨unready, .drop 2⟩, ⟨unready, .wait 45⟩,
    ⟨unready, .move (.traffic (.resume 1))⟩]

theorem requests_independent_reused :
    ∃ r₀ r q₀ q : Relay, ∃ own, r.traffic.pool.reused = 1 ∧ r.watch = q.watch ∧
      q₀.traffic = .new 0 ∧ (r.traffic.result? 1).isSome = true ∧
      q.traffic.result? 0 = r.traffic.result? 1 ∧
      q₀.postsFor 0 own = r₀.postsFor 1 (⟨unready, .submit ⟨⟨1⟩, [2], none⟩⟩ :: following) ∧
      q₀.postsFor 0 own = [⟨20, "http://[::1]", [2]⟩, ⟨40, "http://[::2]", [2]⟩] := by
  let o : Order := ⟨⟨1⟩, [2], none⟩
  let new := Relay.new (.withNetworks []) .loopback ⟨0, 0⟩
  let r₀ := new.after discarded
  let r := (r₀.act unready (.submit o)).after following
  have hbefore : Run (fun _ => False) new discarded r₀ := run_after (by decide +kernel)
  have hrun : Run (fun _ => False) (r₀.act unready (.submit o)) following r :=
    run_after (by decide +kernel)
  obtain ⟨⟨q₀, q, -, -, -, htraffic, -, -, hwatch, -, hresult, hposts⟩, -⟩ :=
    requests_independent hbefore rfl hrun 0
  refine ⟨r₀, r, q₀, q, _, by decide +kernel, hwatch.symm, htraffic, by decide +kernel, hresult,
    hposts, hposts.trans ?_⟩
  decide +kernel

end Relay

end RankedRelay
