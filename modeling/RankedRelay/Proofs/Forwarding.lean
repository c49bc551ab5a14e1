import RankedRelay.Proofs.Coherence
import RankedRelay.Proofs.Traffic

namespace RankedRelay

/-- A request that is served, and the journey it has to make. -/
structure Errand where
  id : RequestId
  network : NetworkId
  payload : Bytes
  post : Transport
  timeout : UInt64
  journey : Journey

namespace Relay

variable {urgent : Move → Prop} {r r₁ r₂ : Relay} {id : RequestId} {steps : List Step}

/-- The posts of a request, as the steps that are about it add them to the log. -/
def postsFor (id : RequestId) (r : Relay) : List Step → List Post
  | [] => []
  | s :: rest =>
    (if s.action.request? r = some id then r.newPosts (r.act s.env s.action) else []) ++
      (r.act s.env s.action).postsFor id rest

theorem postsFor_append (h : Run urgent r₁ steps r₂) (more : List Step) :
    r₁.postsFor id (steps ++ more) = r₁.postsFor id steps ++ r₂.postsFor id more := by
  induction h with
  | nil => rfl
  | cons s permitted rest ih => rw [List.cons_append, postsFor, postsFor, ih, List.append_assoc]

/-- Whether a move is the one with which a request goes on. -/
def OfRequest (id : RequestId) (m : Move) : Prop := m = .traffic (.resume id)

instance (id : RequestId) : DecidablePred (OfRequest id) :=
  fun m => inferInstanceAs (Decidable (m = .traffic (.resume id)))

theorem resume_mem_moves {w : Walk} (hw : w ∈ r.traffic.walks) :
    (w.trying.flight.due, .traffic (.resume w.id)) ∈ r.moves := by
  rw [moves, List.mem_append]
  refine .inr (List.mem_map.mpr ⟨(w.trying.flight.due, .resume w.id), ?_, rfl⟩)
  rw [Traffic.moves, List.mem_append]
  exact .inl (List.mem_map.mpr ⟨w, hw, rfl⟩)

theorem walk_of_resume_mem {due : Nat} (h : (due, .traffic (.resume id)) ∈ r.moves) :
    ∃ w ∈ r.traffic.walks, w.id = id ∧ w.trying.flight.due = due := by
  rw [moves, List.mem_append] at h
  rcases h with h | h
  · obtain ⟨⟨_, _⟩, _, heq⟩ := List.mem_map.mp h
    cases heq
  · obtain ⟨⟨_, _⟩, hmem, heq⟩ := List.mem_map.mp h
    cases heq
    rw [Traffic.moves, List.mem_append] at hmem
    rcases hmem with hmem | hmem
    · obtain ⟨w, hw, heq⟩ := List.mem_map.mp hmem
      cases heq
      exact ⟨w, hw, rfl, rfl⟩
    · obtain ⟨w, _, heq⟩ := List.mem_filterMap.mp hmem
      obtain ⟨_, _, heq⟩ := Option.map_eq_some_iff.mp heq
      cases heq

end Relay

namespace Errand

variable (q : Errand)

structure Walking (r : Relay) (posted : List Post) (w : Walk) : Prop where
  serving : r.traffic.Serving w
  number : w.id = q.id
  network : w.network = q.network
  body : w.payload = q.payload
  attempt : ∃ departed,
    w.trying.flight = Walk.flight q.post q.timeout q.payload departed w.trying.endpoint ∧
    q.journey = (Journey.onward q.post q.timeout q.payload departed w.trying.endpoint
      w.trying.rest).behind posted w.forwarder.failures
  clock_le : r.clock ≤ w.trying.flight.due

structure Arrived (r : Relay) (posted : List Post) : Prop where
  served : r.traffic.Served q.id (q.journey.result q.network)
  posted : posted = q.journey.posts
  ended_le : q.journey.ended ≤ r.clock

open Relay

variable {q} {env : Surroundings} {r r' r₁ r₂ : Relay} {a : Action} {posted : List Post} {w : Walk}
  {s : Strides} {t : Traffic} {j : Journey} {o : Order} {steps : List Step} {c : Config}
  {registry : Registry}

theorem of_placed (hplaced : t.Placed q.id q.network q.payload s r.traffic)
    (hwalks : ∀ w ∈ t.walks, w.id ≠ q.id) (hresult : t.result? q.id = none)
    (hfollows : s.Follows q.post q.timeout q.payload q.network r.clock j)
    (hj : q.journey = j.behind posted []) :
    (∃ w, q.Walking r (posted ++ s.events.filterMap WalkEvent.post?) w ∧
      s.stand = .trying w.trying) ∨
    (q.Arrived r (posted ++ s.events.filterMap WalkEvent.post?) ∧ q.journey.ended = r.clock) := by
  rcases hplaced.cases hwalks hresult with
    ⟨w, hserving, hid, hnetwork, hbody, hstand, hfailures⟩ | ⟨result, hserved, hstand⟩
  · obtain ⟨hflight, rfl⟩ := hfollows.trying w.trying hstand
    refine .inl ⟨w, ⟨hserving, hid, hnetwork, hbody, ⟨r.clock, hflight, ?_⟩, ?_⟩, hstand⟩
    · rw [hj, Journey.behind_behind, hfailures]
      rfl
    · rw [hflight, Walk.due_flight]
      exact Nat.le_add_right _ _
  · obtain ⟨hposts, rfl, harrived⟩ := hfollows.done result hstand
    have hended : q.journey.ended = r.clock := by
      rw [hj]
      exact harrived
    refine .inr ⟨⟨?_, ?_, Nat.le_of_eq hended⟩, hended⟩
    · rw [hj]
      exact hserved
    · rw [hj, ← hposts]
      rfl

/-- How far a request has come. -/
inductive At (q : Errand) (r : Relay) (posted : List Post) : Prop
  | walking (w : Walk) (h : q.Walking r posted w)
  | arrived (h : q.Arrived r posted)

theorem at_start (hr : Reachable c registry r) (ho : a.order? r = some o)
    (hid : q.id = r.traffic.nextRequest) (hnetwork : q.network = o.network)
    (hbody : q.payload = o.payload) (hpost : env.post = q.post)
    (hlimit : r.settings.attemptTimeout = q.timeout.toNat)
    (hj : q.journey = .of q.post q.timeout q.payload (r.watch.ranking o.network) r.clock) :
    q.At (r.act env a) (r.newPosts (r.act env a)) := by
  obtain ⟨hplaced, -, hposts⟩ := act_start env ho
  have hclock : (r.act env a).clock = r.clock := act_clock r env fun t ht => by
    subst ht
    cases ho
  rw [hpost, hlimit, ← hnetwork, ← hbody] at hplaced hposts
  rw [← hnetwork] at hj
  rw [hposts]
  have hwalks : ∀ w ∈ r.traffic.walks, w.id ≠ q.id := fun w hw =>
    hid ▸ Nat.ne_of_lt (hr.known.walks w hw)
  have hresult : r.traffic.result? q.id = none := hid ▸ hr.known.result?_eq_none
  rw [← hid] at hplaced
  have hfollows : (Walk.begin q.post q.timeout.toNat (r.watch.ranking q.network) q.network q.payload
      r.clock).Follows q.post q.timeout q.payload q.network (r.act env a).clock q.journey := by
    rw [hj, hclock]
    exact Walk.begin_follows
  rcases of_placed hplaced hwalks hresult hfollows q.journey.behind_nil.symm with
    ⟨w, hw, -⟩ | ⟨harrived, -⟩
  · exact .walking w hw
  · exact .arrived harrived

theorem Walking.resume (h : q.Walking r posted w)
    (hlimit : r.settings.attemptTimeout = q.timeout.toNat) (hpost : env.post = q.post)
    (hdue : w.trying.flight.due ≤ r.clock) :
    (∃ w', q.Walking (r.act env (.move (.traffic (.resume q.id))))
        (posted ++ r.newPosts (r.act env (.move (.traffic (.resume q.id))))) w' ∧
      w'.trying.rest.length < w.trying.rest.length) ∨
    (q.Arrived (r.act env (.move (.traffic (.resume q.id))))
        (posted ++ r.newPosts (r.act env (.move (.traffic (.resume q.id))))) ∧
      q.journey.ended = (r.act env (.move (.traffic (.resume q.id)))).clock) := by
  obtain ⟨departed, hflight, hj⟩ := h.attempt
  have hfind := h.serving.find?
  rw [h.number] at hfind
  obtain ⟨hplaced, -, hposts⟩ := act_resume env hfind
  have hclock : r.clock = w.trying.flight.due := Nat.le_antisymm h.clock_le hdue
  have hclock' : (r.act env (.move (.traffic (.resume q.id)))).clock = w.trying.flight.due :=
    (act_clock r env (by simp)).trans hclock
  rw [hlimit, hpost, hclock, h.network, h.body] at hplaced hposts
  have hwalks : ∀ w ∈ (r.traffic.withoutWalk q.id).walks, w.id ≠ q.id :=
    Traffic.withoutWalk_gone
  have hresult : (r.traffic.withoutWalk q.id).result? q.id = none := h.number ▸ h.serving.pending
  have hfollows : (Walk.resume q.post q.timeout.toNat q.network q.payload w.trying.flight.due
      w.trying w.forwarder.failures).Follows q.post q.timeout q.payload q.network
      (r.act env (.move (.traffic (.resume q.id)))).clock
      ((Journey.onward q.post q.timeout q.payload departed w.trying.endpoint
        w.trying.rest).behind [] w.forwarder.failures) := by
    rw [hclock']
    exact Walk.resume_follows hflight
  have hjourney : q.journey = ((Journey.onward q.post q.timeout q.payload departed w.trying.endpoint
      w.trying.rest).behind [] w.forwarder.failures).behind posted [] := by
    rw [hj, Journey.behind_behind, List.append_nil, List.nil_append]
  rw [hposts]
  rcases of_placed hplaced hwalks hresult hfollows hjourney with ⟨w', hw', hstand⟩ | harrived
  · exact .inl ⟨w', hw', Walk.resume_rest hstand⟩
  · exact .inr harrived

theorem Walking.agree (h : q.Walking r posted w) (hagree : r.traffic.Agree q.id r'.traffic)
    (hclock : r'.clock ≤ w.trying.flight.due) : q.Walking r' posted w where
  serving := by
    rw [← h.number] at hagree
    exact hagree.serving h.serving
  number := h.number
  network := h.network
  body := h.body
  attempt := h.attempt
  clock_le := hclock

theorem Walking.clock_act (h : q.Walking r posted w) (hp : r.Permits (OfRequest q.id) a) :
    (r.act env a).clock ≤ w.trying.flight.due := by
  cases a with
  | wait t => exact hp.2 _ (resume_mem_moves h.serving.mem) (by rw [OfRequest, h.number])
  | _ => exact Nat.le_trans (Nat.le_of_eq (act_clock r env (by simp))) h.clock_le

theorem At.act (h : q.At r posted) (hid : q.id < r.traffic.nextRequest)
    (hlimit : r.settings.attemptTimeout = q.timeout.toNat) (hpost : env.post = q.post)
    (hdrop : a ≠ .drop q.id) (hdrop' : a ≠ .move (.traffic (.drop q.id)))
    (hp : r.Permits (OfRequest q.id) a) :
    q.At (r.act env a)
      (posted ++ if a.request? r = some q.id then r.newPosts (r.act env a) else []) := by
  by_cases hrequest : a.request? r = some q.id
  · rw [if_pos hrequest]
    obtain rfl : a = .move (.traffic (.resume q.id)) := by
      rcases Action.request?_eq_some hrequest with (h | h | h) | ⟨_, _, h⟩
      · exact h
      · exact absurd h hdrop'
      · exact absurd h hdrop
      · exact absurd h (Nat.ne_of_lt hid)
    obtain ⟨due, hdue, hmem⟩ := hp
    obtain ⟨w', hw', hid', rfl⟩ := walk_of_resume_mem hmem
    cases h with
    | walking w h =>
      have heq : w' = w := h.serving.only w' hw' (hid'.trans h.number.symm)
      subst heq
      rcases h.resume hlimit hpost hdue with ⟨w', hw', -⟩ | ⟨harrived, -⟩
      · exact .walking w' hw'
      · exact .arrived harrived
    | arrived h => exact absurd hid' (h.served.gone w' hw')
  · rw [if_neg hrequest, List.append_nil]
    have hagree := act_agree env hid hrequest
    cases h with
    | walking w h => exact .walking w (h.agree hagree (h.clock_act hp))
    | arrived h =>
      have hended := Nat.le_trans h.ended_le (clock_le_act env hp)
      exact .arrived ⟨hagree.served h.served, h.posted, hended⟩

def Allows (q : Errand) (s : Step) : Prop :=
  s.env.post = q.post ∧ s.action ≠ .drop q.id ∧ s.action ≠ .move (.traffic (.drop q.id))

theorem Walking.wait (h : q.Walking r posted w) :
    q.Walking { r with clock := w.trying.flight.due } posted w where
  serving := h.serving
  number := h.number
  network := h.network
  body := h.body
  attempt := h.attempt
  clock_le := Nat.le_refl _

theorem Walking.progress (h : q.Walking r posted w)
    (hlimit : r.settings.attemptTimeout = q.timeout.toNat) (hpost : env.post = q.post) :
    ∃ steps r', Run (OfRequest q.id) r steps r' ∧ (∀ s ∈ steps, q.Allows s) ∧
      ((∃ w', q.Walking r' (posted ++ r.postsFor q.id steps) w' ∧
        w'.trying.rest.length < w.trying.rest.length) ∨
      (q.Arrived r' (posted ++ r.postsFor q.id steps) ∧ q.journey.ended = r'.clock)) := by
  have hwait : r.Permits (OfRequest q.id) (.wait w.trying.flight.due) := by
    refine ⟨h.clock_le, ?_⟩
    rintro ⟨due, m⟩ hmem rfl
    obtain ⟨w', hw', hid', rfl⟩ := walk_of_resume_mem hmem
    obtain rfl : w' = w := h.serving.only w' hw' (hid'.trans h.number.symm)
    exact Nat.le_refl _
  have hlater := h.wait
  have hresume : ({ r with clock := w.trying.flight.due } : Relay).Permits (OfRequest q.id)
      (.move (.traffic (.resume q.id))) := by
    have hmem := resume_mem_moves hlater.serving.mem
    rw [h.number] at hmem
    exact ⟨_, Nat.le_refl _, hmem⟩
  refine ⟨[⟨env, .wait w.trying.flight.due⟩, ⟨env, .move (.traffic (.resume q.id))⟩], _,
    .cons ⟨env, .wait _⟩ hwait (.single hresume), by simp [Allows, hpost], ?_⟩
  have hposts : r.postsFor q.id [⟨env, .wait w.trying.flight.due⟩,
      ⟨env, .move (.traffic (.resume q.id))⟩] =
      newPosts { r with clock := w.trying.flight.due } (Relay.act env
        { r with clock := w.trying.flight.due } (.move (.traffic (.resume q.id)))) := by
    simp [postsFor, Action.request?, Action.order?, Relay.act]
  rw [hposts]
  exact hlater.resume hlimit hpost (Nat.le_refl _)

theorem Walking.completes (h : q.Walking r posted w)
    (hlimit : r.settings.attemptTimeout = q.timeout.toNat) (hpost : env.post = q.post) :
    ∃ steps r', Run (OfRequest q.id) r steps r' ∧ (∀ s ∈ steps, q.Allows s) ∧
      q.Arrived r' (posted ++ r.postsFor q.id steps) ∧ q.journey.ended = r'.clock := by
  -- By the number of endpoints that are still to be tried: attempts may end at once.
  induction hk : w.trying.rest.length using Nat.strongRecOn generalizing r posted w with
  | ind k ih =>
    obtain ⟨steps, r', hrun, hsteps, hend⟩ := h.progress hlimit hpost
    rcases hend with ⟨w', hw', hfewer⟩ | harrived
    · have hlimit' : r'.settings.attemptTimeout = q.timeout.toNat := by
        rw [settings_run hrun, hlimit]
      obtain ⟨more, r'', hmore, hall, harrived⟩ := ih _ (hk ▸ hfewer) hw' hlimit' rfl
      refine ⟨steps ++ more, r'', hrun.append hmore, fun s hs => ?_, ?_⟩
      · exact (List.mem_append.mp hs).elim (hsteps s) (hall s)
      · rw [postsFor_append hrun, ← List.append_assoc]
        exact harrived
    · exact ⟨steps, r', hrun, hsteps, harrived⟩

theorem At.run (h : q.At r₁ posted) (hid : q.id < r₁.traffic.nextRequest)
    (hknown : r₁.traffic.Known) (hlimit : r₁.settings.attemptTimeout = q.timeout.toNat)
    (hrun : Run (OfRequest q.id) r₁ steps r₂) (hsteps : ∀ s ∈ steps, q.Allows s) :
    q.At r₂ (posted ++ r₁.postsFor q.id steps) := by
  induction hrun generalizing posted with
  | nil =>
    rw [postsFor, List.append_nil]
    exact h
  | @cons r r' s rest permitted hrest ih =>
    obtain ⟨hpost, hdrop, hdrop'⟩ := hsteps s List.mem_cons_self
    obtain ⟨hknown', hnext⟩ := act_known s.env hknown (a := s.action)
    rw [postsFor, ← List.append_assoc]
    refine ih (h.act hid hlimit hpost hdrop hdrop' permitted) (Nat.lt_of_lt_of_le hid hnext)
      hknown' ?_ fun s' hs' => hsteps s' (List.mem_cons_of_mem _ hs')
    rw [act_settings, hlimit]

theorem At.result (h : q.At r posted) (env : Surroundings) (hpost : env.post = q.post)
    (hlimit : r.settings.attemptTimeout = q.timeout.toNat) :
    posted <+: q.journey.posts ∧
    (∀ result, r.traffic.result? q.id = some result →
      result = q.journey.result q.network ∧ posted = q.journey.posts ∧ q.journey.ended ≤ r.clock) ∧
    (r.traffic.result? q.id = none → r.clock ≤ q.journey.ended ∧
      ∃ steps r', Run (OfRequest q.id) r steps r' ∧ (∀ s ∈ steps, q.Allows s) ∧
        r'.clock = q.journey.ended ∧ r'.traffic.result? q.id = some (q.journey.result q.network) ∧
        posted ++ r.postsFor q.id steps = q.journey.posts) := by
  cases h with
  | walking w h =>
    have hnone := h.serving.pending
    rw [h.number] at hnone
    obtain ⟨departed, hflight, hj⟩ := h.attempt
    refine ⟨?_, by simp [hnone], fun _ => ⟨Nat.le_trans h.clock_le ?_, ?_⟩⟩
    · rw [hj]
      exact List.prefix_append _ _
    · rw [hj, hflight, Walk.due_flight]
      exact Journey.le_onward_ended
    · obtain ⟨steps, r', hrun, hsteps, harrived, hclock⟩ := h.completes hlimit hpost
      exact ⟨steps, r', hrun, hsteps, hclock.symm, harrived.served.result, harrived.posted⟩
  | arrived h =>
    have hsome := h.served.result
    refine ⟨h.posted ▸ List.prefix_refl _, fun result hresult => ?_, by simp [hsome]⟩
    rw [hsome] at hresult
    cases hresult
    exact ⟨rfl, h.posted, h.ended_le⟩

end Errand

namespace Relay

variable {c : Config} {registry : Registry} {r₀ r : Relay} {env : Surroundings} {a : Action}
  {o : Order} {post : Transport} {steps : List Step}

theorem permits_of_order? {urgent : Move → Prop} (ho : a.order? r₀ = some o) :
    r₀.Permits urgent a := by
  cases a with
  | submit _ => trivial
  | submitOn _ _ => trivial
  | _ => cases ho

/-- A request comes to the end of its journey, with nothing else posted on the way. -/
theorem request_run (hr : Reachable c registry r₀) (ho : a.order? r₀ = some o)
    (hrun : Run (OfRequest r₀.traffic.nextRequest) (r₀.act env a) steps r)
    (hsteps : ∀ st ∈ steps, st.env.post = env.post ∧ st.action ≠ .drop r₀.traffic.nextRequest ∧
      st.action ≠ .move (.traffic (.drop r₀.traffic.nextRequest))) :
    let id := r₀.traffic.nextRequest
    let journey := Journey.of env.post c.attemptTimeoutMs o.payload (r₀.watch.ranking o.network)
      r₀.clock
    (r₀.postsFor id (⟨env, a⟩ :: steps) <+: journey.posts) ∧
    (r.traffic.result? id = none ∨
      r.traffic.result? id = some (journey.result o.network) ∧
        r₀.postsFor id (⟨env, a⟩ :: steps) = journey.posts) ∧
    ∃ more r', Run (OfRequest id) r more r' ∧
      (∀ st ∈ more, st.env.post = env.post ∧ st.action ≠ .drop id ∧
        st.action ≠ .move (.traffic (.drop id))) ∧
      r'.traffic.result? id = some (journey.result o.network) ∧
      r₀.postsFor id (⟨env, a⟩ :: (steps ++ more)) = journey.posts := by
  intro id journey
  let q : Errand := ⟨id, o.network, o.payload, env.post, c.attemptTimeoutMs, journey⟩
  have hstart : q.At (r₀.act env a) (r₀.newPosts (r₀.act env a)) :=
    Errand.at_start hr ho rfl rfl rfl rfl hr.settings.2 rfl
  have hreach : Reachable c registry (r₀.act env a) := hr.act env (permits_of_order? ho)
  have hposts : ∀ steps', r₀.postsFor id (⟨env, a⟩ :: steps') =
      r₀.newPosts (r₀.act env a) ++ (r₀.act env a).postsFor id steps' := by
    intro steps'
    rw [postsFor, if_pos (Action.request?_of_order? ho)]
  have hnext : id < (r₀.act env a).traffic.nextRequest := by
    rw [(act_start env ho).2.1]
    exact Nat.lt_succ_self _
  have hat : q.At r (r₀.postsFor id (⟨env, a⟩ :: steps)) := by
    rw [hposts]
    exact hstart.run hnext hreach.known hreach.settings.2 hrun hsteps
  obtain ⟨hgrows, harrived, hrest⟩ := hat.result env rfl (hreach.run hrun).settings.2
  cases hresult : r.traffic.result? id with
  | none =>
    obtain ⟨-, more, r', hmore, hallowed, -, hend, hall⟩ := hrest hresult
    refine ⟨hgrows, .inl rfl, more, r', hmore, hallowed, hend, ?_⟩
    rw [hposts, postsFor_append hrun, ← List.append_assoc, ← hposts]
    exact hall
  | some result =>
    obtain ⟨rfl, hall, -⟩ := harrived result hresult
    refine ⟨hgrows, .inr ⟨rfl, hall⟩, [], r, .nil r, by simp, hresult, ?_⟩
    rw [List.append_nil, hall]

/-- A request makes the journey down the ranking that its network has when it starts, whatever
becomes of the ranking meanwhile. It posts what the journey posts and gets what the journey arrives
at, when it does, and nothing keeps it from arriving. That ranking has each endpoint of the network
once. -/
theorem forward_exact (hb : registry.Built) (hr : Reachable c registry r₀)
    (ho : a.order? r₀ = some o) (hpost : env.post = post)
    (hrun : Run (OfRequest r₀.traffic.nextRequest) (r₀.act env a) steps r)
    (hsteps : ∀ st ∈ steps, st.env.post = post ∧ st.action ≠ .drop r₀.traffic.nextRequest ∧
      st.action ≠ .move (.traffic (.drop r₀.traffic.nextRequest))) :
    let id := r₀.traffic.nextRequest
    let journey := Journey.of post c.attemptTimeoutMs o.payload (r₀.watch.ranking o.network)
      r₀.clock
    (r₀.postsFor id (⟨env, a⟩ :: steps) <+: journey.posts) ∧
    (∀ result, r.traffic.result? id = some result → result = journey.result o.network ∧
      r₀.postsFor id (⟨env, a⟩ :: steps) = journey.posts ∧ journey.ended ≤ r.clock) ∧
    (r.traffic.result? id = none → r.clock ≤ journey.ended ∧
      ∃ more r', Run (OfRequest id) r more r' ∧
        (∀ st ∈ more, st.env.post = post ∧ st.action ≠ .drop id ∧
          st.action ≠ .move (.traffic (.drop id))) ∧
        r'.clock = journey.ended ∧ r'.traffic.result? id = some (journey.result o.network) ∧
        r₀.postsFor id (⟨env, a⟩ :: (steps ++ more)) = journey.posts) ∧
    (registry.endpoints? o.network = none →
      journey = ⟨[], [], .refused (.unknownNetwork o.network), r₀.clock⟩) ∧
    ∀ es, registry.endpoints? o.network = some es →
      ∃ ranking, r₀.watch.ranking o.network = .ok ranking ∧
        journey = .down post c.attemptTimeoutMs o.payload r₀.clock ranking.endpoints ∧
        ranking.endpoints.Perm es ∧ ranking.endpoints ≠ [] ∧
        (ranking.endpoints.map (·.url)).Nodup ∧
        journey.posts.map (·.url) <+: ranking.endpoints.map (·.url) ∧
        (∀ p ∈ journey.posts, p.body = o.payload) ∧
        (journey.arrival = .exhausted →
          journey.failures.map (·.url) = ranking.endpoints.map (·.url)) := by
  intro id journey
  let q : Errand := ⟨id, o.network, o.payload, post, c.attemptTimeoutMs, journey⟩
  have hstart : q.At (r₀.act env a) (r₀.newPosts (r₀.act env a)) :=
    Errand.at_start hr ho rfl rfl rfl hpost hr.settings.2 rfl
  have hreach : Reachable c registry (r₀.act env a) := hr.act env (permits_of_order? ho)
  have hposts : ∀ steps', r₀.postsFor id (⟨env, a⟩ :: steps') =
      r₀.newPosts (r₀.act env a) ++ (r₀.act env a).postsFor id steps' := by
    intro steps'
    rw [postsFor, if_pos (Action.request?_of_order? ho)]
  have hnext : id < (r₀.act env a).traffic.nextRequest := by
    rw [(act_start env ho).2.1]
    exact Nat.lt_succ_self _
  have hrr := hreach.run hrun
  have hat : q.At r (r₀.postsFor id (⟨env, a⟩ :: steps)) := by
    rw [hposts]
    exact hstart.run hnext hreach.known hreach.settings.2 hrun hsteps
  obtain ⟨hgrows, harrived, hrest⟩ := hat.result env hpost hrr.settings.2
  refine ⟨hgrows, harrived, fun hnone => ?_, fun hunknown => ?_, fun es hes => ?_⟩
  · obtain ⟨hle, more, r', hmore, hall, hclock, hresult, hmoreposts⟩ := hrest hnone
    refine ⟨hle, more, r', hmore, hall, hclock, hresult, ?_⟩
    rw [hposts, postsFor_append hrun, ← List.append_assoc, ← hposts]
    exact hmoreposts
  · simp only [journey, ranking_unknown hb hr hunknown, Journey.of]
  · obtain ⟨ranking, hranking, hperm, hnonempty, hnodup⟩ := ranking_complete hb hr hes
    have hjourney : journey =
        .down post c.attemptTimeoutMs o.payload r₀.clock ranking.endpoints := by
      simp only [journey, hranking, Journey.of]
    refine ⟨ranking, hranking, hjourney, hperm, hnonempty, hnodup, ?_, ?_, ?_⟩
    · rw [hjourney]
      exact Journey.down_posts_isPrefix
    · rw [hjourney]
      exact fun p hp => Journey.down_body hp
    · rw [hjourney]
      exact fun h => (Journey.down_exhausted h).2

def unready : Surroundings where
  post url _ _ _ :=
    if url = "http://[::1]" then .answers 20 (.ok ⟨503, none, []⟩)
    else .answers 5 (.ok ⟨200, none, Bytes.ofText "1"⟩)
  probe e _ :=
    if e.url = "http://[::1]" then .answers 10 (.error (.status 503))
    else .answers 5 (.ok ⟨5000000⟩)

def overtaken : List Step :=
  [⟨unready, .refresh ⟨1⟩⟩, ⟨unready, .move (.watch (.slot ⟨1⟩ .takeUp))⟩, ⟨unready, .wait 10⟩,
    ⟨unready, .move (.watch (.slot ⟨1⟩ (.settle 0)))⟩,
    ⟨unready, .move (.watch (.slot ⟨1⟩ (.settle 1)))⟩,
    ⟨unready, .move (.watch (.slot ⟨1⟩ .publish))⟩, ⟨unready, .wait 20⟩,
    ⟨unready, .move (.traffic (.resume 0))⟩, ⟨unready, .wait 25⟩,
    ⟨unready, .move (.traffic (.resume 0))⟩]

theorem forward_exact_overtaken :
    ∃ r₀ r : Relay, ∃ steps, r.watch.rankings.map (·.round) = [1] ∧
      r₀.postsFor 0 steps = [⟨0, "http://[::1]", []⟩, ⟨20, "http://[::2]", []⟩] ∧
      r.traffic.result? 0 = some (Journey.result ⟨1⟩
        (.of unready.post 15000 [] (r₀.watch.ranking ⟨1⟩) 0)) := by
  let r₀ := Relay.new (.withNetworks []) .loopback ⟨0, 0⟩
  let o : Order := ⟨⟨1⟩, [], none⟩
  let r := (r₀.act unready (.submit o)).after overtaken
  have hr : Reachable (.withNetworks []) .loopback r₀ := ⟨⟨0, 0⟩, [], .nil _⟩
  have hrun : Run (OfRequest 0) (r₀.act unready (.submit o)) overtaken r :=
    run_after (by decide +kernel)
  have hsteps : ∀ st ∈ overtaken, st.env.post = unready.post ∧ st.action ≠ .drop 0 ∧
      st.action ≠ .move (.traffic (.drop 0)) := by
    simp [overtaken]
  obtain ⟨-, hresult, -⟩ := forward_exact Registry.loopback_built hr rfl rfl hrun hsteps
  have hsome : (r.traffic.result? 0).isSome = true := by decide +kernel
  obtain ⟨result, hfound⟩ := Option.isSome_iff_exists.mp hsome
  obtain ⟨heq, hposts, -⟩ := hresult result hfound
  refine ⟨r₀, r, ⟨unready, .submit o⟩ :: overtaken, by decide +kernel, hposts.trans ?_, ?_⟩
  · decide +kernel
  · exact hfound.trans (congrArg some heq)

end Relay

end RankedRelay
