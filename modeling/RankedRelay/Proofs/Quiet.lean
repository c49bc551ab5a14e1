import RankedRelay.Program.Service
import RankedRelay.Proofs.Coherence

namespace RankedRelay

def Action.ofWatch : Action → Bool
  | .wait _ | .move (.watch _) | .refresh _ | .abandon _ _ | .start | .cancel => true
  | _ => false

namespace Relay

/-- What the watch has told, the latest first, with the times. -/
def news (r : Relay) : List (Nat × WatchEvent) :=
  r.events.filterMap fun
    | (t, .watch e) => some (t, e)
    | (_, .walk _) => none

/-- Whether two relays differ in nothing but their requests. -/
structure Alike (r q : Relay) : Prop where
  settings : q.settings = r.settings
  clock : q.clock = r.clock
  watch : q.watch = r.watch
  news : q.news = r.news

variable {urgent : Move → Prop} {env : Surroundings} {r r₁ r₂ q q₁ : Relay} {a : Action}
  {steps : List Step}

theorem Alike.refl (r : Relay) : Alike r r := ⟨rfl, rfl, rfl, rfl⟩

theorem Alike.symm (h : Alike r q) : Alike q r :=
  ⟨h.settings.symm, h.clock.symm, h.watch.symm, h.news.symm⟩

theorem Alike.trans (h : Alike r₁ r) (h' : Alike r r₂) : Alike r₁ r₂ :=
  ⟨h'.settings.trans h.settings, h'.clock.trans h.clock, h'.watch.trans h.watch,
    h'.news.trans h.news⟩

theorem news_withWatch (r : Relay) (w : Watch × List WatchEvent) :
    (r.withWatch w).news = w.2.reverse.map (r.clock, ·) ++ r.news := by
  simp [news, withWatch, log, List.filterMap_map, Function.comp_def, ← List.map_reverse]

theorem withTraffic_alike (r : Relay) (t : Traffic × List WalkEvent) :
    Alike r (r.withTraffic t) where
  settings := rfl
  clock := rfl
  watch := rfl
  news := by
    simp [Relay.news, withTraffic, log, List.filterMap_map, Function.comp_def, ← List.map_reverse]

theorem Alike.act (h : Alike r q) (env : Surroundings) (ha : a.ofWatch = true) :
    Alike (r.act env a) (q.act env a) := by
  have hmoment : q.moment = r.moment := by rw [moment, h.settings, h.clock, moment]
  cases a with
  | wait t => exact ⟨h.settings, rfl, h.watch, h.news⟩
  | move m =>
    cases m with
    | traffic m => cases ha
    | watch m =>
      have hwatch : q.watch.apply env.probe q.settings.probeTimeout q.clock q.moment m =
          r.watch.apply env.probe r.settings.probeTimeout r.clock r.moment m := by
        rw [h.watch, h.settings, h.clock, hmoment]
      simp only [Relay.act, apply, hwatch]
      refine ⟨h.settings, h.clock, rfl, ?_⟩
      rw [news_withWatch, news_withWatch, h.clock, h.news]
  | refresh n =>
    simp only [Relay.act, refresh, h.watch]
    cases r.watch.request n with
    | error e => exact h
    | ok c => exact ⟨h.settings, h.clock, rfl, h.news⟩
  | abandon n call => exact ⟨h.settings, h.clock, congrArg (·.abandon n call) h.watch, h.news⟩
  | start =>
    refine ⟨h.settings, h.clock, ?_, h.news⟩
    simp only [Relay.act, start, h.watch, h.clock]
  | cancel =>
    refine ⟨h.settings, h.clock, ?_, h.news⟩
    simp only [Relay.act, cancel, h.watch]
  | submit o => cases ha
  | acquire => cases ha
  | submitOn loan o => cases ha
  | release loan => cases ha
  | drop id => cases ha

/-- What requests do, the watch does not notice. -/
theorem act_alike (env : Surroundings) (r : Relay) (ha : a.ofWatch = false) :
    Alike r (r.act env a) := by
  cases a with
  | move m =>
    cases m with
    | watch m => cases ha
    | traffic m => exact withTraffic_alike r _
  | submit o => exact withTraffic_alike r _
  | acquire => exact ⟨rfl, rfl, rfl, rfl⟩
  | submitOn loan o =>
    simp only [act, submitOn?]
    cases r.traffic.submitOn? env.post r.settings.attemptTimeout r.clock
      (r.watch.ranking o.network) loan o with
    | none => exact .refl r
    | some t => exact withTraffic_alike r t
  | release loan =>
    simp only [act]
    cases r.traffic.release? loan <;> exact ⟨rfl, rfl, rfl, rfl⟩
  | drop id => exact withTraffic_alike r _
  | wait t => cases ha
  | refresh n => cases ha
  | abandon n call => cases ha
  | start => cases ha
  | cancel => cases ha

theorem traffic_act_ofWatch (env : Surroundings) (r : Relay) (ha : a.ofWatch = true) :
    (r.act env a).traffic = r.traffic := by
  cases a with
  | move m =>
    cases m with
    | watch m => rfl
    | traffic m => cases ha
  | refresh n =>
    simp only [act, refresh]
    cases r.watch.request n <;> rfl
  | submit o => cases ha
  | submitOn loan o => cases ha
  | release loan => cases ha
  | acquire => cases ha
  | drop id => cases ha
  | _ => rfl

theorem watch_mem_moves {due : Nat} {m : WatchMove} :
    (due, .watch m) ∈ r.moves ↔ (due, m) ∈ r.watch.moves := by
  simp [moves]

theorem traffic_mem_moves {due : Nat} {m : TrafficMove} :
    (due, .traffic m) ∈ r.moves ↔ (due, m) ∈ r.traffic.moves := by
  simp [moves]

theorem Alike.permits {urgent' : Move → Prop} (h : Alike r q) (ha : a.ofWatch = true)
    (hp : r.Permits urgent a) (hwatch : ∀ m, urgent' (.watch m) → urgent (.watch m))
    (htraffic : ∀ t, a = .wait t → ∀ m ∈ q.traffic.moves, urgent' (.traffic m.2) → t ≤ m.1) :
    q.Permits urgent' a := by
  cases a with
  | wait t =>
    refine ⟨h.clock ▸ hp.1, ?_⟩
    rintro ⟨due, m | m⟩ hm hurgent
    · rw [watch_mem_moves, h.watch, ← watch_mem_moves] at hm
      exact hp.2 _ hm (hwatch m hurgent)
    · exact htraffic t rfl _ (traffic_mem_moves.mp hm) hurgent
  | move m =>
    cases m with
    | traffic m => cases ha
    | watch m =>
      obtain ⟨due, hle, hmem⟩ := hp
      rw [watch_mem_moves, ← h.watch, ← watch_mem_moves] at hmem
      exact ⟨due, h.clock ▸ hle, hmem⟩
  | _ => trivial

/-- A run without all that its requests do. -/
theorem Run.quiet {urgent' : Move → Prop} (hrun : Run urgent r₁ steps r₂) (h : Alike r₁ q₁)
    (hq : q₁.traffic.moves = []) (hwatch : ∀ m, urgent' (.watch m) → urgent (.watch m)) :
    ∃ q₂, Run urgent' q₁ (steps.filter (·.action.ofWatch)) q₂ ∧ Alike r₂ q₂ ∧
      q₂.traffic = q₁.traffic := by
  induction hrun generalizing q₁ with
  | nil => exact ⟨q₁, .nil _, h, rfl⟩
  | @cons r r' s steps permitted rest ih =>
    cases ha : s.action.ofWatch with
    | true =>
      have hkept : (s :: steps).filter (·.action.ofWatch) =
          s :: steps.filter (·.action.ofWatch) := List.filter_cons_of_pos ha
      have hpermits : q₁.Permits urgent' s.action :=
        h.permits ha permitted hwatch (by simp [hq])
      have htraffic := traffic_act_ofWatch s.env q₁ ha
      obtain ⟨q₂, hrun, halike, heq⟩ := ih (h.act s.env ha) (htraffic ▸ hq)
      rw [hkept]
      exact ⟨q₂, .cons s hpermits hrun, halike, heq.trans htraffic⟩
    | false =>
      have hgone : (s :: steps).filter (·.action.ofWatch) = steps.filter (·.action.ofWatch) :=
        List.filter_cons_of_neg (by simp [ha])
      rw [hgone]
      exact ih ((act_alike s.env r ha).symm.trans h) hq

end Relay

/-- What happens to a relay behind a port: something to itself, or a call of a client, who leaves
after some time if there is no response. -/
inductive Occurrence where
  | action (a : Action)
  | call (c : Frontend.Call) (patience : Option Nat)

structure Episode where
  env : Surroundings
  occurrence : Occurrence

def Occurrence.action? (maxBytes : Nat) (r : Relay) : Occurrence → Option Action
  | .action a => some a
  | .call c patience =>
    match Frontend.receive maxBytes r c with
    | .admitted network => some (.submit ⟨network, c.body, patience⟩)
    | .answered _ => none
    | .rejected _ => none

def Episode.quiet? (e : Episode) : Option Step :=
  match e.occurrence with
  | .action a => if a.ofWatch then some ⟨e.env, a⟩ else none
  | .call _ _ => none

namespace Relay

/-- What becomes of a relay in an episode. `maxBytes` bounds what a client may send. -/
def meet (maxBytes : Nat) (r : Relay) (e : Episode) : Relay :=
  match e.occurrence.action? maxBytes r with
  | some a => r.act e.env a
  | none => r

/-- What can happen to a relay behind a port one after the other, and where it leads. -/
inductive OpenRun (urgent : Move → Prop) (maxBytes : Nat) : Relay → List Episode → Relay → Prop
  | nil (r : Relay) : OpenRun urgent maxBytes r [] r
  | cons {r r' : Relay} (e : Episode) {episodes : List Episode}
      (permitted : ∀ a ∈ e.occurrence.action? maxBytes r, r.Permits urgent a)
      (rest : OpenRun urgent maxBytes (r.meet maxBytes e) episodes r') :
      OpenRun urgent maxBytes r (e :: episodes) r'

variable {urgent : Move → Prop} {maxBytes : Nat} {r r₁ r₂ : Relay} {episodes : List Episode}
  {steps : List Step}

theorem OpenRun.run (h : OpenRun urgent maxBytes r₁ episodes r₂) :
    ∃ steps, Run urgent r₁ steps r₂ ∧
      steps.filter (·.action.ofWatch) = episodes.filterMap Episode.quiet? := by
  induction h with
  | nil r => exact ⟨[], .nil r, rfl⟩
  | @cons r r' e episodes permitted _ ih =>
    obtain ⟨steps, hrun, hquiet⟩ := ih
    obtain ⟨env, a | ⟨c, patience⟩⟩ := e
    · refine ⟨⟨env, a⟩ :: steps, .cons ⟨env, a⟩ (permitted a rfl) hrun, ?_⟩
      rw [List.filter_cons, List.filterMap_cons, hquiet]
      cases ha : a.ofWatch <;> simp [Episode.quiet?, ha]
    · rw [List.filterMap_cons_none rfl, ← hquiet]
      cases hc : Frontend.receive maxBytes r c with
      | admitted network =>
        simp only [meet, Occurrence.action?, hc] at hrun
        exact ⟨⟨env, .submit ⟨network, c.body, patience⟩⟩ :: steps,
          .cons ⟨env, _⟩ trivial hrun, rfl⟩
      | answered response =>
        simp only [meet, Occurrence.action?, hc] at hrun
        exact ⟨steps, hrun, rfl⟩
      | rejected e =>
        simp only [meet, Occurrence.action?, hc] at hrun
        exact ⟨steps, hrun, rfl⟩

theorem permits_call (c : Frontend.Call) (patience : Option Nat) :
    ∀ a ∈ (Occurrence.call c patience).action? maxBytes r, r.Permits urgent a := by
  intro a ha
  simp only [Occurrence.action?] at ha
  split at ha
  · cases ha
    trivial
  · cases ha
  · cases ha

theorem Run.toOpen (maxBytes : Nat) (h : Run urgent r₁ steps r₂) :
    OpenRun urgent maxBytes r₁ (steps.map fun s => ⟨s.env, .action s.action⟩) r₂ := by
  induction h with
  | nil r => exact .nil r
  | cons s permitted _ ih =>
    exact .cons ⟨s.env, .action s.action⟩ (by simpa [Occurrence.action?]) ih

end Relay

namespace Frontend

theorem receive_view (maxBytes : Nat) (r : Relay) {c : Call}
    (hpath : path c.target = "/health-check".toList ∨ path c.target = "/status".toList) :
    ∃ response, receive maxBytes r c = .answered response := by
  have hroute : route c.method c.target = .health ∨ route c.method c.target = .status ∨
      ∃ allow, route c.method c.target = .notAllowed allow := by
    rcases hpath with hpath | hpath <;> cases hread : isRead c.method <;>
      simp [route, hpath, hread]
  simp only [receive]
  rcases hroute with hroute | hroute | ⟨allow, hroute⟩
  all_goals
    rw [hroute]
    exact ⟨_, rfl⟩

end Frontend

namespace Program.Service

open Frontend

/-- The service answers a call by letting the relay meet it and go on by the clock. -/
theorem answer_isOpenRun (s : Service) (c : Call) :
    ∃ steps : List Step, (∀ st ∈ steps, st.env = s.env) ∧
      Relay.OpenRun (fun _ => True) s.config.maxRequestBytes.toNat s.relay
        (⟨s.env, .call c none⟩ :: steps.map fun st => ⟨st.env, .action st.action⟩)
        (s.answer c).1.relay := by
  cases hc : receive s.config.maxRequestBytes.toNat s.relay c with
  | answered response =>
    refine ⟨[], by simp, .cons _ (Relay.permits_call c none) ?_⟩
    simp only [Relay.meet, Occurrence.action?, answer, hc]
    exact .nil _
  | rejected e =>
    refine ⟨[], by simp, .cons _ (Relay.permits_call c none) ?_⟩
    simp only [Relay.meet, Occurrence.action?, answer, hc]
    exact .nil _
  | admitted network =>
    let o : Order := ⟨network, c.body, none⟩
    obtain ⟨steps, hsteps, hrun⟩ := Relay.run_isRun s.env
      (fun r => (r.traffic.result? s.relay.traffic.nextRequest).isSome) none
      (s.relay.act s.env (.submit o)).manyMoves (s.relay.act s.env (.submit o))
    refine ⟨steps, hsteps, .cons _ (Relay.permits_call c none) ?_⟩
    have hrelay : (s.answer c).1.relay = (s.request o).1.relay := by
      simp only [answer, hc]
      split
      case h_2 h =>
        rw [h]
        rfl
      all_goals
        rename_i h
        rw [h]
    rw [hrelay]
    simp only [Relay.meet, Occurrence.action?, hc]
    exact hrun.toOpen _

theorem answer_view (s : Service) {c : Call}
    (hpath : path c.target = "/health-check".toList ∨ path c.target = "/status".toList) :
    ∃ response, s.answer c = (s, some response) := by
  obtain ⟨response, hanswered⟩ := receive_view s.config.maxRequestBytes.toNat s.relay hpath
  exact ⟨response, by simp only [answer, hanswered]⟩

end Program.Service

namespace Relay

variable {urgent : Move → Prop} {maxBytes : Nat} {r₁ r₂ : Relay} {episodes : List Episode}

/-- Whatever clients call for, and however their requests end, the watch does the same without them:
the rankings, the rounds and the state of the scheduler are the same at the same times, and so is
all that was told of them. A call for the state of the service is answered at once, and nothing else
comes of it. -/
theorem requests_unnoticed (h : OpenRun urgent maxBytes r₁ episodes r₂) (maxIdle : Nat) :
    (∃ q, Run urgent { r₁ with traffic := .new maxIdle } (episodes.filterMap Episode.quiet?) q ∧
      q.traffic = .new maxIdle ∧ q.clock = r₂.clock ∧ q.watch = r₂.watch ∧ q.news = r₂.news) ∧
    ∀ c : Frontend.Call, Frontend.path c.target = "/health-check".toList ∨
        Frontend.path c.target = "/status".toList →
      (∀ r env patience, meet maxBytes r ⟨env, .call c patience⟩ = r) ∧
      ∀ s : Program.Service, ∃ response, s.answer c = (s, some response) := by
  refine ⟨?_, fun c hpath => ⟨fun r env patience => ?_, fun s => s.answer_view hpath⟩⟩
  · obtain ⟨steps, hrun, hquiet⟩ := h.run
    have hstart : Alike r₁ { r₁ with traffic := .new maxIdle } := ⟨rfl, rfl, rfl, rfl⟩
    obtain ⟨q, hq, halike, htraffic⟩ := hrun.quiet hstart rfl fun _ => id
    exact ⟨q, hquiet ▸ hq, htraffic, halike.clock, halike.watch, halike.news⟩
  · obtain ⟨response, hanswered⟩ := Frontend.receive_view maxBytes r hpath
    simp only [meet, Occurrence.action?, hanswered]

def interrupted : List Step :=
  [.start, .move (.watch (.scheduler .wake)), .move (.watch (.slot ⟨1⟩ .takeUp)), .wait 10,
    .move (.watch (.slot ⟨1⟩ (.settle 1))), .wait 20, .move (.traffic (.drop 0)), .wait 30,
    .move (.watch (.slot ⟨1⟩ (.settle 0))), .move (.watch (.slot ⟨1⟩ .publish)),
    .move (.watch (.scheduler .conclude))].map (⟨uneven, ·⟩)

theorem requests_unnoticed_interrupted :
    ∃ r q : Relay, r.traffic.pool.created = 1 ∧ q.traffic.pool.created = 0 ∧
      r.watch.scheduler.rounds = 1 ∧ r.watch.rankings.map (·.round) = [1] ∧
      q.clock = r.clock ∧ q.watch = r.watch ∧ q.news = r.news := by
  let r₀ := Relay.new (.withNetworks []) .loopback ⟨0, 0⟩
  let e : Episode := ⟨uneven, .call ⟨"POST", "/rpc/1", [], []⟩ (some 20)⟩
  let r := (r₀.meet 0 e).after interrupted
  have hrun : Run (fun _ => False) (r₀.meet 0 e) interrupted r := run_after (by decide +kernel)
  obtain ⟨⟨q, -, htraffic, hclock, hwatch, hnews⟩, -⟩ :=
    requests_unnoticed (.cons e (permits_call _ _) (hrun.toOpen 0)) 64
  exact ⟨r, q, by decide +kernel, htraffic ▸ rfl, by decide +kernel, by decide +kernel, hclock,
    hwatch, hnews⟩

end Relay

end RankedRelay
