import RankedRelay.Proofs.Journey
import RankedRelay.Proofs.Run

namespace RankedRelay

namespace Traffic

/-- Whether two states of the traffic tell the same about a request. -/
structure Agree (id : RequestId) (t t' : Traffic) : Prop where
  walks : ∀ w : Walk, w.id = id → (w ∈ t'.walks ↔ w ∈ t.walks)
  result : t'.result? id = t.result? id

/-- Whether a walk is under way, and is the only one of its request. -/
structure Serving (t : Traffic) (w : Walk) : Prop where
  mem : w ∈ t.walks
  only : ∀ w' ∈ t.walks, w'.id = w.id → w' = w
  pending : t.result? w.id = none

structure Served (t : Traffic) (id : RequestId) (result : RequestResult) : Prop where
  result : t.result? id = some result
  gone : ∀ w ∈ t.walks, w.id ≠ id

structure Known (t : Traffic) : Prop where
  walks : ∀ w ∈ t.walks, w.id < t.nextRequest
  results : ∀ p ∈ t.results, p.1 < t.nextRequest

/-- What has become of a request whose walk has come so far. -/
inductive Placed (t : Traffic) (id : RequestId) (n : NetworkId) (payload : Bytes) (s : Strides)
    (t' : Traffic) : Prop
  | walking {w : Walk} (stand : s.stand = .trying w.trying) (number : w.id = id)
      (network : w.network = n) (body : w.payload = payload)
      (failures : w.forwarder.failures = s.failures) (walks : t'.walks = t.walks ++ [w])
      (results : t'.results = t.results)
  | closed {result : RequestResult} (stand : s.stand = .done result) (walks : t'.walks = t.walks)
      (results : t'.results = (id, result) :: t.results)

variable {t t' t'' : Traffic} {id k : RequestId} {w : Walk} {result : RequestResult} {s : Strides}
  {n : NetworkId} {payload : Bytes}

theorem Agree.of_eq (hwalks : t'.walks = t.walks) (hresults : t'.results = t.results) :
    Agree id t t' where
  walks w _ := by rw [hwalks]
  result := by rw [result?, hresults, result?]

theorem Agree.trans (h : Agree id t t') (h' : Agree id t' t'') : Agree id t t'' where
  walks w hw := (h'.walks w hw).trans (h.walks w hw)
  result := h'.result.trans h.result

theorem Agree.serving (h : Agree w.id t t') (hw : t.Serving w) : t'.Serving w where
  mem := (h.walks w rfl).mpr hw.mem
  only w' hw' hid := hw.only w' ((h.walks w' hid).mp hw') hid
  pending := h.result.trans hw.pending

theorem Agree.served (h : Agree id t t') (hs : t.Served id result) : t'.Served id result where
  result := h.result.trans hs.result
  gone w hw hid := hs.gone w ((h.walks w hid).mp hw) hid

theorem result?_cons {results : List (RequestId × RequestResult)}
    (h : t'.results = (k, result) :: results) :
    t'.result? id = if k = id then some result else ((results.find? (·.1 == id)).map (·.2)) := by
  rw [result?, h, List.find?_cons]
  by_cases hk : k = id
  · simp [hk]
  · rw [if_neg hk, beq_eq_false_iff_ne.mpr hk]

theorem Placed.agree (h : t.Placed k n payload s t') (hk : k ≠ id) : Agree id t t' := by
  cases h with
  | walking stand number network body failures walks results =>
    refine ⟨fun w hw => ?_, by rw [result?, results, result?]⟩
    rw [walks, List.mem_append, List.mem_singleton]
    refine ⟨fun hmem => hmem.resolve_right ?_, .inl⟩
    rintro rfl
    exact hk (number.symm.trans hw)
  | closed stand walks results =>
    refine ⟨fun w _ => by rw [walks], ?_⟩
    rw [result?_cons results, if_neg hk, result?]

theorem Placed.cases (h : t.Placed id n payload s t') (hwalks : ∀ w ∈ t.walks, w.id ≠ id)
    (hresult : t.result? id = none) :
    (∃ w, t'.Serving w ∧ w.id = id ∧ w.network = n ∧ w.payload = payload ∧
      s.stand = .trying w.trying ∧ w.forwarder.failures = s.failures) ∨
    ∃ result, t'.Served id result ∧ s.stand = .done result := by
  cases h with
  | @walking w stand number network body failures walks results =>
    subst number
    refine .inl ⟨w, ⟨?_, ?_, ?_⟩, rfl, network, body, stand, failures⟩
    · rw [walks]
      exact List.mem_append_right _ List.mem_cons_self
    · intro w' hw' hid
      rw [walks, List.mem_append, List.mem_singleton] at hw'
      exact hw'.resolve_left fun hmem => hwalks w' hmem hid
    · rw [result?, results]
      exact hresult
  | @closed result stand walks results =>
    refine .inr ⟨result, ⟨?_, ?_⟩, stand⟩
    · rw [result?_cons results, if_pos rfl]
    · rw [walks]
      exact hwalks

theorem Placed.known (h : t.Placed k n payload s t') (ht : t.Known) {next : RequestId}
    (hnext : t.nextRequest ≤ next) (hk : k < next) (ht' : t'.nextRequest = next) : t'.Known := by
  cases h with
  | walking stand number network body failures walks results =>
    refine ⟨fun w hw => ?_, fun p hp => ?_⟩
    · rw [walks, List.mem_append, List.mem_singleton] at hw
      rcases hw with hw | rfl
      · exact ht' ▸ Nat.lt_of_lt_of_le (ht.walks w hw) hnext
      · exact ht' ▸ number ▸ hk
    · rw [results] at hp
      exact ht' ▸ Nat.lt_of_lt_of_le (ht.results p hp) hnext
  | closed stand walks results =>
    refine ⟨fun w hw => ?_, fun p hp => ?_⟩
    · rw [walks] at hw
      exact ht' ▸ Nat.lt_of_lt_of_le (ht.walks w hw) hnext
    · rw [results] at hp
      rcases List.mem_cons.mp hp with rfl | hp
      · exact ht' ▸ hk
      · exact ht' ▸ Nat.lt_of_lt_of_le (ht.results p hp) hnext

theorem Known.result?_eq_none (h : t.Known) : t.result? t.nextRequest = none := by
  rw [result?, Option.map_eq_none_iff, List.find?_eq_none]
  intro p hp
  simpa using Nat.ne_of_lt (h.results p hp)

theorem Placed.congr {t₁ : Traffic} (h : t₁.Placed k n payload s t') (hwalks : t₁.walks = t.walks)
    (hresults : t₁.results = t.results) : t.Placed k n payload s t' := by
  cases h with
  | walking stand number network body failures walks results =>
    exact .walking stand number network body failures (hwalks ▸ walks) (hresults ▸ results)
  | closed stand walks results => exact .closed stand (hwalks ▸ walks) (hresults ▸ results)

theorem withoutWalk_agree (hk : k ≠ id) : Agree id t (t.withoutWalk k) where
  walks w hw := by
    have hne : w.id ≠ k := fun h => hk (h.symm.trans hw)
    simp [withoutWalk, hne]
  result := rfl

theorem Serving.find? (h : t.Serving w) : t.walks.find? (·.id == w.id) = some w := by
  cases hfind : t.walks.find? (·.id == w.id) with
  | none => exact absurd (beq_self_eq_true w.id) (List.find?_eq_none.mp hfind w h.mem)
  | some w' =>
    have hid : w'.id = w.id := by simpa using List.find?_some hfind
    rw [h.only w' (List.mem_of_find?_eq_some hfind) hid]

theorem withoutWalk_gone : ∀ w ∈ (t.withoutWalk id).walks, w.id ≠ id := by
  intro w hw
  simpa using (List.mem_filter.mp hw).2

theorem withoutWalk_known (h : t.Known) : (t.withoutWalk id).Known where
  walks w hw := h.walks w (List.mem_filter.mp hw).1
  results := h.results

theorem giveBack_eq (f : Forwarder) (owner : Owner) : (t.giveBack f owner).walks = t.walks ∧
    (t.giveBack f owner).results = t.results ∧
    (t.giveBack f owner).nextRequest = t.nextRequest := by
  cases owner <;> exact ⟨rfl, rfl, rfl⟩

theorem settle_placed (t : Traffic) (w : Walk) (s : Strides) :
    t.Placed w.id w.network w.payload s (t.settle w s) ∧
      (t.settle w s).nextRequest = t.nextRequest := by
  simp only [settle]
  split
  · rename_i trying hstand
    let w' := { w with forwarder := { w.forwarder with failures := s.failures }, trying := trying }
    exact ⟨.walking (w := w') hstand rfl rfl rfl rfl rfl rfl, rfl⟩
  · rename_i result hstand
    obtain ⟨hwalks, hresults, hnext⟩ :=
      giveBack_eq (t := t) { w.forwarder with failures := s.failures } w.owner
    exact ⟨.closed hstand hwalks (congrArg _ hresults), hnext⟩

theorem launch_placed (t : Traffic) (post : Transport) (limit now : Nat)
    (ranking : Except RequestError Ranking) (o : Order) (f : Forwarder) (owner : Owner) :
    t.Placed t.nextRequest o.network o.payload
        (Walk.begin post limit ranking o.network o.payload now)
        (t.launch post limit now ranking o f owner).1 ∧
      (t.launch post limit now ranking o f owner).1.nextRequest = t.nextRequest + 1 ∧
      (t.launch post limit now ranking o f owner).2 =
        (Walk.begin post limit ranking o.network o.payload now).events := by
  simp only [launch]
  split
  · rename_i result hstand
    obtain ⟨hwalks, hresults, hnext⟩ :=
      giveBack_eq (t := { t with nextRequest := t.nextRequest + 1 })
      { f with failures := (Walk.begin post limit ranking o.network o.payload now).failures } owner
    exact ⟨.closed hstand hwalks (congrArg _ hresults), hnext, rfl⟩
  · rename_i trying hstand
    exact ⟨.walking hstand rfl rfl rfl rfl rfl rfl, rfl, rfl⟩

end Traffic

def Action.order? (r : Relay) : Action → Option Order
  | .submit o => some o
  | .submitOn loan o => (r.traffic.loan? loan).map fun _ => o
  | _ => none

def Action.request? (r : Relay) : Action → Option RequestId
  | .move (.traffic (.resume id)) => some id
  | .move (.traffic (.drop id)) => some id
  | .drop id => some id
  | a => (a.order? r).map fun _ => r.traffic.nextRequest

theorem Action.request?_of_order? {r : Relay} {a : Action} {o : Order} (h : a.order? r = some o) :
    a.request? r = some r.traffic.nextRequest := by
  cases a with
  | submit _ => rfl
  | submitOn loan _ => exact congrArg (Option.map fun _ => r.traffic.nextRequest) h
  | _ => cases h

theorem Action.request?_eq_some {r : Relay} {a : Action} {id : RequestId}
    (h : a.request? r = some id) :
    (a = .move (.traffic (.resume id)) ∨ a = .move (.traffic (.drop id)) ∨ a = .drop id) ∨
      ∃ o, a.order? r = some o ∧ id = r.traffic.nextRequest := by
  cases a with
  | move m =>
    cases m with
    | watch m => cases h
    | traffic m => cases m <;> cases h <;> simp
  | drop k =>
    cases h
    simp
  | submit o =>
    cases h
    exact .inr ⟨o, rfl, rfl⟩
  | submitOn loan o =>
    obtain ⟨o', ho', rfl⟩ := Option.map_eq_some_iff.mp h
    exact .inr ⟨o', ho', rfl⟩
  | _ => cases h

namespace Relay

/-- The posts that are in the log of a relay and were not before, the first one first. -/
def newPosts (r r' : Relay) : List Post :=
  (r'.events.take (r'.events.length - r.events.length)).reverse.filterMap fun
    | (_, .walk e) => e.post?
    | (_, .watch _) => none

theorem newPosts_withTraffic (r : Relay) (t : Traffic × List WalkEvent) :
    r.newPosts (r.withTraffic t) = t.2.filterMap WalkEvent.post? := by
  simp [newPosts, withTraffic, log, List.filterMap_map, Function.comp_def]

variable {env : Surroundings} {r : Relay} {a : Action} {id : RequestId} {w : Walk} {o : Order}

theorem act_start (env : Surroundings) (ho : a.order? r = some o) :
    r.traffic.Placed r.traffic.nextRequest o.network o.payload
      (Walk.begin env.post r.settings.attemptTimeout (r.watch.ranking o.network) o.network o.payload
        r.clock) (r.act env a).traffic ∧
    (r.act env a).traffic.nextRequest = r.traffic.nextRequest + 1 ∧
    r.newPosts (r.act env a) = (Walk.begin env.post r.settings.attemptTimeout
      (r.watch.ranking o.network) o.network o.payload r.clock).events.filterMap
        WalkEvent.post? := by
  cases a with
  | submit o' =>
    cases ho
    obtain ⟨hplaced, hnext, hevents⟩ :=
      Traffic.launch_placed { r.traffic with pool := r.traffic.pool.acquire.2 } env.post
        r.settings.attemptTimeout r.clock (r.watch.ranking o.network) o r.traffic.pool.acquire.1
        .pool
    refine ⟨hplaced.congr rfl rfl, hnext, ?_⟩
    rw [← hevents]
    exact newPosts_withTraffic r _
  | submitOn loan o' =>
    obtain ⟨f, hf, rfl⟩ := Option.map_eq_some_iff.mp ho
    obtain ⟨hplaced, hnext, hevents⟩ := Traffic.launch_placed (r.traffic.withoutLoan loan) env.post
      r.settings.attemptTimeout r.clock (r.watch.ranking o'.network) o' f (.loan loan)
    have hact : r.act env (.submitOn loan o') = r.withTraffic
        ((r.traffic.withoutLoan loan).launch env.post r.settings.attemptTimeout r.clock
          (r.watch.ranking o'.network) o' f (.loan loan)) := by
      simp only [act, submitOn?, Traffic.submitOn?, hf, Option.map_some]
    rw [hact, ← hevents]
    exact ⟨hplaced.congr rfl rfl, hnext, newPosts_withTraffic r _⟩
  | _ => cases ho

theorem act_resume (env : Surroundings) (hw : r.traffic.walks.find? (·.id == id) = some w) :
    (r.traffic.withoutWalk id).Placed id w.network w.payload
      (Walk.resume env.post r.settings.attemptTimeout w.network w.payload r.clock w.trying
        w.forwarder.failures) (r.act env (.move (.traffic (.resume id)))).traffic ∧
    (r.act env (.move (.traffic (.resume id)))).traffic.nextRequest = r.traffic.nextRequest ∧
    r.newPosts (r.act env (.move (.traffic (.resume id)))) =
      (Walk.resume env.post r.settings.attemptTimeout w.network w.payload r.clock w.trying
        w.forwarder.failures).events.filterMap WalkEvent.post? := by
  have hid : w.id = id := by simpa using List.find?_some hw
  obtain ⟨hplaced, hnext⟩ := Traffic.settle_placed (r.traffic.withoutWalk id) w
    (Walk.resume env.post r.settings.attemptTimeout w.network w.payload r.clock w.trying
      w.forwarder.failures)
  have hact : r.act env (.move (.traffic (.resume id))) = r.withTraffic
      ((r.traffic.withoutWalk id).settle w (Walk.resume env.post r.settings.attemptTimeout w.network
        w.payload r.clock w.trying w.forwarder.failures),
        (Walk.resume env.post r.settings.attemptTimeout w.network w.payload r.clock w.trying
          w.forwarder.failures).events) := by
    simp only [act, apply, Traffic.apply, hw]
  rw [hact, newPosts_withTraffic]
  rw [hid] at hplaced
  exact ⟨hplaced, hnext, rfl⟩

theorem act_drop (env : Surroundings) (hw : r.traffic.walks.find? (·.id == id) = some w) :
    (r.traffic.withoutWalk id).Placed id w.network w.payload ⟨.done .dropped, [], []⟩
      (r.act env (.drop id)).traffic ∧
    (r.act env (.drop id)).traffic.nextRequest = r.traffic.nextRequest := by
  obtain ⟨hwalks, hresults, hnext⟩ :=
    Traffic.giveBack_eq (t := r.traffic.withoutWalk id) w.forwarder w.owner
  simp only [act, apply, withTraffic, log_traffic, Traffic.apply, hw, Traffic.close]
  exact ⟨.closed rfl hwalks (congrArg _ hresults), hnext⟩

theorem act_quiet (ha : a.request? r = none) :
    (r.act env a).traffic.walks = r.traffic.walks ∧
    (r.act env a).traffic.results = r.traffic.results ∧
    (r.act env a).traffic.nextRequest = r.traffic.nextRequest := by
  cases a with
  | move m =>
    cases m with
    | watch m => exact ⟨rfl, rfl, rfl⟩
    | traffic m => cases m <;> cases ha
  | refresh n =>
    simp only [act, refresh]
    cases r.watch.request n <;> exact ⟨rfl, rfl, rfl⟩
  | submit o => cases ha
  | submitOn loan o =>
    have hloan : r.traffic.loan? loan = none := by
      simpa [Action.request?, Action.order?] using ha
    simp only [act, submitOn?, Traffic.submitOn?, hloan, Option.map_none, and_self]
  | release loan =>
    simp only [act, Traffic.release?]
    cases r.traffic.loan? loan <;> exact ⟨rfl, rfl, rfl⟩
  | drop id => cases ha
  | _ => exact ⟨rfl, rfl, rfl⟩

/-- An action is about no request, starts one, or takes one out and places it anew. -/
theorem act_traffic (env : Surroundings) (r : Relay) (a : Action) :
    ((r.act env a).traffic.walks = r.traffic.walks ∧
      (r.act env a).traffic.results = r.traffic.results ∧
      (r.act env a).traffic.nextRequest = r.traffic.nextRequest) ∨
    (∃ o, a.order? r = some o) ∨
    ∃ k w s, a.request? r = some k ∧ w ∈ r.traffic.walks ∧ w.id = k ∧
      (r.traffic.withoutWalk k).Placed k w.network w.payload s (r.act env a).traffic ∧
      (r.act env a).traffic.nextRequest = r.traffic.nextRequest := by
  have hmem : ∀ {k : RequestId} {w : Walk}, r.traffic.walks.find? (·.id == k) = some w →
      w ∈ r.traffic.walks ∧ w.id = k := fun hw =>
    ⟨List.mem_of_find?_eq_some hw, by simpa using List.find?_some hw⟩
  have hdrop : ∀ k, ((r.act env (.drop k)).traffic.walks = r.traffic.walks ∧
        (r.act env (.drop k)).traffic.results = r.traffic.results ∧
        (r.act env (.drop k)).traffic.nextRequest = r.traffic.nextRequest) ∨
      ∃ w s, w ∈ r.traffic.walks ∧ w.id = k ∧
        (r.traffic.withoutWalk k).Placed k w.network w.payload s (r.act env (.drop k)).traffic ∧
        (r.act env (.drop k)).traffic.nextRequest = r.traffic.nextRequest := by
    intro k
    cases hw : r.traffic.walks.find? (·.id == k) with
    | none =>
      refine .inl ?_
      simp [act, apply, withTraffic, Traffic.apply, hw]
    | some w => exact .inr ⟨w, _, (hmem hw).1, (hmem hw).2, act_drop env hw⟩
  cases hrequest : a.request? r with
  | none => exact .inl (act_quiet hrequest)
  | some k =>
    rcases Action.request?_eq_some hrequest with (rfl | rfl | rfl) | ⟨o, ho, -⟩
    · cases hw : r.traffic.walks.find? (·.id == k) with
      | none =>
        refine .inl ?_
        simp [act, apply, withTraffic, Traffic.apply, hw]
      | some w =>
        obtain ⟨hplaced, hnext, -⟩ := act_resume env hw
        exact .inr (.inr ⟨k, w, _, rfl, (hmem hw).1, (hmem hw).2, hplaced, hnext⟩)
    · rcases hdrop k with hquiet | ⟨w, s, h⟩
      · exact .inl hquiet
      · exact .inr (.inr ⟨k, w, s, rfl, h⟩)
    · rcases hdrop k with hquiet | ⟨w, s, h⟩
      · exact .inl hquiet
      · exact .inr (.inr ⟨k, w, s, rfl, h⟩)
    · exact .inr (.inl ⟨o, ho⟩)

theorem act_agree (env : Surroundings) (hid : id < r.traffic.nextRequest)
    (ha : a.request? r ≠ some id) : r.traffic.Agree id (r.act env a).traffic := by
  rcases act_traffic env r a with ⟨hwalks, hresults, -⟩ | ⟨o, ho⟩ | ⟨k, w, s, hk, -, -, hplaced, -⟩
  · exact .of_eq hwalks hresults
  · exact (act_start env ho).1.agree (Nat.ne_of_gt hid)
  · have hne : k ≠ id := fun heq => ha (heq ▸ hk)
    exact (Traffic.withoutWalk_agree hne).trans (hplaced.agree hne)

theorem act_known (env : Surroundings) (h : r.traffic.Known) : (r.act env a).traffic.Known ∧
    r.traffic.nextRequest ≤ (r.act env a).traffic.nextRequest := by
  rcases act_traffic env r a with ⟨hwalks, hresults, hnext⟩ | ⟨o, ho⟩ |
    ⟨k, w, s, -, hmem, rfl, hplaced, hnext⟩
  · refine ⟨⟨?_, ?_⟩, Nat.le_of_eq hnext.symm⟩
    · rw [hwalks, hnext]
      exact h.walks
    · rw [hresults, hnext]
      exact h.results
  · obtain ⟨hplaced, hnext, -⟩ := act_start env ho
    exact ⟨hplaced.known h (Nat.le_succ _) (Nat.lt_succ_self _) hnext, hnext ▸ Nat.le_succ _⟩
  · have hknown : (r.traffic.withoutWalk w.id).Known := Traffic.withoutWalk_known h
    exact ⟨hplaced.known hknown (Nat.le_refl _) (h.walks w hmem) hnext, Nat.le_of_eq hnext.symm⟩

theorem Reachable.known {c : Config} {registry : Registry} (hr : Reachable c registry r) :
    r.traffic.Known :=
  hr.keeps (P := fun r => r.traffic.Known)
    (fun _ => ⟨by simp [new, Traffic.new], by simp [new, Traffic.new]⟩)
    fun _ _ h _ => (act_known _ h).1

end Relay

end RankedRelay
