import RankedRelay.Proofs.Flight
import RankedRelay.Traffic.Walk

namespace RankedRelay

inductive Arrival where
  | replied (reply : Reply)
  | crashed
  | exhausted
  | refused (e : RequestError)

structure Journey where
  posts : List Post
  failures : List Attempt
  arrival : Arrival
  ended : Nat

namespace Journey

def result (n : NetworkId) (j : Journey) : RequestResult :=
  match j.arrival with
  | .replied reply => .replied reply
  | .crashed => .crashed
  | .exhausted => .failed (.exhausted n j.failures)
  | .refused e => .failed e

/-- What an attempt comes to: a reply that is passed on, an error, or nothing if it crashes. An
answer that comes at the timeout is in time. -/
def verdict? (timeout : UInt64) :
    Course (Except CallError Reply) → Option (Except CallError Reply)
  | .answers delay (.ok reply) =>
    if timeout.toNat < delay then some (.error (.timeout timeout))
    else if reply.status < 200 ∨ 300 ≤ reply.status then some (.error (.status reply.status))
    else
      match Json.check reply.body with
      | .ok () => some (.ok reply)
      | .error f => some (.error (.invalidResponse ("body is not JSON: " ++ f.message reply.body)))
  | .answers delay (.error err) =>
    if timeout.toNat < delay then some (.error (.timeout timeout)) else some (.error err)
  | .crashes delay => if timeout.toNat < delay then some (.error (.timeout timeout)) else none
  | .silent => some (.error (.timeout timeout))

variable (post : Transport) (timeout : UInt64) (payload : Bytes)

/-- The attempts of a journey, each of which starts when the one before has failed. -/
def down (now : Nat) : List Endpoint → Journey
  | [] => ⟨[], [], .exhausted, now⟩
  | e :: rest =>
    let answer := post e.url payload (.ofMillis timeout.toNat) now
    let ended := now + answer.lasting timeout.toNat
    match verdict? timeout answer with
    | none => ⟨[⟨now, e.url, payload⟩], [], .crashed, ended⟩
    | some (.ok reply) => ⟨[⟨now, e.url, payload⟩], [], .replied reply, ended⟩
    | some (.error err) =>
      let next := down ended rest
      ⟨⟨now, e.url, payload⟩ :: next.posts, ⟨e.url, err.kind, err.text⟩ :: next.failures,
        next.arrival, next.ended⟩

/-- The journey of a request that finds this ranking. -/
def of (ranking : Except RequestError Ranking) (now : Nat) : Journey :=
  match ranking with
  | .error e => ⟨[], [], .refused e, now⟩
  | .ok r => down post timeout payload now r.endpoints

variable {post timeout payload} {now : Nat} {e : Endpoint} {es rest : List Endpoint}

theorem le_down_ended (now : Nat) (es : List Endpoint) :
    now ≤ (down post timeout payload now es).ended := by
  induction es generalizing now with
  | nil => exact Nat.le_refl _
  | cons e rest ih =>
    simp only [down]
    split
    · exact Nat.le_add_right _ _
    · exact Nat.le_add_right _ _
    · exact Nat.le_trans (Nat.le_add_right _ _) (ih _)

theorem down_body {p : Post} (hp : p ∈ (down post timeout payload now es).posts) :
    p.body = payload := by
  induction es generalizing now with
  | nil => cases hp
  | cons e rest ih =>
    simp only [down] at hp
    split at hp
    · rw [List.mem_singleton.mp hp]
    · rw [List.mem_singleton.mp hp]
    · rcases List.mem_cons.mp hp with rfl | hp
      · rfl
      · exact ih hp

theorem down_posts_isPrefix :
    (down post timeout payload now es).posts.map (·.url) <+: es.map (·.url) := by
  induction es generalizing now with
  | nil => exact List.prefix_refl _
  | cons e rest ih =>
    simp only [down]
    split
    · exact List.prefix_cons_inj _ |>.mpr (List.nil_prefix)
    · exact List.prefix_cons_inj _ |>.mpr (List.nil_prefix)
    · exact List.prefix_cons_inj _ |>.mpr ih

theorem down_exhausted (h : (down post timeout payload now es).arrival = .exhausted) :
    (down post timeout payload now es).posts.map (·.url) = es.map (·.url) ∧
      (down post timeout payload now es).failures.map (·.url) = es.map (·.url) := by
  induction es generalizing now with
  | nil => exact ⟨rfl, rfl⟩
  | cons e rest ih =>
    simp only [down] at h ⊢
    split at h
    · cases h
    · cases h
    · obtain ⟨hposts, hfailures⟩ := ih h
      simp only [List.map_cons, hposts, hfailures, and_self]

theorem down_ne_refused {err : RequestError} :
    (down post timeout payload now es).arrival ≠ .refused err := by
  induction es generalizing now with
  | nil => simp [down]
  | cons e rest ih =>
    simp only [down]
    split
    · simp
    · simp
    · exact ih

theorem exhausted_of_failed {n : NetworkId} {err : RequestError}
    (h : (down post timeout payload now es).result n = .failed err) :
    (down post timeout payload now es).arrival = .exhausted := by
  simp only [result] at h
  split at h
  · cases h
  · cases h
  · rename_i harrival
    exact harrival
  · rename_i harrival
    exact absurd harrival down_ne_refused

variable (post timeout payload) in
/-- Whether endpoints fail one after the other, from one time to another, and how each does. -/
inductive Fails : Nat → List Endpoint → List Attempt → Nat → Prop
  | nil (now : Nat) : Fails now [] [] now
  | cons {now ended : Nat} {e : Endpoint} {rest : List Endpoint} {err : CallError}
      {failures : List Attempt}
      (first : verdict? timeout (post e.url payload (.ofMillis timeout.toNat) now) =
        some (.error err))
      (next : Fails (now + (post e.url payload (.ofMillis timeout.toNat) now).lasting timeout.toNat)
        rest failures ended) :
      Fails now (e :: rest) (Attempt.of e.url err :: failures) ended

theorem Fails.urls {failures : List Attempt} {ended : Nat}
    (h : Fails post timeout payload now es failures ended) :
    failures.map (·.url) = es.map (·.url) := by
  induction h with
  | nil => rfl
  | cons first next ih => rw [List.map_cons, List.map_cons, ih, Attempt.of]

theorem Fails.next {before after : List Endpoint} {failures all : List Attempt} {t ended : Nat}
    (h : Fails post timeout payload now before failures t)
    (hall : Fails post timeout payload now (before ++ e :: after) all ended) :
    ∃ err, verdict? timeout (post e.url payload (.ofMillis timeout.toNat) t) =
      some (.error err) := by
  induction h generalizing all with
  | nil =>
    cases hall with
    | cons first _ => exact ⟨_, first⟩
  | cons _ _ ih =>
    cases hall with
    | cons _ next => exact ih next

theorem verdict?_eq_ok {course : Course (Except CallError Reply)} {reply : Reply}
    (h : verdict? timeout course = some (.ok reply)) :
    ∃ delay ≤ timeout.toNat, course = .answers delay (.ok reply) ∧
      200 ≤ reply.status ∧ reply.status < 300 ∧ Json.check reply.body = .ok () := by
  simp only [verdict?] at h
  split at h
  · split at h
    · cases h
    · rename_i hintime
      split at h
      · cases h
      · rename_i hsuccess
        split at h
        · rename_i hbody
          cases h
          exact ⟨_, Nat.not_lt.mp hintime, rfl, by omega, by omega, hbody⟩
        · cases h
  · split at h <;> cases h
  · split at h <;> cases h
  · cases h

theorem verdict?_of_success {delay : Nat} {reply : Reply} (htime : delay ≤ timeout.toNat)
    (hlow : 200 ≤ reply.status) (hhigh : reply.status < 300)
    (hbody : Json.check reply.body = .ok ()) :
    verdict? timeout (.answers delay (.ok reply)) = some (.ok reply) := by
  have hstatus : ¬(reply.status < 200 ∨ 300 ≤ reply.status) := by omega
  simp only [verdict?, if_neg (Nat.not_lt.mpr htime), if_neg hstatus, hbody]

theorem verdict?_eq_none {course : Course (Except CallError Reply)}
    (h : verdict? timeout course = none) : ∃ delay, course = .crashes delay := by
  simp only [verdict?] at h
  split at h
  · split at h
    · cases h
    · split at h
      · cases h
      · split at h <;> cases h
  · split at h <;> cases h
  · exact ⟨_, rfl⟩
  · cases h

/-- Where nothing crashes, a journey finds that all endpoints fail, or the first one that does not.
-/
theorem down_cases (hcalm : ∀ url body limit t d, post url body limit t ≠ .crashes d) (now : Nat)
    (es : List Endpoint) :
    (∃ ended, Fails post timeout payload now es (down post timeout payload now es).failures ended ∧
      (down post timeout payload now es).arrival = .exhausted) ∨
    ∃ before e after failures t reply, es = before ++ e :: after ∧
      Fails post timeout payload now before failures t ∧
      verdict? timeout (post e.url payload (.ofMillis timeout.toNat) t) = some (.ok reply) ∧
      (down post timeout payload now es).arrival = .replied reply := by
  induction es generalizing now with
  | nil => exact .inl ⟨now, .nil now, rfl⟩
  | cons e rest ih =>
    cases hverdict : verdict? timeout (post e.url payload (.ofMillis timeout.toNat) now) with
    | none =>
      obtain ⟨delay, hcrash⟩ := verdict?_eq_none hverdict
      exact absurd hcrash (hcalm _ _ _ _ _)
    | some verdict =>
      cases verdict with
      | ok reply =>
        refine .inr ⟨[], e, rest, [], now, reply, rfl, .nil now, hverdict, ?_⟩
        simp only [down, hverdict]
      | error err =>
        simp only [down, hverdict]
        have hrest := ih
          (now + (post e.url payload (.ofMillis timeout.toNat) now).lasting timeout.toNat)
        rcases hrest with ⟨ended, hfails, harrival⟩ |
          ⟨before, e', after, failures, t, reply, rfl, hfails, hok, harrival⟩
        · exact .inl ⟨ended, .cons hverdict hfails, harrival⟩
        · exact .inr ⟨e :: before, e', after, _, t, reply, rfl, .cons hverdict hfails, hok,
            harrival⟩

def behind (posts : List Post) (failures : List Attempt) (j : Journey) : Journey :=
  ⟨posts ++ j.posts, failures ++ j.failures, j.arrival, j.ended⟩

theorem behind_behind (ps qs : List Post) (fs gs : List Attempt) (j : Journey) :
    (j.behind qs gs).behind ps fs = j.behind (ps ++ qs) (fs ++ gs) := by
  simp [behind]

theorem behind_nil (j : Journey) : j.behind [] [] = j := rfl

variable (post timeout payload) in
def onward (departed : Nat) (e : Endpoint) (rest : List Endpoint) : Journey :=
  let answer := post e.url payload (.ofMillis timeout.toNat) departed
  let ended := departed + answer.lasting timeout.toNat
  match verdict? timeout answer with
  | none => ⟨[], [], .crashed, ended⟩
  | some (.ok reply) => ⟨[], [], .replied reply, ended⟩
  | some (.error err) => (down post timeout payload ended rest).behind [] [Attempt.of e.url err]

theorem down_cons : down post timeout payload now (e :: rest) =
    (onward post timeout payload now e rest).behind [⟨now, e.url, payload⟩] [] := by
  simp only [down, onward]
  split <;> rfl

theorem le_onward_ended : now + (post e.url payload (.ofMillis timeout.toNat) now).lasting
    timeout.toNat ≤ (onward post timeout payload now e rest).ended := by
  simp only [onward]
  split
  · exact Nat.le_refl _
  · exact Nat.le_refl _
  · exact le_down_ended _ _

end Journey

theorem Reply.relayable_eq (r : Reply) : r.relayable =
    if r.status < 200 ∨ 300 ≤ r.status then .error (.status r.status)
    else
      match Json.check r.body with
      | .ok () => .ok r
      | .error f => .error (.invalidResponse ("body is not JSON: " ++ f.message r.body)) := by
  have hsuccess : (!r.isSuccess) = true ↔ r.status < 200 ∨ 300 ≤ r.status := by
    simp only [isSuccess, Bool.not_eq_true', Bool.and_eq_false_iff, decide_eq_false_iff_not]
    omega
  by_cases h : r.status < 200 ∨ 300 ≤ r.status
  · exact (if_pos (hsuccess.mpr h)).trans (if_pos h).symm
  · refine (if_neg (mt hsuccess.mp h)).trans (.trans ?_ (if_neg h).symm)
    cases Json.check r.body <;> rfl

namespace Walk

def flight (post : Transport) (timeout : UInt64) (payload : Bytes) (now : Nat) (e : Endpoint) :
    Flight (Except CallError Reply) :=
  ⟨now, timeout.toNat, post e.url payload (.ofMillis timeout.toNat) now⟩

variable {post : Transport} {timeout : UInt64} {payload : Bytes} {now : Nat} {e : Endpoint}
  {network : NetworkId}

theorem due_flight : (flight post timeout payload now e).due =
    now + (post e.url payload (.ofMillis timeout.toNat) now).lasting timeout.toNat := by
  rw [Flight.due, Flight.duration_eq]
  rfl

theorem verdict?_flight : verdict? (flight post timeout payload now e) =
    Journey.verdict? timeout (post e.url payload (.ofMillis timeout.toNat) now) := by
  simp only [verdict?, Flight.ending, flight]
  cases post e.url payload (.ofMillis timeout.toNat) now with
  | answers d answer =>
    by_cases hd : d ≤ timeout.toNat
    · have hlt : ¬timeout.toNat < d := Nat.not_lt.mpr hd
      cases answer with
      | error err => simp [Journey.verdict?, hd, hlt]
      | ok reply =>
        have hreply : Journey.verdict? timeout (.answers d (.ok reply)) = some reply.relayable := by
          simp only [Journey.verdict?, if_neg hlt, Reply.relayable_eq]
          split
          · rfl
          · cases Json.check reply.body <;> rfl
        simp [hreply, hd]
    · have hlt : timeout.toNat < d := Nat.lt_of_not_le hd
      cases answer <;> simp [Journey.verdict?, hd, hlt, CallError.cutOff_ofMillis]
  | crashes d =>
    by_cases hd : d ≤ timeout.toNat
    · have hlt : ¬timeout.toNat < d := Nat.not_lt.mpr hd
      simp [Journey.verdict?, hd, hlt]
    · have hlt : timeout.toNat < d := Nat.lt_of_not_le hd
      simp [Journey.verdict?, hd, hlt, CallError.cutOff_ofMillis]
  | silent => simp [Journey.verdict?, CallError.cutOff_ofMillis]

end Walk

def WalkEvent.post? : WalkEvent → Option Post
  | .posted p => some p
  | _ => none

/-- Whether a walk has come so far on a journey: it is at the end of it, or at an attempt. -/
structure Strides.Follows (post : Transport) (timeout : UInt64) (payload : Bytes) (n : NetworkId)
    (now : Nat) (s : Strides) (j : Journey) : Prop where
  done : ∀ result, s.stand = .done result →
    j.posts = s.events.filterMap WalkEvent.post? ∧ j.result n = result ∧ j.ended = now
  trying : ∀ t, s.stand = .trying t →
    t.flight = Walk.flight post timeout payload now t.endpoint ∧
    j = (Journey.onward post timeout payload now t.endpoint t.rest).behind
      (s.events.filterMap WalkEvent.post?) s.failures

section

variable {post : Transport} {timeout : UInt64} {payload : Bytes} {now : Nat} {n : NetworkId}
  {es : List Endpoint} {failures : List Attempt}

theorem Strides.Follows.of_done {result : RequestResult} {events : List WalkEvent} {j : Journey}
    (hposts : j.posts = events.filterMap WalkEvent.post?) (hresult : j.result n = result)
    (hended : j.ended = now) :
    Strides.Follows post timeout payload n now ⟨.done result, failures, events⟩ j where
  done _ h := by
    cases h
    exact ⟨hposts, hresult, hended⟩
  trying _ h := by cases h

theorem Strides.Follows.of_trying {t : Trying} {events : List WalkEvent} {j : Journey}
    (hflight : t.flight = Walk.flight post timeout payload now t.endpoint)
    (hj : j = (Journey.onward post timeout payload now t.endpoint t.rest).behind
      (events.filterMap WalkEvent.post?) failures) :
    Strides.Follows post timeout payload n now ⟨.trying t, failures, events⟩ j where
  done _ h := by cases h
  trying _ h := by
    cases h
    exact ⟨hflight, hj⟩

theorem Strides.Follows.tell {s : Strides} {j : Journey}
    (h : s.Follows post timeout payload n now j) (events : List WalkEvent) :
    Strides.Follows post timeout payload n now ⟨s.stand, s.failures, events ++ s.events⟩
      (j.behind (events.filterMap WalkEvent.post?) []) where
  done result hstand := by
    obtain ⟨hposts, hresult, hended⟩ := h.done result hstand
    refine ⟨?_, hresult, hended⟩
    rw [List.filterMap_append, ← hposts]
    rfl
  trying t hstand := by
    obtain ⟨hflight, rfl⟩ := h.trying t hstand
    refine ⟨hflight, ?_⟩
    rw [Journey.behind_behind, List.filterMap_append]
    rfl

theorem Walk.tryFrom_cons {e : Endpoint} {rest : List Endpoint} :
    Walk.tryFrom post timeout.toNat n payload now (e :: rest) failures =
      if now < (Walk.flight post timeout payload now e).due then
        ⟨.trying ⟨e, Walk.flight post timeout payload now e, rest⟩, failures,
          [.posted ⟨now, e.url, payload⟩]⟩
      else
        match Journey.verdict? timeout (post e.url payload (.ofMillis timeout.toNat) now) with
        | none => ⟨.done .crashed, failures, [.posted ⟨now, e.url, payload⟩]⟩
        | some (.ok reply) =>
          ⟨.done (.replied reply), [], [.posted ⟨now, e.url, payload⟩, .passedOn e]⟩
        | some (.error err) =>
          let next := Walk.tryFrom post timeout.toNat n payload now rest
            (failures ++ [Attempt.of e.url err])
          ⟨next.stand, next.failures,
            [.posted ⟨now, e.url, payload⟩, .fellBack e err] ++ next.events⟩ := by
  rw [← Walk.verdict?_flight]
  rfl

theorem Walk.tryFrom_follows :
    (Walk.tryFrom post timeout.toNat n payload now es failures).Follows post timeout payload n now
      ((Journey.down post timeout payload now es).behind [] failures) := by
  induction es generalizing failures with
  | nil => exact .of_done rfl (by simp [Journey.result, Journey.behind, Journey.down]) rfl
  | cons e rest ih =>
    rw [Journey.down_cons, Journey.behind_behind, Walk.tryFrom_cons]
    by_cases hdue : now < (Walk.flight post timeout payload now e).due
    · rw [if_pos hdue]
      refine .of_trying rfl ?_
      rw [List.append_nil]
      rfl
    · rw [if_neg hdue]
      -- The attempt takes no time, so the rest of the journey starts now.
      have hended : now + (post e.url payload (.ofMillis timeout.toNat) now).lasting timeout.toNat =
          now := by
        rw [← Walk.due_flight]
        exact Nat.le_antisymm (Nat.not_lt.mp hdue) (Nat.le_add_right _ _)
      simp only [Journey.onward, hended]
      split
      · exact .of_done rfl rfl rfl
      · exact .of_done rfl rfl rfl
      · rename_i err _
        have hnext : Strides.Follows post timeout payload n now
            (Walk.tryFrom post timeout.toNat n payload now rest
              (failures ++ [Attempt.of e.url err])) _ := ih
        have htell := hnext.tell [.posted ⟨now, e.url, payload⟩, .fellBack e err]
        have hposts : [.posted ⟨now, e.url, payload⟩, .fellBack e err].filterMap WalkEvent.post? =
            [⟨now, e.url, payload⟩] := rfl
        rw [hposts, Journey.behind_behind] at htell
        rw [Journey.behind_behind]
        simpa using htell

theorem Walk.resume_follows {departed : Nat} {t : Trying}
    (ht : t.flight = Walk.flight post timeout payload departed t.endpoint) :
    (Walk.resume post timeout.toNat n payload t.flight.due t failures).Follows post timeout payload
      n t.flight.due
      ((Journey.onward post timeout payload departed t.endpoint t.rest).behind [] failures) := by
  have hdue : t.flight.due = departed +
      (post t.endpoint.url payload (.ofMillis timeout.toNat) departed).lasting timeout.toNat := by
    rw [ht, Walk.due_flight]
  have hverdict : Walk.verdict? t.flight = Journey.verdict? timeout
      (post t.endpoint.url payload (.ofMillis timeout.toNat) departed) := by
    rw [ht, Walk.verdict?_flight]
  simp only [Walk.resume, hverdict, Journey.onward, ← hdue]
  rcases Journey.verdict? timeout (post t.endpoint.url payload (.ofMillis timeout.toNat) departed)
    with _ | err | reply
  · exact .of_done rfl rfl rfl
  · have hnext : Strides.Follows post timeout payload n t.flight.due
        (Walk.tryFrom post timeout.toNat n payload t.flight.due t.rest
          (failures ++ [Attempt.of t.endpoint.url err])) _ := Walk.tryFrom_follows
    have htell := hnext.tell [.fellBack t.endpoint err]
    have hposts : [.fellBack t.endpoint err].filterMap WalkEvent.post? = [] := rfl
    rw [hposts, Journey.behind_behind] at htell
    rw [Journey.behind_behind]
    simpa using htell
  · exact .of_done rfl rfl rfl

theorem Walk.begin_follows {ranking : Except RequestError Ranking} :
    (Walk.begin post timeout.toNat ranking n payload now).Follows post timeout payload n now
      (.of post timeout payload ranking now) := by
  cases ranking with
  | error e => exact .of_done rfl rfl rfl
  | ok r => exact Walk.tryFrom_follows

theorem Walk.tryFrom_rest {t : Trying}
    (h : (Walk.tryFrom post timeout.toNat n payload now es failures).stand = .trying t) :
    t.rest.length < es.length := by
  induction es generalizing failures with
  | nil => cases h
  | cons e rest ih =>
    rw [Walk.tryFrom_cons] at h
    split at h
    · cases h
      exact Nat.lt_succ_self _
    · split at h
      · cases h
      · cases h
      · exact Nat.lt_succ_of_lt (ih h)

theorem Walk.resume_rest {t t' : Trying}
    (h : (Walk.resume post timeout.toNat n payload now t failures).stand = .trying t') :
    t'.rest.length < t.rest.length := by
  simp only [Walk.resume] at h
  split at h
  · cases h
  · cases h
  · exact Walk.tryFrom_rest h

end

end RankedRelay
