import RankedRelay.Proofs.Journey
import RankedRelay.Proofs.Probing
import RankedRelay.Proofs.Skipping

namespace RankedRelay

namespace Json

variable {α : Type} {b : UInt8} {bs rest : Bytes}

/-- Whether a reader only takes values that can be skipped, and stops where skipping does. -/
def Skips (read : Bytes → Except Fault (α × Bytes)) : Prop :=
  ∀ bs r, read bs = .ok r → skipValue bs = .ok r.2

theorem skipValue_of_start (hbs : skipBlank bs = b :: rest) {behind : Bytes}
    (h : skipping.start [] b rest = .ok (.finished (), behind)) : skipValue bs = .ok behind := by
  have hwalk : skipping.walk (.value []) bs = .ok ((), behind) := Reading.walk_of_finished hbs h
  simp only [skipValue, Reading.read, hwalk, Except.map]

theorem start_number {frames : List (Frame Unit Unit)} (hb : b = 0x2d ∨ isDigit b = true) :
    skipping.start frames b rest =
      (skipping.number (b :: rest)).map fun r => (deliver r.1 frames, r.2) := by
  have hne : ∀ c : UInt8, isDigit c = false → c ≠ 0x2d → b ≠ c := by
    intro c hdigit hminus heq
    subst heq
    cases hb with
    | inl hb => exact hminus hb
    | inr hb => rw [hdigit] at hb; cases hb
  rw [Reading.start, if_neg (hne 0x6e rfl (by decide)), if_neg (hne 0x74 rfl (by decide)),
    if_neg (hne 0x66 rfl (by decide)), if_pos hb]

theorem skips_readText : Skips readText := by
  intro bs r h
  unfold readText at h
  split at h
  · cases h
  · rename_i b rest hbs
    split at h
    · rename_i hquote
      subst hquote
      apply skipValue_of_start hbs
      have hstart : skipping.start [] 0x22 rest =
          ((skipString rest).map ((), ·)).map fun q => (deliver q.1 [], q.2) := rfl
      rw [hstart, skipString_of_readString h]
      rfl
    · exact absurd h (unexpected_ne_ok _ _ _ _)

theorem skips_readInt64 : Skips readInt64 := by
  intro bs r h
  unfold readInt64 at h
  split at h
  · cases h
  · rename_i b rest hbs
    split at h
    · rename_i hdigit
      split at h
      · cases h
      · rename_i n behind hn
        split at h
        · cases h
          apply skipValue_of_start hbs
          rw [start_number hdigit]
          simp only [skipping, skipNumber_of_readNumber hn, Except.map]
          rfl
        · cases h
      · cases h
    · exact absurd h (unexpected_ne_ok _ _ _ _)

theorem skips_decodeValue (depth : Nat) : Skips (decodeValue depth) := fun _ _ =>
  skipValue_of_decodeValue

theorem skips_readOptional {read : Bytes → Except Fault (α × Bytes)} (hread : Skips read) :
    Skips (readOptional read) := by
  intro bs r h
  unfold readOptional at h
  split at h
  · rename_i rest hbs
    obtain ⟨behind, hletters, rfl⟩ := map_ok h
    apply skipValue_of_start hbs
    have hstart : skipping.start [] 0x6e rest =
        (skipLetters [0x75, 0x6c, 0x6c] rest).map (deliver () [], ·) := rfl
    rw [hstart, hletters]
    rfl
  · obtain ⟨q, hq, rfl⟩ := map_ok h
    exact hread _ _ hq

def besideMember (first : Bool) (members : List (Unit × Unit)) : Place Unit Unit :=
  if first then .member true members [] else .behindMember members []

def besideElement (first : Bool) (items : List Unit) : Place Unit Unit :=
  if first then .element true items [] else .behindElement items []

theorem walk_behindKey {first : Bool} {members : List (Unit × Unit)} {key : String}
    {quoted behind : Bytes} (hbs : skipBlank bs = 0x22 :: quoted)
    (hkey : readString quoted = .ok (key, behind)) (hcolon : passColon behind = .ok rest) :
    skipping.walk (.member first members []) bs =
      skipping.walk (.value [.member members ()]) rest := by
  have hpassed : Reading.colon members () [] behind =
      .ok (.reached (.value [Frame.member members ()]), rest) := by
    unfold passColon at hcolon
    split at hcolon
    · cases hcolon
    · rename_i b tail hcolonBs
      split at hcolon
      · rename_i hb
        cases hcolon
        simp only [Reading.colon, hcolonBs, hb, if_true]
      · cases hcolon
  apply Reading.walk_of_reached hbs
  have hskip : skipping.key quoted = .ok ((), behind) := by
    simp only [skipping, skipString_of_readString hkey, Except.map]
  have hadvance : skipping.advance 0x22 quoted (.member first members []) =
      skipping.startMember members [] quoted := rfl
  rw [hadvance, Reading.startMember, hskip]
  exact hpassed

theorem walk_nextKey {first : Bool} {members : List (Unit × Unit)} {key : String}
    {quoted behind : Bytes} (hnext : nextKey first bs = .ok (some quoted))
    (hkey : readString quoted = .ok (key, behind)) (hcolon : passColon behind = .ok rest) :
    skipping.walk (besideMember first members) bs =
      skipping.walk (.value [.member members ()]) rest := by
  unfold nextKey at hnext
  split at hnext
  · cases hnext
  · rename_i b tail hbs
    split at hnext
    · cases hnext
    split at hnext
    · rename_i hfirst
      split at hnext
      · rename_i hquote
        subst hquote
        cases hnext
        rw [hfirst]
        exact walk_behindKey hbs hkey hcolon
      · cases hnext
    rename_i hfirst
    split at hnext
    · rename_i hcomma
      subst hcomma
      split at hnext
      · cases hnext
      · rename_i c more hmore
        split at hnext
        · rename_i hquote
          subst hquote
          cases hnext
          have hpassed : skipping.walk (.behindMember members []) bs =
              skipping.walk (.member false members []) tail := Reading.walk_of_reached hbs rfl
          rw [besideMember, if_neg hfirst, hpassed]
          exact walk_behindKey hmore hkey hcolon
        · split at hnext <;> cases hnext
    · cases hnext

theorem walk_frontElement {first : Bool} {items : List Unit} (hbs : skipBlank bs = b :: rest)
    (hopen : b ≠ 0x5d) : skipping.walk (.element first items []) bs =
      skipping.walk (.value [.array items]) (b :: rest) := by
  have hadvance : skipping.advance b rest (.element first items []) =
      skipping.advance b rest (.value [.array items]) := if_neg hopen
  rw [← hbs, Reading.walk_skipBlank, Reading.walk_eq, Reading.walk_eq, hbs]
  simp only [hadvance]

theorem walk_nextElement {first : Bool} {items : List Unit}
    (hnext : nextElement first bs = .ok (some rest)) :
    skipping.walk (besideElement first items) bs = skipping.walk (.value [.array items]) rest := by
  unfold nextElement at hnext
  split at hnext
  · cases hnext
  · rename_i b tail hbs
    split at hnext
    · cases hnext
    rename_i hopen
    split at hnext
    · rename_i hfirst
      cases hnext
      rw [hfirst]
      exact walk_frontElement hbs hopen
    rename_i hfirst
    split at hnext
    · rename_i hcomma
      subst hcomma
      split at hnext
      · cases hnext
      · rename_i c more hmore
        split at hnext
        · cases hnext
        · rename_i hopen
          cases hnext
          have hpassed : skipping.walk (.behindElement items []) bs =
              skipping.walk (.element false items []) tail := Reading.walk_of_reached hbs rfl
          rw [besideElement, if_neg hfirst, hpassed]
          exact walk_frontElement hmore hopen
    · cases hnext

theorem walk_closeObject {first : Bool} {members : List (Unit × Unit)}
    (h : closeObject bs = .ok rest) :
    skipping.walk (besideMember first members) bs = .ok ((), rest) := by
  unfold closeObject at h
  split at h
  · cases h
  · rename_i b tail hbs
    split at h
    · rename_i hclose
      subst hclose
      cases h
      cases first <;> exact Reading.walk_of_finished hbs rfl
    · cases h

theorem walk_closeArray {first : Bool} {items : List Unit} (h : closeArray bs = .ok rest) :
    skipping.walk (besideElement first items) bs = .ok ((), rest) := by
  unfold closeArray at h
  split at h
  · cases h
  · rename_i b tail hbs
    split at h
    · rename_i hclose
      subst hclose
      cases h
      cases first <;> exact Reading.walk_of_finished hbs rfl
    · split at h
      · split at h <;> cases h
      · cases h

namespace Schema

variable {σ : Type} {S : Schema σ} {g : σ}

/-- Whether each field of a schema is read from a value that can be skipped. -/
def Skips (S : Schema σ) : Prop := ∀ f ∈ S.fields, ∀ g, Json.Skips (f.read g)

theorem skips_readMember (hS : S.Skips) {key : String} {r : σ × Bytes}
    (h : S.readMember g key bs = .ok r) :
    ∃ rest, passColon bs = .ok rest ∧ skipValue rest = .ok r.2 := by
  unfold readMember at h
  split at h
  · rename_i f hf
    split at h
    · cases h
    · split at h
      · cases h
      · rename_i rest hcolon
        exact ⟨rest, hcolon, hS f (List.mem_of_find?_eq_some hf) _ _ _ (lift_ok h)⟩
  · split at h
    · cases h
    · rename_i rest hcolon
      obtain ⟨behind, hskip, rfl⟩ := map_ok h
      exact ⟨rest, hcolon, lift_ok hskip⟩

theorem walk_readMembers (members : List (Unit × Unit)) (hS : S.Skips) {first : Bool}
    {r : σ × Bytes} (h : S.readMembers first g bs = .ok r) :
    ∃ first' members', skipping.walk (besideMember first members) bs =
      skipping.walk (besideMember first' members') r.2 := by
  fun_induction readMembers S first g bs generalizing members with
  | case1 => cases h
  | case2 =>
    cases h
    exact ⟨_, _, rfl⟩
  | case3 => cases h
  | case4 => cases h
  | case5 first g bs quoted hnext key behind hkey g' rest hmember ih =>
    obtain ⟨value, hcolon, hskip⟩ := skips_readMember hS hmember
    rw [walk_nextKey hnext hkey hcolon, walk_of_skipValue hskip]
    exact ih _ h

theorem walk_readElements (items : List Unit) (hS : S.Skips) {first : Bool} {index : Nat}
    {fields : List (Field σ)} (hfields : fields ⊆ S.fields) {r : σ × Bytes}
    (h : S.readElements first index g fields bs = .ok r) :
    ∃ first' items', skipping.walk (besideElement first items) bs =
      skipping.walk (besideElement first' items') r.2 := by
  fun_induction readElements S first index g fields bs generalizing items with
  | case1 =>
    cases h
    exact ⟨_, _, rfl⟩
  | case2 => cases h
  | case3 _ _ _ f fields bs _ _ ih => exact ih _ (List.subset_of_cons_subset hfields) h
  | case4 => cases h
  | case5 => cases h
  | case6 first index g f fields bs rest hnext g' behind hread ih =>
    have hskip : skipValue rest = .ok behind :=
      hS f (hfields (List.mem_cons_self ..)) g _ _ (lift_ok hread)
    rw [walk_nextElement hnext, walk_of_skipValue hskip]
    exact ih _ (List.subset_of_cons_subset hfields) h

theorem walk_readObject (hS : S.Skips) {r : σ × Bytes} (h : S.readObject bs = .ok r) :
    skipping.walk (.member true [] []) bs = .ok ((), r.2) := by
  unfold readObject at h
  split at h
  · cases h
  · cases h
  · rename_i g rest hmembers
    split at h
    · cases h
    · obtain ⟨behind, hclose, rfl⟩ := map_ok h
      obtain ⟨first, members, hwalk⟩ := walk_readMembers [] hS hmembers
      exact hwalk.trans (walk_closeObject hclose)

theorem walk_readArray (hS : S.Skips) {r : σ × Bytes} (h : S.readArray bs = .ok r) :
    skipping.walk (.element true [] []) bs = .ok ((), r.2) := by
  unfold readArray at h
  split at h
  · cases h
  · cases h
  · rename_i g rest helements
    obtain ⟨behind, hclose, rfl⟩ := map_ok h
    obtain ⟨first, items, hwalk⟩ :=
      walk_readElements [] hS (List.Subset.refl _) helements
    exact hwalk.trans (walk_closeArray hclose)

/-- A record is one value, as an object and as an array. -/
theorem skips_read (hS : S.Skips) : Json.Skips S.read := by
  intro bs r h
  unfold read at h
  split at h
  · cases h
  · rename_i b rest hbs
    have hwalk : skipping.walk (.value []) bs = .ok ((), r.2) := by
      split at h
      · rename_i hbracket
        subst hbracket
        have hopen : skipping.walk (.value []) bs = skipping.walk (.element true [] []) rest :=
          Reading.walk_of_reached hbs rfl
        exact hopen.trans (walk_readArray hS h)
      split at h
      · rename_i hbrace
        subst hbrace
        have hopen : skipping.walk (.value []) bs = skipping.walk (.member true [] []) rest :=
          Reading.walk_of_reached hbs rfl
        exact hopen.trans (walk_readObject hS h)
      · exact absurd h (unexpected_ne_ok _ _ _ _)
    simp only [skipValue, Reading.read, hwalk, Except.map]

end Schema

end Json

namespace Rpc

open Json

theorem ReplyError.skips_read : Skips ReplyError.read := by
  have hschema : ReplyError.schema.Skips := by
    intro f hf g bs r h
    simp only [ReplyError.schema, List.mem_cons, List.not_mem_nil, or_false] at hf
    obtain rfl | rfl := hf
    · obtain ⟨q, hq, rfl⟩ := map_ok h
      exact skips_readInt64 _ _ hq
    · obtain ⟨q, hq, rfl⟩ := map_ok h
      exact skips_readText _ _ hq
  intro bs r h
  obtain ⟨q, hq, rfl⟩ := map_ok h
  exact Schema.skips_read hschema _ _ hq

theorem Reply.skips_schema : Reply.schema.Skips := by
  intro f hf g bs r h
  simp only [Reply.schema, List.mem_cons, List.not_mem_nil, or_false] at hf
  obtain rfl | rfl | rfl := hf
  · obtain ⟨q, hq, rfl⟩ := map_ok h
    exact skips_readText _ _ hq
  · obtain ⟨q, hq, rfl⟩ := map_ok h
    exact skips_readOptional (skips_decodeValue _) _ _ hq
  · obtain ⟨q, hq, rfl⟩ := map_ok h
    exact skips_readOptional ReplyError.skips_read _ _ hq

theorem Reply.check_of_decode {body : Bytes} {reply : Rpc.Reply}
    (h : Reply.decode body = .ok reply) : Json.check body = .ok () := by
  unfold Reply.decode at h
  split at h
  · cases h
  · rename_i g rest hread
    obtain ⟨_, hfinish, -⟩ := map_ok h
    have hskip : skipValue body = .ok rest := Schema.skips_read Reply.skips_schema _ _ hread
    simp only [Json.check, hskip, hfinish]

end Rpc

namespace Reply

variable {verify : Bool} {n : NetworkId} {reply : Reply}

theorem decode_of_judge (h : reply.judge verify n = .ok ()) :
    reply.isSuccess = true ∧ ∃ decoded, Rpc.Reply.decode reply.body = .ok decoded := by
  unfold judge at h
  split at h
  · cases h
  · rename_i hsuccess
    refine ⟨by simpa using hsuccess, ?_⟩
    unfold judgeBody at h
    split at h
    · cases h
    · exact ⟨_, ‹_›⟩

theorem relayable_of_check (hsuccess : reply.isSuccess = true)
    (hbody : Json.check reply.body = .ok ()) : reply.relayable = .ok reply := by
  simp [relayable, hsuccess, hbody]

end Reply

theorem Prober.judge_of_over {post : Transport} {verify : Bool} {span latency : Span} {e : Endpoint}
    {now delay : Nat} {reply : Reply}
    (hanswer : post e.url Rpc.probePayload span now = .answers delay (.ok reply))
    (hprobe : Prober.over post verify span e now = .answers delay (.ok latency)) :
    reply.judge verify e.network = .ok () := by
  simp only [Prober.over, hanswer, Course.map, Course.answers.injEq, true_and] at hprobe
  cases hjudge : reply.judge verify e.network with
  | error err =>
    rw [hjudge] at hprobe
    cases hprobe
  | ok _ => rfl

/-- A body that is decoded as a reply is JSON, so that a reply by which a probe finds an endpoint
healthy is passed on by any attempt that receives it in time, with whatever content type. -/
theorem attempt_of_probe :
    (∀ body decoded, Rpc.Reply.decode body = .ok decoded → Json.check body = .ok ()) ∧
    ∀ (post : Transport) (verify : Bool) (span latency : Span) (e : Endpoint) (now delay : Nat)
      (reply : Reply),
      post e.url Rpc.probePayload span now = .answers delay (.ok reply) →
      Prober.over post verify span e now = .answers delay (.ok latency) →
      ∀ (attempt : Flight (Except CallError Reply)) (received : Reply), ∀ d ≤ attempt.limit,
        received.status = reply.status → received.body = reply.body →
        attempt.course = .answers d (.ok received) →
        Walk.verdict? attempt = some (.ok received) := by
  refine ⟨fun _ _ => Rpc.Reply.check_of_decode, ?_⟩
  intro post verify span latency e now delay reply hanswer hprobe attempt received d hd hstatus
    hbody hcourse
  have hjudge : reply.judge verify e.network = .ok () := Prober.judge_of_over hanswer hprobe
  obtain ⟨hsuccess, decoded, hdecode⟩ := Reply.decode_of_judge hjudge
  have hcheck : Json.check received.body = .ok () := hbody ▸ Rpc.Reply.check_of_decode hdecode
  have hsuccess' : received.isSuccess = true := by
    rwa [Reply.isSuccess, hstatus, ← Reply.isSuccess]
  have hending : attempt.ending = .answered (.ok received) := by
    simp only [Flight.ending, hcourse, if_pos hd]
  simp only [Walk.verdict?, hending, Reply.relayable_of_check hsuccess' hcheck]

def wordy : Reply := ⟨200, none, Bytes.ofText
  "\x7b\"id\":[1e5,\x7b\"\\n\":null\x7d],\"jsonrpc\":\"2.0\",\"result\":\"0x1\"\x7d"⟩

theorem attempt_of_probe_wordy :
    Walk.verdict? ⟨0, 10, .answers 10 (.ok wordy)⟩ = some (.ok wordy) := by
  let post : Transport := fun _ _ _ _ => .answers 3 (.ok wordy)
  have hjudge : wordy.judge true ⟨1⟩ = .ok () := by decide +kernel
  have hprobe : Prober.over post true ⟨0⟩ ⟨"http://[::1]", ⟨1⟩⟩ 0 =
      .answers 3 (.ok (.ofMillis 3)) := by
    simp only [Prober.over, post, Course.map, hjudge]
    rfl
  exact attempt_of_probe.2 post true ⟨0⟩ (.ofMillis 3) ⟨"http://[::1]", ⟨1⟩⟩ 0 3 wordy rfl hprobe
    ⟨0, 10, .answers 10 (.ok wordy)⟩ wordy 10 (Nat.le_refl _) rfl rfl rfl

end RankedRelay
