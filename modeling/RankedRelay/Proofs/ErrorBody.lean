import RankedRelay.Proofs.Printing

namespace RankedRelay

open Json (Value)

namespace Json.Value

def natural? : Value → Option Nat
  | number (.integer (.ofNat n)) => some n
  | _ => none

def bool? : Value → Option Bool
  | bool b => some b
  | _ => none

def string? : Value → Option String
  | string s => some s
  | _ => none

def items? {α : Type} (read : Value → Option α) : Value → Option (List α)
  | array items => items.mapM read
  | _ => none

def nullable? {α : Type} (read : Value → Option α) : Value → Option (Option α)
  | null => some none
  | v => (read v).map some

theorem items?_array {α β : Type} {read : Value → Option β} {write : α → Value} {f : α → β}
    (h : ∀ a, read (write a) = some (f a)) (l : List α) :
    (Value.array (l.map write)).items? read = some (l.map f) := by
  simp only [items?]
  induction l with
  | nil => rfl
  | cons a rest ih =>
    rw [List.map_cons, List.mapM_cons, h, ih, List.map_cons]
    rfl

end Json.Value

def FailureKind.named? (s : String) : Option FailureKind :=
  [timeout, connectionRefused, invalidResponse, other].find? (·.text == s)

theorem FailureKind.named?_text (k : FailureKind) : named? k.text = some k := by
  cases k <;> decide

open Json.Value in
def Attempt.read? (v : Value) : Option Attempt := do
  let url ← (← v.member? "url").string?
  let kind ← FailureKind.named? (← (← v.member? "kind").string?)
  let reason ← (← v.member? "reason").string?
  return ⟨url, kind, reason⟩

def NetworkId.read? (v : Value) : Option NetworkId := do
  let n ← v.natural?
  if n < UInt64.size then some ⟨.ofNat n⟩ else none

/-- What a client reads about an error. -/
structure ErrorView where
  error : String
  network : Option NetworkId
  failures : Option (List Attempt)
deriving DecidableEq, Repr

def Json.Value.optional? {α : Type} (read : Value → Option α) (key : String) (v : Value) :
    Option (Option α) :=
  match v.member? key with
  | none => some none
  | some w => (read w).map some

open Json.Value in
def ErrorView.read? (v : Value) : Option ErrorView := do
  let error ← (← v.member? "error").string?
  let network ← v.optional? NetworkId.read? "network_id"
  let failures ← v.optional? (items? Attempt.read?) "failures"
  return ⟨error, network, failures⟩

theorem Attempt.read?_failureValue (a : Attempt) : read? (Frontend.failureValue a) = some a := by
  obtain ⟨url, kind, reason⟩ := a
  have hread : read? (Frontend.failureValue ⟨url, kind, reason⟩) =
      (FailureKind.named? kind.text).bind fun k => some ⟨url, k, reason⟩ := rfl
  rw [hread, FailureKind.named?_text]
  rfl

theorem NetworkId.read?_natural (id : NetworkId) :
    read? (.natural id.number.toNat) = some id := by
  have hread : read? (.natural id.number.toNat) =
      if id.number.toNat < UInt64.size then some ⟨.ofNat id.number.toNat⟩ else none := rfl
  rw [hread, if_pos id.number.toNat_lt_size, UInt64.ofNat_toNat]

namespace RequestError

def network? : RequestError → Option NetworkId
  | malformedNetwork _ => none
  | unknownNetwork network => some network
  | exhausted network _ => some network

def failures? : RequestError → Option (List Attempt)
  | malformedNetwork _ => none
  | unknownNetwork _ => none
  | exhausted _ failures => some failures

/-- What the body says of an error: the message, and the network and the failures where there are
any. -/
def members (e : RequestError) : List (String × Value) :=
  ("error", .string e.text) ::
    ((e.network?.map fun id => ("network_id", Value.natural id.number.toNat)).toList ++
      (e.failures?.map fun as => ("failures", .array (as.map Frontend.failureValue))).toList)

end RequestError

namespace Frontend

open Json

theorem regular_failureValue (a : Attempt) : Regular 1 (failureValue a) := by
  refine .object fun m hm => ?_
  simp only [List.mem_cons, List.not_mem_nil, or_false] at hm
  rcases hm with rfl | rfl | rfl <;> exact .string _

theorem ordered_failureValue (a : Attempt) : (failureValue a).ordered = failureValue a :=
  ofMembers_of_pairwise (show ["kind", "reason", "url"].Pairwise (· < ·) by decide)

theorem regular_natural {depth n : Nat} (h : n < UInt64.size) : Regular depth (.natural n) := by
  have hlow : -((Nat.pow 2 63 : Nat) : Int) ≤ (n : Int) := by omega
  exact .integer ⟨hlow, Int.ofNat_lt.mpr h⟩

theorem ofError_value (e : RequestError) : ∃ members,
    (ofError e).body = .ofText (Value.object members).text ∧ Regular 3 (.object members) ∧
      (Value.object members).ordered = .object members ∧ members.Perm e.members ∧
      ErrorView.read? (.object members) = some ⟨e.text, e.network?, e.failures?⟩ := by
  cases e with
  | malformedNetwork s =>
    refine ⟨_, rfl, .object ?_, ofMembers_of_pairwise (List.pairwise_singleton _ _), .refl _, rfl⟩
    simp only [List.forall_mem_singleton]
    exact .string _
  | unknownNetwork id =>
    have hsorted : ["error", "network_id"].Pairwise (· < ·) := by decide
    have hread (text : String) (v : Value) :
        ErrorView.read? (.object [("error", .string text), ("network_id", v)]) =
          (NetworkId.read? v).bind fun network => some ⟨text, some network, none⟩ := by
      cases h : NetworkId.read? v <;>
        simp [ErrorView.read?, Value.optional?, Value.member?, Value.string?, h]
    refine ⟨_, rfl, .object ?_, ofMembers_of_pairwise hsorted, .refl _, ?_⟩
    · intro m hm
      simp only [List.mem_cons, List.not_mem_nil, or_false] at hm
      rcases hm with rfl | rfl
      · exact .string _
      · exact regular_natural id.number.toNat_lt_size
    · rw [hread, NetworkId.read?_natural]
      rfl
  | exhausted id failures =>
    have hsorted : ["error", "failures", "network_id"].Pairwise (· < ·) := by decide
    have hfailures : (Value.array (failures.map failureValue)).ordered =
        .array (failures.map failureValue) := by
      simp only [ordered_map, ordered_failureValue]
    have hordered (text : String) (v w : Value) :
        (Value.object [("error", .string text), ("failures", v), ("network_id", w)]).ordered =
          .object [("error", .string text), ("failures", v.ordered), ("network_id", w.ordered)] :=
      ofMembers_of_pairwise hsorted
    have hread (text : String) (v w : Value) :
        ErrorView.read? (.object [("error", .string text), ("failures", v), ("network_id", w)]) =
          (NetworkId.read? w).bind fun network => (v.items? Attempt.read?).bind fun failures =>
            some ⟨text, some network, some failures⟩ := by
      cases h : NetworkId.read? w <;> cases h' : v.items? Attempt.read? <;>
        simp [ErrorView.read?, Value.optional?, Value.member?, Value.string?, h, h']
    refine ⟨_, rfl, .object ?_, ?_, .cons _ (.swap ..), ?_⟩
    · intro m hm
      simp only [List.mem_cons, List.not_mem_nil, or_false] at hm
      rcases hm with rfl | rfl | rfl
      · exact .string _
      · exact .array (List.forall_mem_map.mpr fun a _ => regular_failureValue a)
      · exact regular_natural id.number.toNat_lt_size
    · rw [hordered, hfailures]
      rfl
    · rw [hread, NetworkId.read?_natural, Value.items?_array Attempt.read?_failureValue,
        List.map_id']
      rfl

theorem decode_ofError (e : RequestError) : ∃ members,
    Json.decode (ofError e).body = .ok (.object members) ∧ members.Perm e.members ∧
      ErrorView.read? (.object members) = some ⟨e.text, e.network?, e.failures?⟩ := by
  obtain ⟨members, hbody, hregular, hordered, hperm, hread⟩ := ofError_value e
  exact ⟨members, by rw [hbody, decode_text hregular (by decide), hordered], hperm, hread⟩

/-- The body of an error is JSON that a reply of an upstream could be, and decodes to an object with
nothing but the message, the network and the failures. All of them are read back as they were, each
failure with its endpoint, kind and reason, in the order of the attempts. -/
theorem error_body_exact (e : RequestError) :
    Json.check (ofError e).body = .ok () ∧
    ∃ members, Json.decode (ofError e).body = .ok (.object members) ∧ members.Perm e.members ∧
      ErrorView.read? (.object members) = some ⟨e.text, e.network?, e.failures?⟩ := by
  obtain ⟨_, hbody, hregular, -⟩ := ofError_value e
  exact ⟨hbody ▸ check_text hregular, decode_ofError e⟩

end Frontend

end RankedRelay
