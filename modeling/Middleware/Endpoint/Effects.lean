/-
What one call of the resolver does: it is answered by the first cache, by the repository or by Redis, or it is refused. A
snapshot that `put` wrote is read back as the endpoint it was made of, and a request is told apart by its key.
-/
import Middleware.Endpoint.Resolver

namespace Middleware.Endpoint

open Lib

/-! ## Snapshots -/

theorem textsOf_texts (l : List String) : textsOf (.arr (l.map .str)) = some l := by
  show (l.map Json.str).mapM textOf = some l
  induction l with
  | nil => rfl
  | cons s rest ih =>
    rw [List.map_cons, List.mapM_cons, ih]
    rfl

theorem ofMembers_members (e : ResolvedEndpoint) : ResolvedEndpoint.ofMembers e.members = some e := by
  have hscopes : textsOf (.arr (e.requiredScopes.map .str)) = some e.requiredScopes := textsOf_texts _
  have hexpires : optionalTextOf (optionalValue e.expiresAt) = some e.expiresAt := by
    cases e.expiresAt <;> rfl
  unfold ResolvedEndpoint.ofMembers ResolvedEndpoint.members
  simp only [Obj.lookup_cons_ite, String.reduceEq, if_true, if_false, Option.bind_eq_bind, Option.bind_some, hscopes,
    hexpires, textOf, intOf, boolOf, Option.pure_def]

section Cache

variable {cfg : Config} {c : Caches} {request : ResolutionRequest} {now : ℚ} {generation : Int} {endpoint : ResolvedEndpoint}

/-- Redis holds a snapshot of the endpoint under the key of the request. -/
def Holds (cfg : Config) (c : Caches) (now : ℚ) (request : ResolutionRequest) (generation : Int) (endpoint : ResolvedEndpoint) :
    Prop :=
  redisGet c now (key request generation) = some (envelope cfg endpoint)

theorem getL2_holds (h : Holds cfg c now request generation endpoint) :
    getL2 cfg c request now true generation = .ok (some endpoint) := by
  unfold getL2
  rw [h]
  simp [envelope, ofMembers_members, Obj.lookup_cons_ite]

theorem getL2_empty (h : redisGet c now (key request generation) = none) :
    getL2 cfg c request now true generation = .ok none := by
  unfold getL2
  rw [h]
  rfl

/-! ## The first cache -/

/-- The entry that answers a call, if there is one. -/
def Fresh (l1 : OrderedDict String L1Entry) (request : ResolutionRequest) (now : ℚ) (entry : L1Entry) : Prop :=
  l1.get request.cacheHash = some entry ∧ now ≤ entry.expiresMonotonic

/-- The first cache has no entry that is not expired. -/
def Missed (l1 : OrderedDict String L1Entry) (request : ResolutionRequest) (now : ℚ) : Prop :=
  ∀ entry, l1.get request.cacheHash = some entry → entry.expiresMonotonic < now

/-- The caches after an entry was found expired or not at all. -/
def dropped (c : Caches) (request : ResolutionRequest) : Caches := { c with l1 := c.l1.pop request.cacheHash }

theorem pop_absent {d : OrderedDict String L1Entry} {k : String} (h : d.get k = none) : d.pop k = d := by
  unfold OrderedDict.pop
  rw [List.filter_eq_self]
  intro m hm
  have hne : m.1 ≠ k := by
    rintro rfl
    exact OrderedDict.get_eq_none.1 h (OrderedDict.mem_keys_of_mem hm)
  simpa using hne

theorem get_cases (c : Caches) (request : ResolutionRequest) (now : ℚ) :
    (∃ entry, Fresh c.l1 request now entry ∧
      get c request now false = (some entry.endpoint, { c with l1 := c.l1.moveToEnd request.cacheHash })) ∨
    Missed c.l1 request now ∧ get c request now false = (none, dropped c request) := by
  unfold get
  cases hentry : c.l1.get request.cacheHash with
  | none =>
    refine .inr ⟨?_, ?_⟩
    · intro entry h
      rw [hentry] at h
      cases h
    · unfold dropped
      rw [pop_absent hentry]
  | some entry =>
    dsimp only
    by_cases h : now ≤ entry.expiresMonotonic
    · refine .inl ⟨entry, ⟨hentry, h⟩, ?_⟩
      rw [if_pos (.inl h)]
    · refine .inr ⟨?_, ?_⟩
      · intro entry' h'
        rw [hentry] at h'
        cases h'
        exact not_le.1 h
      · rw [if_neg (by simpa using h)]
        rfl

/-- A second lookup finds nothing: the first one has dropped the entry. -/
theorem get_dropped (c : Caches) (request : ResolutionRequest) (now : ℚ) (allowStale : Bool) :
    get (dropped c request) request now allowStale = (none, dropped c request) := by
  have hnone : (dropped c request).l1.get request.cacheHash = none := by
    show (c.l1.pop request.cacheHash).get request.cacheHash = none
    rw [OrderedDict.get_pop, if_pos rfl]
  unfold get
  rw [hnone]

/-- What a call answers and leaves. -/
inductive Resolves (cfg : Config) (c : Caches) (request : ResolutionRequest) (now : ℚ) (generation : Int) :
    RepositoryReply → Bool → Except ResolutionDenied ResolvedEndpoint × Caches → Prop
  | hit (repository : RepositoryReply) (redisUp : Bool) (entry : L1Entry) (fresh : Fresh c.l1 request now entry) :
      Resolves cfg c request now generation repository redisUp
        (.ok entry.endpoint, { c with l1 := c.l1.moveToEnd request.cacheHash })
  | refused (repository : RepositoryReply) (redisUp : Bool) (e : ResolutionDenied) (missed : Missed c.l1 request now)
      (unanswered : ∀ endpoint rest, repository ≠ .candidates (endpoint :: rest))
      (unread : repository = .unavailable → ∀ endpoint, getL2 cfg c request now redisUp generation ≠ .ok (some endpoint)) :
      Resolves cfg c request now generation repository redisUp (.error e, dropped c request)
  | stored (endpoint : ResolvedEndpoint) (rest : List ResolvedEndpoint) (missed : Missed c.l1 request now) :
      Resolves cfg c request now generation (.candidates (endpoint :: rest)) true
        (.ok endpoint, put cfg (dropped c request) request now endpoint)
  | unstored (endpoint : ResolvedEndpoint) (rest : List ResolvedEndpoint) (missed : Missed c.l1 request now) :
      Resolves cfg c request now generation (.candidates (endpoint :: rest)) false (.ok endpoint, dropped c request)
  | refilled (endpoint : ResolvedEndpoint) (missed : Missed c.l1 request now)
      (found : getL2 cfg c request now true generation = .ok (some endpoint)) :
      Resolves cfg c request now generation .unavailable true
        (.ok endpoint, putL1 cfg (dropped c request) request now endpoint)

theorem getL2_dropped (redisUp : Bool) : getL2 cfg (dropped c request) request now redisUp generation =
    getL2 cfg c request now redisUp generation := rfl

theorem resolve_resolves (cfg : Config) (c : Caches) (request : ResolutionRequest) (now : ℚ) (generation : Int)
    (repository : RepositoryReply) (redisUp : Bool) : Resolves cfg c request now generation repository redisUp
      (resolve cfg c request now generation repository redisUp) := by
  unfold resolve
  rcases get_cases c request now with ⟨entry, hfresh, hget⟩ | ⟨hmissed, hget⟩
  · rw [hget]
    exact .hit repository redisUp entry hfresh
  rw [hget]
  dsimp only
  cases repository with
  | denied e => exact .refused _ _ e hmissed (by simp) (by simp)
  | candidates endpoints =>
    cases endpoints with
    | nil => exact .refused _ _ _ hmissed (by simp) (by simp)
    | cons endpoint rest =>
      cases redisUp with
      | true => exact .stored endpoint rest hmissed
      | false => exact .unstored endpoint rest hmissed
  | unavailable =>
    rw [getL2_dropped]
    cases hl2 : getL2 cfg c request now redisUp generation with
    | ok found =>
      cases found with
      | some endpoint =>
        cases redisUp with
        | true => exact .refilled endpoint hmissed hl2
        | false => cases hl2
      | none =>
        rw [get_dropped]
        exact .refused _ _ _ hmissed (by simp) (by simp [hl2])
    | error e =>
      cases e with
      | denied e => exact .refused _ _ e hmissed (by simp) (by simp [hl2])
      | redisError | keyError | typeError =>
        rw [get_dropped]
        exact .refused _ _ _ hmissed (by simp) (by simp [hl2])

end Cache

/-! ## Keys -/

theorem members_valid (r : ResolutionRequest) : (Json.obj r.members).valid = true := by
  simp [ResolutionRequest.members, Json.valid, validMembers]

theorem canonical_inj {r r' : ResolutionRequest} (h : r.canonical = r'.canonical) : r = r' := by
  have hcanon := dumps_inj (members_valid r) (members_valid r') h
  have hkeys : (r'.members.map Prod.fst).Nodup := by simp [ResolutionRequest.members]
  have hfield : ∀ {k v w}, r.members.lookup k = some v → r'.members.lookup k = some w → v.canon = w.canon :=
    fun hv hw => canon_lookup hcanon hkeys hv hw
  have h₁ := hfield (k := "environment") rfl rfl
  have h₂ := hfield (k := "service_key") rfl rfl
  have h₃ := hfield (k := "endpoint_key") rfl rfl
  have h₄ := hfield (k := "api_version") rfl rfl
  have h₅ := hfield (k := "organization_public_id") rfl rfl
  have h₆ := hfield (k := "business_unit_public_id") rfl rfl
  have h₇ := hfield (k := "campaign_public_id") rfl rfl
  have h₈ := hfield (k := "workflow_key") rfl rfl
  have h₉ := hfield (k := "event_type") rfl rfl
  have h₁₀ := hfield (k := "mutation") rfl rfl
  simp only [Json.canon, Json.str.injEq, Json.bool.injEq] at h₁ h₂ h₃ h₄ h₅ h₆ h₇ h₈ h₉ h₁₀
  cases r
  cases r'
  simp_all

theorem hexdigest_colon (text : String) : ':' ∉ (Sha256.hexdigest text).toList := by
  have hdigit : ∀ n < 16, Sha256.hexDigit n ≠ ':' := by decide
  intro hc
  obtain ⟨n, hn, heq⟩ := Sha256.mem_hexdigest hc
  exact hdigit n hn heq.symm

theorem after_separator {a b x y : List Char} {sep : Char} (h : a ++ sep :: x = b ++ sep :: y) (hx : sep ∉ x) (hy : sep ∉ y) :
    x = y := by
  have hlast : ∀ {a x : List Char}, sep ∉ x → (a ++ sep :: x).reverse.takeWhile (· ≠ sep) = x.reverse := by
    intro a x hx
    rw [List.reverse_append, List.reverse_cons, List.append_assoc, List.takeWhile_append_of_pos]
    · simp
    · intro c hc
      rw [List.mem_reverse] at hc
      simp only [ne_eq, decide_eq_true_eq]
      rintro rfl
      exact hx hc
  have htake := congrArg (fun l : List Char => l.reverse.takeWhile (· ≠ sep)) h
  rw [hlast hx, hlast hy] at htake
  exact List.reverse_injective htake

theorem key_hash {r r' : ResolutionRequest} {g g' : Int} (h : key r g = key r' g') : r.cacheHash = r'.cacheHash := by
  have hlist := congrArg String.toList h
  unfold key at hlist
  simp only [String.toList_append, List.append_assoc] at hlist
  apply String.toList_injective
  have hsep : ":".toList = [':'] := rfl
  rw [hsep] at hlist
  simp only [List.singleton_append, ← List.append_assoc] at hlist
  exact after_separator hlist (hexdigest_colon _) (hexdigest_colon _)

end Middleware.Endpoint
