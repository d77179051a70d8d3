/-
When the resolver still answers while the repository is unavailable. The first lookup of a call drops an entry that is
expired, and the lookup that may serve it stale comes after it; so the stale grace is never used, and an endpoint that Redis
did not take is not cached at all.
-/
import Middleware.Endpoint.Freshness

namespace Middleware.Endpoint

open Lib

variable {ι : Type} [DecidableEq ι]

/-- What a process obtained last for a request, from the repository or from Redis, and whether Redis took or gave it. -/
structure Resolution where
  endpoint : ResolvedEndpoint
  time : ℚ
  cached : Bool

/-- What a call obtains that the first cache does not answer. -/
def Call.obtained (cfg : Config) (generation : ι → Int) (c : Call ι) (w : World ι) : Option Resolution :=
  match (get (w.caches c.process) c.request c.now false).1 with
  | some _ => none
  | none =>
    match c.repository with
    | .candidates (endpoint :: _) => some ⟨endpoint, c.now, c.redisUp⟩
    | .unavailable =>
      match getL2 cfg (w.caches c.process) c.request c.now c.redisUp (generation c.process) with
      | .ok (some endpoint) => some ⟨endpoint, c.now, true⟩
      | _ => none
    | _ => none

def Call.evicted (cfg : Config) (generation : ι → Int) (c : Call ι) (w : World ι) : List String :=
  match c.obtained cfg generation w with
  | some ⟨endpoint, _, true⟩ =>
    (grown cfg (dropped (w.caches c.process) c.request) c.request c.now endpoint).lost cfg.maxEntries
  | _ => []

/-- The caches, with the last resolution of each process under each key that was not evicted since. -/
structure Traced (ι : Type) where
  world : World ι := {}
  resolved : ι → String → Option Resolution := fun _ _ => none

def trace (cfg : Config) (generation : ι → Int) (act : Act ι) (s : Traced ι) : Traced ι :=
  { world := step cfg generation act s.world
    resolved := fun p h =>
      match act with
      | .lose _ => s.resolved p h
      | .call c =>
        if p ≠ c.process then s.resolved p h
        else if h ∈ c.evicted cfg generation s.world then none
        else if h = c.request.cacheHash then (c.obtained cfg generation s.world).or (s.resolved p h)
        else s.resolved p h }

/-- The traced state after the actions of a run. -/
abbrev traced (cfg : Config) (generation : ι → Int) (acts : List (Act ι)) : Traced ι :=
  runFrom (trace cfg generation) {} acts

/-- A call that reads, with an unavailable repository and nothing from Redis, of an endpoint that may be served stale and
that its process resolved within the lifetime and the grace. -/
structure Stranded (cfg : Config) (generation : ι → Int) (s : Traced ι) (c : Call ι) (r : Resolution) : Prop where
  reads : c.request.mutation = false
  unavailable : c.repository = .unavailable
  empty : c.redisUp = false ∨
    redisGet (s.world.caches c.process) c.now (key c.request (generation c.process)) = none
  resolved : s.resolved c.process c.request.cacheHash = some r
  safe : r.endpoint.staleReadSafe = true
  recent : c.now ≤ r.time + (cfg.l1TtlSeconds + cfg.staleGraceSeconds)

/-- What a run of the resolver should keep. -/
structure Resolving (cfg : Config) (generation : ι → Int) (acts : List (Act ι)) : Prop where
  bounded : ∀ (before : List (Act ι)) c (rest : List (Act ι)) endpoint, acts = before ++ Act.call c :: rest →
    (c.resolve cfg generation (after cfg generation before)).1 = .ok endpoint →
    ∃ t, Returned cfg generation (before ++ [Act.call c]) c.request endpoint t ∧
      (c.now ≤ t + (cfg.l1TtlSeconds + cfg.l2TtlSeconds) ∨
        c.request.mutation = false ∧ endpoint.staleReadSafe = true ∧ c.repository = .unavailable ∧
          c.now ≤ t + (cfg.l1TtlSeconds + cfg.l2TtlSeconds) + cfg.staleGraceSeconds)
  available : ∀ (before : List (Act ι)) c (rest : List (Act ι)) r, acts = before ++ Act.call c :: rest →
    Stranded cfg generation (traced cfg generation before) c r →
    (c.resolve cfg generation (after cfg generation before)).1 = .ok r.endpoint

/-- A stranded call comes within the lifetime of a resolution that Redis took. -/
def Timely (cfg : Config) (generation : ι → Int) (s : Traced ι) : Act ι → Prop
  | .lose _ => True
  | .call c => ∀ r, Stranded cfg generation s c r → r.cached = true ∧ c.now ≤ r.time + cfg.l1TtlSeconds

/-- The clock of a run does not go back. -/
def Monotonic (acts : List (Act ι)) : Prop :=
  acts.Pairwise fun a a' => ∀ c c', a = .call c → a' = .call c' → c.now ≤ c'.now

/-! ## What the first cache holds -/

/-- The entries of the first caches and the resolutions of the processes. -/
structure Tracked (cfg : Config) (acts : List (Act ι)) (s : Traced ι) : Prop where
  entry : ∀ p h entry, (s.world.l1 p).get h = some entry → ∃ r, s.resolved p h = some r ∧ r.cached = true ∧
    r.endpoint = entry.endpoint ∧ entry.expiresMonotonic = r.time + cfg.l1TtlSeconds
  cached : ∀ p h r, s.resolved p h = some r → r.cached = true →
    (∃ entry, (s.world.l1 p).get h = some entry) ∨ ∃ c, .call c ∈ acts ∧ r.time + cfg.l1TtlSeconds < c.now

section Tracked

variable {cfg : Config} {generation : ι → Int} {acts : List (Act ι)} {act : Act ι} {c : Call ι} {s : Traced ι} {r : Resolution}

theorem traced_concat (cfg : Config) (generation : ι → Int) (acts : List (Act ι)) (act : Act ι) :
    traced cfg generation (acts ++ [act]) = trace cfg generation act (traced cfg generation acts) := runFrom_concat

theorem traced_world (cfg : Config) (generation : ι → Int) (acts : List (Act ι)) :
    (traced cfg generation acts).world = after cfg generation acts := by
  induction acts using List.reverseRecOn with
  | nil => rfl
  | append_singleton acts act ih =>
    rw [traced_concat, after_concat, ← ih]
    rfl

theorem trace_other {p : ι} (hp : p ≠ c.process) (h : String) :
    (trace cfg generation (.call c) s).resolved p h = s.resolved p h := if_pos hp

theorem trace_own (h : String) : (trace cfg generation (.call c) s).resolved c.process h =
    if h ∈ c.evicted cfg generation s.world then none
    else if h = c.request.cacheHash then (c.obtained cfg generation s.world).or (s.resolved c.process h)
    else s.resolved c.process h := if_neg (not_not.2 rfl)

omit [DecidableEq ι] in
theorem evicted_cached {w : World ι} {endpoint : ResolvedEndpoint} {t : ℚ}
    (h : c.obtained cfg generation w = some ⟨endpoint, t, true⟩) : c.evicted cfg generation w =
      (grown cfg (dropped (w.caches c.process) c.request) c.request c.now endpoint).lost cfg.maxEntries := by
  unfold Call.evicted
  rw [h]

omit [DecidableEq ι] in
theorem evicted_uncached {w : World ι} {endpoint : ResolvedEndpoint} {t : ℚ}
    (h : c.obtained cfg generation w = some ⟨endpoint, t, false⟩) : c.evicted cfg generation w = [] := by
  unfold Call.evicted
  rw [h]

theorem trace_nothing (hnone : c.obtained cfg generation s.world = none) (h : String) :
    (trace cfg generation (.call c) s).resolved c.process h = s.resolved c.process h := by
  have hevicted : c.evicted cfg generation s.world = [] := by
    unfold Call.evicted
    rw [hnone]
  rw [trace_own, hevicted, hnone, if_neg (List.not_mem_nil)]
  split <;> rfl

theorem get_missed {caches : Caches} {request : ResolutionRequest} {now : ℚ} (h : Missed caches.l1 request now) :
    (get caches request now false).1 = none := by
  rcases get_cases caches request now with ⟨entry, hfresh, -⟩ | ⟨-, hget⟩
  · exact absurd hfresh.2 (not_le.2 (h entry hfresh.1))
  · rw [hget]

theorem get_fresh {caches : Caches} {request : ResolutionRequest} {now : ℚ} {entry : L1Entry}
    (h : Fresh caches.l1 request now entry) : (get caches request now false).1 = some entry.endpoint := by
  rcases get_cases caches request now with ⟨entry', hfresh, hget⟩ | ⟨hmissed, -⟩
  · rw [hget]
    have heq := hfresh.1.symm.trans h.1
    rw [Option.some.inj heq]
  · exact absurd h.2 (not_le.2 (hmissed entry h.1))

omit [DecidableEq ι] in
theorem obtained_cases (cfg : Config) (generation : ι → Int) (c : Call ι) (w : World ι) :
    (c.obtained cfg generation w = none ∧ ((∃ entry, Fresh (w.l1 c.process) c.request c.now entry ∧
        (c.resolve cfg generation w).1 = .ok entry.endpoint ∧
        (c.resolve cfg generation w).2.l1 = (w.l1 c.process).moveToEnd c.request.cacheHash) ∨
      Missed (w.l1 c.process) c.request c.now ∧ (∃ e, (c.resolve cfg generation w).1 = .error e) ∧
        (c.resolve cfg generation w).2.l1 = (w.l1 c.process).pop c.request.cacheHash)) ∨
    Missed (w.l1 c.process) c.request c.now ∧ ∃ endpoint cached,
      c.obtained cfg generation w = some ⟨endpoint, c.now, cached⟩ ∧
      (c.resolve cfg generation w).2.l1 = if cached then
        (grown cfg (dropped (w.caches c.process) c.request) c.request c.now endpoint).keepLast cfg.maxEntries
        else (w.l1 c.process).pop c.request.cacheHash := by
  have hresolves := c.resolves cfg generation w
  unfold Call.obtained
  generalize c.resolve cfg generation w = x at hresolves ⊢
  generalize c.repository = repository at hresolves ⊢
  generalize c.redisUp = redisUp at hresolves ⊢
  cases hresolves with
  | hit _ _ entry fresh =>
    refine .inl ⟨?_, .inl ⟨entry, fresh, rfl, rfl⟩⟩
    rw [get_fresh fresh]
  | refused _ _ e missed unanswered unread =>
    refine .inl ⟨?_, .inr ⟨missed, ⟨e, rfl⟩, rfl⟩⟩
    rw [get_missed missed]
    dsimp only
    split
    · rename_i endpoint rest
      exact absurd rfl (unanswered endpoint rest)
    · split
      · rename_i endpoint hfound
        exact absurd hfound (unread rfl endpoint)
      · rfl
    · rfl
  | stored endpoint rest missed =>
    refine .inr ⟨missed, endpoint, true, ?_, rfl⟩
    rw [get_missed missed]
  | unstored endpoint rest missed =>
    refine .inr ⟨missed, endpoint, false, ?_, rfl⟩
    rw [get_missed missed]
  | refilled endpoint missed found =>
    refine .inr ⟨missed, endpoint, true, ?_, rfl⟩
    rw [get_missed missed]
    rw [found]

omit [DecidableEq ι] in
theorem Tracked.later (h : Tracked cfg acts s) (act : Act ι) : Tracked cfg (acts ++ [act]) s := by
  refine ⟨h.entry, fun p k r hr hcached => ?_⟩
  rcases h.cached p k r hr hcached with hentry | ⟨c, hc, htime⟩
  · exact .inl hentry
  · exact .inr ⟨c, List.mem_append_left _ hc, htime⟩

omit [DecidableEq ι] in
/-- The resolution under an expired entry is past its lifetime. -/
theorem Tracked.expired (h : Tracked cfg acts s) (hmissed : Missed (s.world.l1 c.process) c.request c.now)
    (hr : s.resolved c.process c.request.cacheHash = some r) (hcached : r.cached = true) :
    r.time + cfg.l1TtlSeconds < c.now ∨ ∃ c, .call c ∈ acts ∧ r.time + cfg.l1TtlSeconds < c.now := by
  rcases h.cached _ _ r hr hcached with ⟨entry, hentry⟩ | hlate
  · obtain ⟨r', hr', -, -, hexpires⟩ := h.entry _ _ entry hentry
    rw [hr] at hr'
    cases hr'
    rw [← hexpires]
    exact .inl (hmissed entry hentry)
  · exact .inr hlate

theorem tracked_step (h : Tracked cfg acts s) (hdistinct : Distinct s.world) (act : Act ι) :
    Tracked cfg (acts ++ [act]) (trace cfg generation act s) := by
  have hlater := h.later act
  cases act with
  | lose key => exact ⟨hlater.entry, hlater.cached⟩
  | call c =>
    have hmem : Act.call c ∈ acts ++ [Act.call c] := by simp
    have hown : (s.world.caches c.process).l1.keys.Nodup := hdistinct c.process
    have hnodup : ∀ endpoint,
        (grown cfg (dropped (s.world.caches c.process) c.request) c.request c.now endpoint).keys.Nodup :=
      fun endpoint => grown_nodup (dropped_nodup hown c.request) _ _ _
    -- a resolution that stays under a key that the call does not ask for, or obtains nothing for
    have hpopped : ∀ {k : String} {r : Resolution}, Missed (s.world.l1 c.process) c.request c.now →
        s.resolved c.process k = some r → r.cached = true →
        (∃ entry, ((s.world.l1 c.process).pop c.request.cacheHash).get k = some entry) ∨
          ∃ c', .call c' ∈ acts ++ [Act.call c] ∧ r.time + cfg.l1TtlSeconds < c'.now := by
      intro k r hmissed hr hcached
      by_cases hk : k = c.request.cacheHash
      · subst hk
        rcases h.expired hmissed hr hcached with htime | ⟨c', hc', htime⟩
        · exact .inr ⟨c, hmem, htime⟩
        · exact .inr ⟨c', List.mem_append_left _ hc', htime⟩
      · rw [OrderedDict.get_pop, if_neg hk]
        exact hlater.cached _ _ r hr hcached
    refine ⟨fun p k entry hget => ?_, fun p k r hr hcached => ?_⟩
    · change ((step cfg generation (.call c) s.world).l1 p).get k = some entry at hget
      rw [step_l1] at hget
      split at hget
      · rename_i hp
        subst hp
        rcases obtained_cases cfg generation c s.world with
          ⟨hnone, ⟨fresh, -, -, hl1⟩ | ⟨-, -, hl1⟩⟩ | ⟨hmissed, endpoint, cached, hobtained, hl1⟩
        · rw [hl1, OrderedDict.get_moveToEnd] at hget
          rw [trace_nothing hnone]
          exact hlater.entry _ _ entry hget
        · rw [hl1, OrderedDict.get_pop] at hget
          rw [trace_nothing hnone]
          split at hget
          · cases hget
          · exact hlater.entry _ _ entry hget
        · rw [trace_own]
          cases cached with
          | false =>
            rw [hl1, if_neg (by simp), OrderedDict.get_pop] at hget
            rw [evicted_uncached hobtained, if_neg List.not_mem_nil]
            split at hget
            · cases hget
            · rename_i hk
              rw [if_neg hk]
              exact hlater.entry _ _ entry hget
          | true =>
            rw [hl1, if_pos rfl, OrderedDict.get_keepLast (hnodup endpoint)] at hget
            rw [evicted_cached hobtained]
            split at hget
            · cases hget
            · rename_i hkept
              rw [if_neg hkept]
              rw [grown_get] at hget
              split at hget
              · rename_i hk
                cases hget
                rw [if_pos hk, hobtained]
                exact ⟨_, rfl, rfl, rfl, rfl⟩
              · rename_i hk
                rw [if_neg hk]
                change ((s.world.l1 c.process).pop c.request.cacheHash).get k = some entry at hget
                rw [OrderedDict.get_pop, if_neg hk] at hget
                exact hlater.entry _ _ entry hget
      · rename_i hp
        rw [trace_other hp]
        exact hlater.entry p k entry hget
    · show (∃ entry, ((step cfg generation (.call c) s.world).l1 p).get k = some entry) ∨ _
      rw [step_l1]
      by_cases hp : p = c.process
      · subst hp
        rw [if_pos rfl]
        rcases obtained_cases cfg generation c s.world with
          ⟨hnone, ⟨fresh, -, -, hl1⟩ | ⟨hmissed, -, hl1⟩⟩ | ⟨hmissed, endpoint, cached, hobtained, hl1⟩
        · rw [trace_nothing hnone] at hr
          rw [hl1, OrderedDict.get_moveToEnd]
          exact hlater.cached _ _ r hr hcached
        · rw [trace_nothing hnone] at hr
          rw [hl1]
          exact hpopped hmissed hr hcached
        · rw [trace_own] at hr
          split at hr
          · cases hr
          rename_i hkept
          cases cached with
          | false =>
            rw [hl1, if_neg (by simp)]
            split at hr
            · rw [hobtained] at hr
              cases hr
              cases hcached
            · exact hpopped hmissed hr hcached
          | true =>
            rw [evicted_cached hobtained] at hkept
            rw [hl1, if_pos rfl, OrderedDict.get_keepLast (hnodup endpoint), if_neg hkept, grown_get]
            split
            · exact .inl ⟨_, rfl⟩
            · rename_i hk
              rw [if_neg hk] at hr
              exact hpopped hmissed hr hcached
      · rw [if_neg hp]
        rw [trace_other hp] at hr
        exact hlater.cached p k r hr hcached

theorem tracked (cfg : Config) (generation : ι → Int) (acts : List (Act ι)) :
    Tracked cfg acts (traced cfg generation acts) := by
  induction acts using List.reverseRecOn with
  | nil => exact ⟨fun _ _ _ h => (by cases h), fun _ _ _ h => (by cases h)⟩
  | append_singleton acts act ih =>
    rw [traced_concat]
    refine tracked_step ih ?_ act
    rw [traced_world]
    exact distinct cfg generation acts

/-- A stranded call is answered exactly within the lifetime of a resolution that Redis took. -/
theorem answered_iff {rest : List (Act ι)} (hclock : Monotonic (acts ++ Act.call c :: rest))
    (h : Stranded cfg generation (traced cfg generation acts) c r) :
    (c.resolve cfg generation (after cfg generation acts)).1 = .ok r.endpoint ↔
      r.cached = true ∧ c.now ≤ r.time + cfg.l1TtlSeconds := by
  have htracked := tracked cfg generation acts
  have hempty : ∀ endpoint, getL2 cfg ((after cfg generation acts).caches c.process) c.request c.now c.redisUp
      (generation c.process) ≠ .ok (some endpoint) := by
    intro endpoint hfound
    rcases h.empty with hdown | hnone
    · rw [hdown] at hfound
      cases hfound
    · rw [traced_world] at hnone
      cases hup : c.redisUp with
      | false =>
        rw [hup] at hfound
        cases hfound
      | true =>
        rw [hup, getL2_empty hnone] at hfound
        cases hfound
  have hlast : ∀ c', .call c' ∈ acts → c'.now ≤ c.now := fun c' hc' =>
    (List.pairwise_append.1 hclock).2.2 _ hc' _ List.mem_cons_self c' c rfl rfl
  rcases obtained_cases cfg generation c (after cfg generation acts) with
    ⟨-, ⟨entry, hfresh, hreply, -⟩ | ⟨hmissed, ⟨e, hreply⟩, -⟩⟩ | ⟨hmissed, endpoint, cached, hobtained, -⟩
  · have hfound := hfresh.1
    rw [← traced_world] at hfound
    obtain ⟨r', hr', hcached, hendpoint, hexpires⟩ := htracked.entry _ _ entry hfound
    rw [h.resolved] at hr'
    cases hr'
    rw [hreply, hendpoint, ← hexpires]
    exact ⟨fun _ => ⟨hcached, hfresh.2⟩, fun _ => rfl⟩
  · rw [hreply]
    constructor
    · intro heq
      cases heq
    · rintro ⟨hcached, htime⟩
      rw [← traced_world] at hmissed
      rcases htracked.expired hmissed h.resolved hcached with hlate | ⟨c', hc', hlate⟩
      · exact absurd htime (not_le.2 hlate)
      · exact absurd (htime.trans_lt' (hlate.trans_le (hlast c' hc'))) (lt_irrefl _)
  · -- with nothing from Redis, an unavailable repository gives nothing
    unfold Call.obtained at hobtained
    rw [get_missed hmissed, h.unavailable] at hobtained
    dsimp only at hobtained
    split at hobtained
    · rename_i endpoint' hfound
      exact absurd hfound (hempty endpoint')
    · cases hobtained

end Tracked

def sampleConfig : Config where
  sign := fun payload => payload

def sampleRequest : ResolutionRequest where
  environment := "production"
  serviceKey := "n8n"
  endpointKey := "events.ingest"

def sampleEndpoint : ResolvedEndpoint where
  endpointId := "e"
  endpointVersionId := "v"
  serviceKey := "n8n"
  endpointKey := "events.ingest"
  apiVersion := "v1"
  method := "GET"
  baseUrl := "https://n8n.internal"
  path := "/events"
  authenticationProfile := "jwt"
  requiredAudience := "n8n"
  requiredScopes := ["events:read"]
  credentialReferenceId := "c"
  tlsProfileId := "t"
  timeoutMs := 1000
  connectionTimeoutMs := 500
  redirectsAllowed := false
  targetAttestationRequired := false
  staleReadSafe := true
  configurationVersion := 1
  configurationChecksum := "d"
  effectiveAt := "2026-01-01T00:00:00+00:00"
  expiresAt := none
  registryGeneration := 0

/-- A call at a time after the first one. -/
def sampleCall (now : ℚ) (repository : RepositoryReply) : Call Unit := ⟨(), sampleRequest, now, repository, true⟩

def sampleFirst : Call Unit := sampleCall 0 (.candidates [sampleEndpoint])

/-- An endpoint is resolved, and asked for again while the repository is unavailable. -/
def sampleRun (now : ℚ) : List (Act Unit) := [.call sampleFirst, .call (sampleCall now .unavailable)]

def sampleGeneration : Unit → Int := fun _ => 0

theorem sample_texts (now : ℚ) : Set.InjOn Sha256.hexdigest (texts (sampleRun now)) := by
  have hone : ∀ text ∈ texts (sampleRun now), text = sampleRequest.canonical := by
    rintro text ⟨c, hc, rfl⟩
    simp only [sampleRun, List.mem_cons, Act.call.injEq, List.not_mem_nil, or_false] at hc
    rcases hc with rfl | rfl <;> rfl
  intro x hx y hy _
  rw [hone x hx, hone y hy]

theorem sample_monotonic {now : ℚ} (h : 0 ≤ now) : Monotonic (sampleRun now) := by
  refine List.Pairwise.cons ?_ (List.pairwise_singleton _ _)
  rintro a ha c c' hc rfl
  simp only [List.mem_singleton, Act.call.injEq] at ha
  cases hc
  rw [ha]
  exact h

theorem first_kept (request : ResolutionRequest) :
    (grown sampleConfig (dropped (World.caches {} ()) request) request 0 sampleEndpoint).lost sampleConfig.maxEntries = [] := by
  simp [grown, dropped, World.caches, OrderedDict.pop, OrderedDict.set, OrderedDict.moveToEnd, OrderedDict.get, OrderedDict.lost,
    OrderedDict.keys, sampleConfig]

theorem redisGet_expired {k : String} {e : RedisEntry} {now : ℚ} {w : World Unit} (hw : w.redis = [(k, e)]) (hlate : e.expires < now) :
    redisGet (w.caches ()) now k = none := by
  unfold redisGet World.caches
  rw [hw]
  simp [OrderedDict.get, hlate]

theorem sample_resolved : (traced sampleConfig sampleGeneration [.call sampleFirst]).resolved () sampleRequest.cacheHash =
    some ⟨sampleEndpoint, 0, true⟩ := by
  have hobtained : sampleFirst.obtained sampleConfig sampleGeneration {} = some ⟨sampleEndpoint, 0, true⟩ := rfl
  have hevicted : sampleFirst.evicted sampleConfig sampleGeneration {} = [] := by
    rw [evicted_cached hobtained]
    exact first_kept sampleRequest
  show (trace sampleConfig sampleGeneration (.call sampleFirst) {}).resolved sampleFirst.process _ = _
  rw [trace_own, hevicted, hobtained, if_neg List.not_mem_nil]
  exact if_pos rfl

theorem sample_redis : (after sampleConfig sampleGeneration [.call sampleFirst]).redis =
    [(key sampleRequest 0, ⟨envelope sampleConfig sampleEndpoint, 0 + 60⟩)] := rfl

end Middleware.Endpoint
