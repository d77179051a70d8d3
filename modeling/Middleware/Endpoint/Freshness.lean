/-
How old an answer of the resolver can be: whatever the caches answer came from the repository at most the two lifetimes
ago, over every run of several processes.
-/
import Middleware.Endpoint.Effects

namespace Middleware.Endpoint

open Lib

variable {ι : Type} [DecidableEq ι]

/-- The state after the actions of a run. -/
abbrev after (cfg : Config) (generation : ι → Int) (acts : List (Act ι)) : World ι := runFrom (step cfg generation) {} acts

/-- The repository returned an endpoint for a request, in a call that the first cache did not answer. -/
def Returned (cfg : Config) (generation : ι → Int) (acts : List (Act ι)) (request : ResolutionRequest)
    (endpoint : ResolvedEndpoint) (t : ℚ) : Prop :=
  ∃ before : List (Act ι), ∃ c candidates, ∃ rest : List (Act ι),
    acts = before ++ Act.call c :: rest ∧ c.request = request ∧ c.now = t ∧
    c.repository = .candidates (endpoint :: candidates) ∧ Missed ((after cfg generation before).l1 c.process) request t

/-- The texts that the calls of a run hash. -/
def texts (acts : List (Act ι)) : Set String := {text | ∃ c, .call c ∈ acts ∧ text = c.request.canonical}

/-- Where the entries of the caches come from. -/
structure Dated (cfg : Config) (generation : ι → Int) (acts : List (Act ι)) (w : World ι) : Prop where
  l1 : ∀ p h entry, (w.l1 p).get h = some entry → ∃ request t, request.cacheHash = h ∧
    Returned cfg generation acts request entry.endpoint t ∧
    entry.expiresMonotonic ≤ t + (cfg.l1TtlSeconds + cfg.l2TtlSeconds)
  redis : ∀ k entry, w.redis.get k = some entry → ∃ request g endpoint t, key request g = k ∧
    Returned cfg generation acts request endpoint t ∧ entry.envelope = envelope cfg endpoint ∧
    entry.expires = t + cfg.l2TtlSeconds

section Dated

variable {cfg : Config} {generation : ι → Int} {acts before : List (Act ι)} {act : Act ι} {c : Call ι}
  {request : ResolutionRequest} {endpoint : ResolvedEndpoint} {t : ℚ} {w : World ι}

theorem after_concat (cfg : Config) (generation : ι → Int) (acts : List (Act ι)) (act : Act ι) :
    after cfg generation (acts ++ [act]) = step cfg generation act (after cfg generation acts) := runFrom_concat

theorem Returned.later (h : Returned cfg generation acts request endpoint t) (more : List (Act ι)) :
    Returned cfg generation (acts ++ more) request endpoint t := by
  obtain ⟨before, c, candidates, rest, rfl, hrequest, hnow, hrepository, hmissed⟩ := h
  exact ⟨before, c, candidates, rest ++ more, by simp, hrequest, hnow, hrepository, hmissed⟩

theorem Returned.mem (h : Returned cfg generation acts request endpoint t) : request.canonical ∈ texts acts := by
  obtain ⟨before, c, candidates, rest, rfl, rfl, -⟩ := h
  exact ⟨c, by simp, rfl⟩

theorem Dated.later (h : Dated cfg generation acts w) (more : List (Act ι)) : Dated cfg generation (acts ++ more) w := by
  refine ⟨fun p k entry hget => ?_, fun k entry hget => ?_⟩
  · obtain ⟨request, t, hhash, hreturned, hexpires⟩ := h.l1 p k entry hget
    exact ⟨request, t, hhash, hreturned.later more, hexpires⟩
  · obtain ⟨request, g, endpoint, t, hkey, hreturned, henvelope, hexpires⟩ := h.redis k entry hget
    exact ⟨request, g, endpoint, t, hkey, hreturned.later more, henvelope, hexpires⟩

omit [DecidableEq ι] in
theorem request_eq {r r' : ResolutionRequest} (hfree : Set.InjOn Sha256.hexdigest (texts acts)) (hr : r.canonical ∈ texts acts)
    (hr' : r'.canonical ∈ texts acts) (h : r.cacheHash = r'.cacheHash) : r = r' :=
  canonical_inj (hfree hr hr' h)

theorem grown_get (cfg : Config) (c : Caches) (request : ResolutionRequest) (now : ℚ) (endpoint : ResolvedEndpoint) (h : String) :
    (grown cfg c request now endpoint).get h = if h = request.cacheHash then some
      { endpoint := endpoint
        expiresMonotonic := now + cfg.l1TtlSeconds
        staleUntilMonotonic := now + cfg.l1TtlSeconds + cfg.staleGraceSeconds } else c.l1.get h := by
  unfold grown
  rw [OrderedDict.get_moveToEnd, OrderedDict.get_set]

theorem keepLast_some {V : Type} {d : OrderedDict String V} {n : Nat} {k : String} {v : V} (h : d.keys.Nodup)
    (hget : (d.keepLast n).get k = some v) : d.get k = some v := by
  rw [OrderedDict.get_keepLast h] at hget
  split at hget
  · cases hget
  · exact hget

/-- The first caches never hold a key twice. -/
def Distinct (w : World ι) : Prop := ∀ p, (w.l1 p).keys.Nodup

theorem dropped_nodup {c : Caches} (h : c.l1.keys.Nodup) (request : ResolutionRequest) : (dropped c request).l1.keys.Nodup :=
  OrderedDict.nodup_keys_pop h _

theorem grown_nodup {c : Caches} (h : c.l1.keys.Nodup) (request : ResolutionRequest) (now : ℚ) (endpoint : ResolvedEndpoint) :
    (grown cfg c request now endpoint).keys.Nodup := OrderedDict.nodup_keys_moveToEnd (OrderedDict.nodup_keys_set h) _

omit [DecidableEq ι] in
theorem Call.resolves (cfg : Config) (generation : ι → Int) (c : Call ι) (w : World ι) :
    Resolves cfg (w.caches c.process) c.request c.now (generation c.process) c.repository c.redisUp
      (c.resolve cfg generation w) := resolve_resolves _ _ _ _ _ _ _

theorem step_l1 (cfg : Config) (generation : ι → Int) (c : Call ι) (w : World ι) (p : ι) :
    (step cfg generation (.call c) w).l1 p =
      if p = c.process then (c.resolve cfg generation w).2.l1 else w.l1 p := by
  show Function.update w.l1 c.process _ p = _
  by_cases h : p = c.process
  · subst h
    rw [Function.update_self, if_pos rfl]
  · rw [Function.update_of_ne h, if_neg h]

theorem step_redis (cfg : Config) (generation : ι → Int) (c : Call ι) (w : World ι) :
    (step cfg generation (.call c) w).redis = (c.resolve cfg generation w).2.redis := rfl

theorem distinct_step (h : Distinct w) (act : Act ι) : Distinct (step cfg generation act w) := by
  cases act with
  | lose key => exact h
  | call c =>
    intro p
    rw [step_l1]
    split
    · have hnodup : (w.caches c.process).l1.keys.Nodup := h c.process
      have hresolves := c.resolves cfg generation w
      generalize c.resolve cfg generation w = x at hresolves
      generalize c.repository = repository at hresolves
      generalize c.redisUp = redisUp at hresolves
      cases hresolves with
      | hit => exact OrderedDict.nodup_keys_moveToEnd hnodup _
      | refused => exact dropped_nodup hnodup _
      | unstored => exact dropped_nodup hnodup _
      | stored endpoint => exact OrderedDict.nodup_keys_keepLast (grown_nodup (dropped_nodup hnodup c.request) _ _ _) _
      | refilled endpoint => exact OrderedDict.nodup_keys_keepLast (grown_nodup (dropped_nodup hnodup c.request) _ _ _) _
    · exact h p

theorem distinct (cfg : Config) (generation : ι → Int) (acts : List (Act ι)) : Distinct (after cfg generation acts) :=
  runFrom_invariant (I := Distinct) (fun _ => List.nodup_nil) fun _ act h => distinct_step h act

/-- What Redis gives a call came from the repository not longer ago than its lifetime. -/
theorem getL2_dated (hfree : Set.InjOn Sha256.hexdigest (texts acts)) (h : Dated cfg generation acts w)
    (hrequest : request.canonical ∈ texts acts) {c : Caches} (hredis : c.redis = w.redis) {now : ℚ} {g : Int}
    (hfound : getL2 cfg c request now true g = .ok (some endpoint)) :
    ∃ t, Returned cfg generation acts request endpoint t ∧ now ≤ t + cfg.l2TtlSeconds := by
  cases hread : redisGet c now (key request g) with
  | none =>
    rw [getL2_empty hread] at hfound
    cases hfound
  | some envelope =>
    have hentry : ∃ entry, w.redis.get (key request g) = some entry ∧ now ≤ entry.expires ∧ entry.envelope = envelope := by
      unfold redisGet at hread
      rw [hredis] at hread
      split at hread
      · rename_i entry hget
        split at hread
        · rename_i hnow
          exact ⟨entry, hget, hnow, Option.some.inj hread⟩
        · cases hread
      · cases hread
    obtain ⟨entry, hget, hnow, henvelope⟩ := hentry
    obtain ⟨request', g', endpoint', t, hkey, hreturned, hwritten, hexpires⟩ := h.redis _ entry hget
    have hsame := request_eq hfree hreturned.mem hrequest (key_hash hkey)
    subst hsame
    have hholds : Holds cfg c now request' g endpoint' := by
      unfold Holds
      rw [hread, ← henvelope, hwritten]
    rw [getL2_holds hholds] at hfound
    cases hfound
    exact ⟨t, hreturned, by rw [← hexpires]; exact hnow⟩

theorem dated_step (hfree : Set.InjOn Sha256.hexdigest (texts (acts ++ [act])))
    (h : Dated cfg generation acts (after cfg generation acts)) :
    Dated cfg generation (acts ++ [act]) (after cfg generation (acts ++ [act])) := by
  rw [after_concat]
  have hlater := h.later [act]
  have hdistinct := distinct cfg generation acts
  generalize hw : after cfg generation acts = w at h hlater hdistinct
  cases act with
  | lose key =>
    refine ⟨hlater.l1, fun k entry hget => hlater.redis k entry ?_⟩
    change (w.redis.pop key).get k = some entry at hget
    rw [OrderedDict.get_pop] at hget
    split at hget
    · cases hget
    · exact hget
  | call c =>
    have hnodup : (w.caches c.process).l1.keys.Nodup := hdistinct c.process
    have hrequest : c.request.canonical ∈ texts (acts ++ [Act.call c]) := ⟨c, by simp, rfl⟩
    have hresolves := c.resolves cfg generation w
    -- a first cache that is read as before, but for entries that are gone
    have hsub : ∀ {l1 : OrderedDict String L1Entry}, (∀ k entry, l1.get k = some entry → (w.l1 c.process).get k = some entry) →
        ∀ k entry, l1.get k = some entry → ∃ request t, request.cacheHash = k ∧
          Returned cfg generation (acts ++ [Act.call c]) request entry.endpoint t ∧
          entry.expiresMonotonic ≤ t + (cfg.l1TtlSeconds + cfg.l2TtlSeconds) :=
      fun hl1 k entry hget => hlater.l1 c.process k entry (hl1 k entry hget)
    have hpop : ∀ k entry, (dropped (w.caches c.process) c.request).l1.get k = some entry →
        (w.l1 c.process).get k = some entry := by
      intro k entry hget
      change ((w.l1 c.process).pop c.request.cacheHash).get k = some entry at hget
      rw [OrderedDict.get_pop] at hget
      split at hget
      · cases hget
      · exact hget
    -- and one that has an entry of an endpoint that the repository returned
    have hgrow : ∀ {endpoint : ResolvedEndpoint} {t : ℚ},
        Returned cfg generation (acts ++ [Act.call c]) c.request endpoint t → c.now ≤ t + cfg.l2TtlSeconds →
        ∀ k entry, ((grown cfg (dropped (w.caches c.process) c.request) c.request c.now endpoint).keepLast
          cfg.maxEntries).get k = some entry → ∃ request t, request.cacheHash = k ∧
          Returned cfg generation (acts ++ [Act.call c]) request entry.endpoint t ∧
          entry.expiresMonotonic ≤ t + (cfg.l1TtlSeconds + cfg.l2TtlSeconds) := by
      intro endpoint t hreturned hnow k entry hget
      have hget' := keepLast_some (grown_nodup (dropped_nodup hnodup c.request) _ _ _) hget
      rw [grown_get] at hget'
      split at hget'
      · rename_i hk
        cases hget'
        refine ⟨c.request, t, hk.symm, hreturned, ?_⟩
        linarith
      · exact hlater.l1 c.process k entry (hpop k entry hget')
    refine ⟨fun p k entry hget => ?_, fun k entry hget => ?_⟩
    · rw [step_l1] at hget
      split at hget
      · generalize hrepository : c.repository = repository at hresolves
        generalize c.redisUp = redisUp at hresolves
        generalize c.resolve cfg generation w = x at hresolves hget
        cases hresolves with
        | hit => exact hsub (fun k entry hget => by rwa [OrderedDict.get_moveToEnd] at hget) k entry hget
        | refused => exact hsub hpop k entry hget
        | unstored => exact hsub hpop k entry hget
        | stored endpoint rest missed =>
          have hreturned : Returned cfg generation (acts ++ [Act.call c]) c.request endpoint c.now :=
            ⟨acts, c, rest, [], rfl, rfl, rfl, hrepository, by rw [hw]; exact missed⟩
          exact hgrow hreturned (by simp) k entry hget
        | refilled endpoint missed found =>
          obtain ⟨t, hreturned, hnow⟩ := getL2_dated hfree hlater hrequest rfl found
          exact hgrow hreturned hnow k entry hget
      · exact hlater.l1 p k entry hget
    · rw [step_redis] at hget
      generalize hrepository : c.repository = repository at hresolves
      generalize c.redisUp = redisUp at hresolves
      generalize c.resolve cfg generation w = x at hresolves hget
      cases hresolves with
      | hit => exact hlater.redis k entry hget
      | refused => exact hlater.redis k entry hget
      | unstored => exact hlater.redis k entry hget
      | refilled => exact hlater.redis k entry hget
      | stored endpoint rest missed =>
        change (w.redis.set _ _).get k = some entry at hget
        rw [OrderedDict.get_set] at hget
        split at hget
        · rename_i hk
          cases hget
          exact ⟨c.request, _, endpoint, c.now, hk.symm,
            ⟨acts, c, rest, [], rfl, rfl, rfl, hrepository, by rw [hw]; exact missed⟩, rfl, rfl⟩
        · exact hlater.redis k entry hget

omit [DecidableEq ι] in
theorem texts_left {more : List (Act ι)} (hfree : Set.InjOn Sha256.hexdigest (texts (acts ++ more))) :
    Set.InjOn Sha256.hexdigest (texts acts) := by
  refine hfree.mono ?_
  rintro text ⟨c, hc, rfl⟩
  exact ⟨c, List.mem_append_left _ hc, rfl⟩

theorem dated (hfree : Set.InjOn Sha256.hexdigest (texts acts)) : Dated cfg generation acts (after cfg generation acts) := by
  induction acts using List.reverseRecOn with
  | nil => exact ⟨fun _ _ _ h => (by cases h), fun _ _ h => (by cases h)⟩
  | append_singleton before act ih => exact dated_step hfree (ih (texts_left hfree))

/-- What a call answers came from the repository for its request at most the two lifetimes ago. -/
theorem answer_dated (hfree : Set.InjOn Sha256.hexdigest (texts (acts ++ [Act.call c])))
    (h : (c.resolve cfg generation (after cfg generation acts)).1 = .ok endpoint) :
    ∃ t, Returned cfg generation (acts ++ [Act.call c]) c.request endpoint t ∧
      c.now ≤ t + (cfg.l1TtlSeconds + cfg.l2TtlSeconds) := by
  have hdated : Dated cfg generation acts (after cfg generation acts) := dated (texts_left hfree)
  have hlater := hdated.later [.call c]
  have hrequest : c.request.canonical ∈ texts (acts ++ [Act.call c]) := ⟨c, by simp, rfl⟩
  have hresolves := c.resolves cfg generation (after cfg generation acts)
  generalize hrepository : c.repository = repository at hresolves
  generalize c.redisUp = redisUp at hresolves
  generalize c.resolve cfg generation (after cfg generation acts) = x at hresolves h
  cases hresolves with
  | refused => cases h
  | hit _ _ entry fresh =>
    cases h
    obtain ⟨request, t, hhash, hreturned, hexpires⟩ := hlater.l1 c.process _ entry fresh.1
    have hsame := request_eq hfree hreturned.mem hrequest hhash
    rw [hsame] at hreturned
    exact ⟨t, hreturned, fresh.2.trans hexpires⟩
  | stored e rest missed =>
    cases h
    exact ⟨c.now, ⟨acts, c, rest, [], rfl, rfl, rfl, hrepository, missed⟩, by linarith⟩
  | unstored e rest missed =>
    cases h
    exact ⟨c.now, ⟨acts, c, rest, [], rfl, rfl, rfl, hrepository, missed⟩, by linarith⟩
  | refilled e missed found =>
    cases h
    obtain ⟨t, hreturned, hnow⟩ := getL2_dated hfree hlater hrequest rfl found
    exact ⟨t, hreturned, by linarith⟩

end Dated

end Middleware.Endpoint
