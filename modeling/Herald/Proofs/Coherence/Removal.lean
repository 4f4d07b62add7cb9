import Herald.Proofs.Cache.Targets
import Herald.Proofs.Table

/-!
# Herald.Proofs.Coherence.Removal

Removals step by step.

* `Sharding`: how the entries of each tier are spread over shards. One shard is looked through at
  once, a tier shard after shard.
* `Purge`: the removal of one key, or of all keys with a property. Either begins by advancing the
  generation.
* `Sweep`: the purges of a cause, one after another; `Sweep.step`: one step of them.
* `Sweep.alone`: with nothing in between, the steps come to `Caches.drop`.
-/

namespace Herald

/-- How the entries of each tier are spread over shards. -/
structure Sharding where
  count : Nat
  shard : (t : Tier) → t.Key → Nat
  shard_lt : ∀ t k, shard t k < count

/-- All entries in one shard. -/
def Sharding.single : Sharding := ⟨1, fun _ _ => 0, fun _ _ => Nat.one_pos⟩

namespace Cache

variable {K V : Type}

def remove [DecidableEq K] (c : Cache K V) (k : K) : Cache K V :=
  { c with entries := c.entries.erase k }

def keys (c : Cache K V) (p : K → Bool) : List K := (c.entries.entries.map Prod.fst).filter p

end Cache

namespace Caches

/-- Begins the removal of entries of a tier. -/
def advance (c : Caches) (t : Tier) : Caches := c.withTier t (c.tier t).advance

def remove (c : Caches) (t : Tier) (k : t.Key) : Caches := c.withTier t ((c.tier t).remove k)

end Caches

/-- A removal in one tier. -/
inductive Purge where
  /-- The entry of one key, which need not be looked for. -/
  | one (t : Tier) (k : t.Key)
  | all (t : Tier) (p : t.Key → Bool)

def Purge.target : Purge → Target
  | one t k => ⟨t, (· = k)⟩
  | all t p => ⟨t, p⟩

/-- The purges for a write, in order. -/
def Change.purges (c : Change) : List Purge :=
  match c.scope with
  | .tenant tenant =>
    [.one .types ⟨tenant, c.channel⟩,
      .all .resolved fun k =>
        k.tenant = tenant && k.channel = c.channel && k.templateType = c.templateType]
  | .application tenant application =>
    [.one .apps ⟨tenant, application, c.channel⟩,
      .all .resolved fun k =>
        k.tenant = tenant && k.application = some application && k.channel = c.channel &&
          k.templateType = c.templateType]
  | .organization organization application =>
    [.all .orgs (· = ⟨organization, application, c.channel⟩),
      .all .resolved fun k => k.channel = c.channel && k.templateType = c.templateType]

/-- The purges of a cause, in order. -/
def Cause.purges : Cause → List Purge
  | .change c => c.purges
  | .tenant t =>
    [.all .types (·.tenant = t), .all .apps (·.tenant = t), .all .resolved (·.tenant = t)]
  | .all => [.all .types fun _ => true, .all .apps fun _ => true, .all .resolved fun _ => true,
      .all .orgs fun _ => true]

theorem purges_target (cause : Cause) : cause.purges.map Purge.target = cause.targets := by
  cases cause with
  | change c =>
    obtain ⟨scope, channel, templateType⟩ := c
    cases scope <;> rfl
  | tenant t => rfl
  | all => rfl

/-- A purge under way. -/
structure Removal where
  target : Target
  /-- The shards that are still to be looked through. -/
  shards : List Nat
  /-- The keys that are still to be removed. -/
  found : List target.tier.Key

/-- A purge that has advanced the generation. -/
def Purge.removal (sh : Sharding) : Purge → Removal
  | one t k => ⟨⟨t, (· = k)⟩, [], [k]⟩
  | all t p => ⟨⟨t, p⟩, List.range sh.count, []⟩

@[simp] theorem Purge.removal_target (sh : Sharding) (p : Purge) :
    (p.removal sh).target = p.target := by
  cases p <;> rfl

/-- The purges of a cause, as far as they are still to be done. -/
structure Sweep where
  cause : Cause
  /-- The moment of its beginning. -/
  begun : Nat
  current : Option Removal
  later : List Purge

namespace Sweep

variable (sh : Sharding)

def ofCause (cause : Cause) (begun : Nat) : Sweep := ⟨cause, begun, none, cause.purges⟩

def finished (σ : Sweep) : Bool :=
  σ.later.isEmpty && σ.current.all fun r => r.shards.isEmpty && r.found.isEmpty

/-- Turns to the next purge, if there is one. -/
def next (c : Caches) (σ : Sweep) : Caches × Sweep :=
  match σ.later with
  | [] => (c, σ)
  | p :: later => (c.advance p.target.tier, { σ with current := some (p.removal sh), later })

/-- One step: a shard is looked through, or a key is removed, or a generation is advanced. -/
def step (c : Caches) (σ : Sweep) : Caches × Sweep :=
  match σ.current with
  | none => σ.next sh c
  | some ⟨target, i :: shards, found⟩ =>
    let more := (c.tier target.tier).keys fun k => target.selects k && sh.shard target.tier k = i
    (c, { σ with current := some ⟨target, shards, found ++ more⟩ })
  | some ⟨target, [], k :: found⟩ =>
    (c.remove target.tier k, { σ with current := some ⟨target, [], found⟩ })
  | some ⟨_, [], []⟩ => σ.next sh c

end Sweep

/-! ## A sweep on its own -/

namespace Cache

variable {K V : Type} [DecidableEq K]

theorem foldl_remove (c : Cache K V) (ks : List K) :
    ks.foldl remove c = { c with entries := c.entries.keep fun k => k ∉ ks } := by
  induction ks generalizing c with
  | nil =>
    have he : c.entries.keep (fun k => k ∉ ([] : List K)) = c.entries :=
      Table.ext_entries (List.filter_eq_self.2 fun _ _ => by simp)
    rw [he]
    rfl
  | cons k ks ih =>
    have he : (c.remove k).entries.keep (fun l => l ∉ ks) =
        c.entries.keep fun l => l ∉ k :: ks := by
      refine Table.ext_entries ?_
      show List.filter _ (List.filter _ c.entries.entries) = List.filter _ c.entries.entries
      rw [List.filter_filter]
      refine List.filter_congr fun e _ => ?_
      simp [Bool.and_comm]
    rw [List.foldl_cons, ih, he]
    rfl

/-- Removing all keys with a property one by one is a sweep, but for the generation. -/
theorem foldl_remove_eq (c : Cache K V) (p : K → Bool) (ks : List K)
    (h : ∀ k v, (k, v) ∈ c.entries.entries → (k ∈ ks ↔ p k = true)) :
    ks.foldl remove c.advance = (c.sweep p).state := by
  have he : c.entries.keep (fun k => k ∉ ks) = c.entries.keep fun k => !p k := by
    refine Table.ext_entries (List.filter_congr fun e he => ?_)
    simp [h e.1 e.2 he]
  rw [foldl_remove]
  show { c.advance with entries := c.entries.keep fun k => k ∉ ks } = _
  rw [he]
  rfl

omit [DecidableEq K] in
theorem mem_keys {c : Cache K V} {p : K → Bool} {k : K} :
    k ∈ c.keys p ↔ (∃ v, (k, v) ∈ c.entries.entries) ∧ p k = true := by
  simp [keys]

end Cache

namespace Caches

@[simp] theorem withTier_withTier (c : Caches) (t : Tier) (x y : Cache t.Key t.Value) :
    (c.withTier t x).withTier t y = c.withTier t y := by
  cases t <;> rfl

theorem foldl_remove (c : Caches) (t : Tier) (x : Cache t.Key t.Value) (ks : List t.Key) :
    ks.foldl (fun c k => c.remove t k) (c.withTier t x) =
      c.withTier t (ks.foldl Cache.remove x) := by
  induction ks generalizing x with
  | nil => rfl
  | cons k ks ih =>
    rw [List.foldl_cons, List.foldl_cons, ← ih, remove, withTier_withTier, tier_withTier_self]

end Caches

namespace Sweep

variable (sh : Sharding)

/-- Some steps of a sweep, with nothing in between. -/
inductive Steps : Caches × Sweep → Caches × Sweep → Prop where
  | refl (x : Caches × Sweep) : Steps x x
  | cons {x y : Caches × Sweep} (h : Steps (x.2.step sh x.1) y) : Steps x y

variable {sh}

theorem Steps.trans {x y z : Caches × Sweep} (h : Steps sh x y) (h' : Steps sh y z) :
    Steps sh x z := by
  induction h with
  | refl => exact h'
  | cons h ih => exact .cons (ih h')

variable {cause : Cause} {begun : Nat} {later : List Purge}

theorem steps_gather (c : Caches) (target : Target) (shards : List Nat)
    (found : List target.tier.Key) :
    Steps sh (c, ⟨cause, begun, some ⟨target, shards, found⟩, later⟩)
      (c, ⟨cause, begun, some ⟨target, [], found ++ shards.flatMap fun i =>
        (c.tier target.tier).keys fun k => target.selects k && sh.shard target.tier k = i⟩,
        later⟩) := by
  induction shards generalizing found with
  | nil =>
    rw [List.flatMap_nil, List.append_nil]
    exact .refl _
  | cons i shards ih =>
    rw [List.flatMap_cons, ← List.append_assoc]
    exact .cons (ih _)

theorem steps_remove (c : Caches) (target : Target) (found : List target.tier.Key) :
    Steps sh (c, ⟨cause, begun, some ⟨target, [], found⟩, later⟩)
      (found.foldl (fun c k => c.remove target.tier k) c,
        ⟨cause, begun, some ⟨target, [], []⟩, later⟩) := by
  induction found generalizing c with
  | nil => exact .refl _
  | cons k found ih => exact .cons (ih _)

theorem steps_purge (c : Caches) (p : Purge) :
    Steps sh (c.advance p.target.tier, ⟨cause, begun, some (p.removal sh), later⟩)
      ((c.onTier p.target.tier (·.sweep p.target.selects)).state,
        ⟨cause, begun, some ⟨p.target, [], []⟩, later⟩) := by
  cases p with
  | one t k =>
    have hs := (c.tier t).foldl_remove_eq (· = k) [k] (by simp)
    have hr := c.foldl_remove t (c.tier t).advance [k]
    rw [hs] at hr
    have h := @steps_remove sh cause begun later (c.advance t) ⟨t, (· = k)⟩ [k]
    rw [show [k].foldl (fun c k => c.remove t k) (c.advance t) = _ from hr] at h
    exact h
  | all t p =>
    have hm (k : t.Key) (v : Cache.Entry t.Value) (hk : (k, v) ∈ (c.tier t).entries.entries) :
        (k ∈ (List.range sh.count).flatMap fun i =>
          ((c.advance t).tier t).keys fun k => p k && sh.shard t k = i) ↔ p k = true := by
      have hk : ∃ v, (k, v) ∈ ((c.advance t).tier t).entries.entries :=
        ⟨v, by rw [Caches.advance, Caches.tier_withTier_self]; exact hk⟩
      simp [Cache.mem_keys, hk, sh.shard_lt]
    have hs := (c.tier t).foldl_remove_eq p _ hm
    have hr := c.foldl_remove t (c.tier t).advance ((List.range sh.count).flatMap fun i =>
      ((c.advance t).tier t).keys fun k => p k && sh.shard t k = i)
    rw [hs] at hr
    have h := @steps_remove sh cause begun later (c.advance t) ⟨t, p⟩
      ((List.range sh.count).flatMap fun i =>
        ((c.advance t).tier t).keys fun k => p k && sh.shard t k = i)
    rw [show List.foldl (fun c k => c.remove t k) (c.advance t) _ = _ from hr] at h
    exact (steps_gather (c.advance t) ⟨t, p⟩ _ []).trans h

theorem steps_purges (c : Caches) (target : Target) (later : List Purge) :
    ∃ target', Steps sh (c, ⟨cause, begun, some ⟨target, [], []⟩, later⟩)
      ((c.sweep (later.map Purge.target)).state, ⟨cause, begun, some ⟨target', [], []⟩, []⟩) := by
  induction later generalizing c target with
  | nil => exact ⟨target, .refl _⟩
  | cons p later ih =>
    obtain ⟨target', h⟩ := ih (c.onTier p.target.tier (·.sweep p.target.selects)).state p.target
    exact ⟨target', .cons ((steps_purge c p).trans h)⟩

/-- With nothing in between, the steps of a removal come to what `Caches.drop` does. -/
theorem alone (c : Caches) (cause : Cause) (begun : Nat) :
    ∃ σ, σ.finished = true ∧ Steps sh (c, ofCause cause begun) ((c.drop cause).state, σ) := by
  rw [Caches.drop_state, ← purges_target]
  have h : cause.purges ≠ [] := by
    intro h
    have ht := congrArg (List.map Purge.target) h
    rw [purges_target] at ht
    cases cause with
    | change c => obtain ⟨scope, channel, templateType⟩ := c; cases scope <;> cases ht
    | tenant t => cases ht
    | all => cases ht
  unfold ofCause
  cases hp : cause.purges with
  | nil => exact absurd hp h
  | cons p later =>
    obtain ⟨target', hs⟩ := @steps_purges sh cause begun
      (c.onTier p.target.tier (·.sweep p.target.selects)).state p.target later
    exact ⟨_, rfl, .cons ((steps_purge c p).trans hs)⟩

end Sweep

end Herald
