import Herald.Proofs.Cache.Targets
import Herald.Proofs.Observation.Tally
import Herald.Proofs.Table

/-!
# Herald.Proofs.Cache.Exact

What a removal takes away, entry by entry, and what it leaves alone.

* `Cause.Concerns`: the keys that go by a write, by a tenant, or by everything.
  `Cause.tiers`: the tiers in which they are looked for.
* `Cache.SameMake`: what of a cache no operation changes. `Cache.get_notes`, `fill_notes`,
  `tally_sweep`: what an operation lets be seen.
* `Caches.sweep_get?`, `sweep_generation`, `sweep_size`, `sweep_tally`: the entries, the clocks and
  the counts of a sweep, target by target.
* `drop_exact`: a removal takes the entries that it concerns and no others, tells how many there
  were, and advances each clock that it addresses once.
-/

namespace Herald

open Observation

inductive Cause.Concerns : Cause → (t : Tier) → t.Key → Prop where
  | ownTypes (tenant : String) (channel : Channel) (templateType : String) :
    Concerns (.change ⟨.tenant tenant, channel, templateType⟩) .types ⟨tenant, channel⟩
  /-- A tenant's own template comes before all others, for any application. -/
  | ownResolved (tenant : String) (channel : Channel) (templateType : String)
    (application : Option String) (locale : String) :
    Concerns (.change ⟨.tenant tenant, channel, templateType⟩) .resolved
      ⟨tenant, application, channel, templateType, locale⟩
  | appList (tenant application : String) (channel : Channel) (templateType : String) :
    Concerns (.change ⟨.application tenant application, channel, templateType⟩) .apps
      ⟨tenant, application, channel⟩
  | appResolved (tenant application : String) (channel : Channel) (templateType locale : String) :
    Concerns (.change ⟨.application tenant application, channel, templateType⟩) .resolved
      ⟨tenant, some application, channel, templateType, locale⟩
  | orgList (organization : String) (application : Option String) (channel : Channel)
    (templateType : String) :
    Concerns (.change ⟨.organization organization application, channel, templateType⟩) .orgs
      ⟨organization, application, channel⟩
  /-- Whose members the tenants are is not known. -/
  | orgResolved (organization : String) (application : Option String) (channel : Channel)
    (templateType tenant : String) (application' : Option String) (locale : String) :
    Concerns (.change ⟨.organization organization application, channel, templateType⟩) .resolved
      ⟨tenant, application', channel, templateType, locale⟩
  | tenantTypes (tenant : String) (channel : Channel) :
    Concerns (.tenant tenant) .types ⟨tenant, channel⟩
  | tenantApps (tenant application : String) (channel : Channel) :
    Concerns (.tenant tenant) .apps ⟨tenant, application, channel⟩
  | tenantResolved (tenant : String) (application : Option String) (channel : Channel)
    (templateType locale : String) :
    Concerns (.tenant tenant) .resolved ⟨tenant, application, channel, templateType, locale⟩
  | all (t : Tier) (k : t.Key) : Concerns .all t k

/-- The tiers that an occasion addresses. -/
def Cause.tiers : Cause → List Tier
  | .change ⟨.tenant _, _, _⟩ => [.types, .resolved]
  | .change ⟨.application _ _, _, _⟩ => [.apps, .resolved]
  | .change ⟨.organization _ _, _, _⟩ => [.orgs, .resolved]
  | .tenant _ => [.types, .apps, .resolved]
  | .all => Tier.all

theorem Cause.Concerns.covered {cause : Cause} {t : Tier} {k : t.Key} (h : cause.Concerns t k) :
    cause.targets.any (·.covers t k) = true := by
  cases h with
  | all t k => cases t <;> rfl
  | _ => simp [targets, Change.targets, Target.ofTenant, Target.covers, Target.types, Target.apps,
      Target.resolved, Target.orgs]

theorem Cause.concerns_of_covered {cause : Cause} {t : Tier} {k : t.Key}
    (h : cause.targets.any (·.covers t k) = true) : cause.Concerns t k := by
  cases cause with
  | change c =>
    obtain ⟨scope, channel, templateType⟩ := c
    -- the two tiers of the scope are left, each with what its target selects
    cases scope <;> cases t <;> simp [targets, Change.targets, Target.covers, Target.types,
      Target.apps, Target.resolved, Target.orgs] at h
    case tenant.types =>
      subst h
      exact .ownTypes ..
    case tenant.resolved =>
      obtain ⟨⟨rfl, rfl⟩, rfl⟩ := h
      exact .ownResolved ..
    case application.apps =>
      subst h
      exact .appList ..
    case application.resolved =>
      obtain ⟨tenant, application, channel', templateType', locale⟩ := k
      obtain ⟨⟨⟨rfl, rfl⟩, rfl⟩, rfl⟩ := h
      exact .appResolved ..
    case organization.orgs =>
      subst h
      exact .orgList ..
    case organization.resolved =>
      obtain ⟨rfl, rfl⟩ := h
      exact .orgResolved ..
  | tenant tenant =>
    cases t <;> simp [targets, Target.ofTenant, Target.covers, Target.types, Target.apps,
      Target.resolved] at h
    case types =>
      subst h
      exact .tenantTypes ..
    case apps =>
      subst h
      exact .tenantApps ..
    case resolved =>
      subst h
      exact .tenantResolved ..
  | all => exact .all t k

theorem Cause.count_tiers (cause : Cause) (t : Tier) :
    cause.targets.countP (·.tier = t) = if t ∈ cause.tiers then 1 else 0 := by
  cases cause with
  | change c =>
    obtain ⟨scope, channel, templateType⟩ := c
    cases scope <;> cases t <;> rfl
  | tenant tenant => cases t <;> rfl
  | all => cases t <;> rfl

/-- Two caches alike in all that no removal changes. -/
structure Cache.SameMake {K V : Type} (x y : Cache K V) : Prop where
  label : x.label = y.label
  enabled : x.enabled = y.enabled
  lifetime : x.lifetime = y.lifetime

namespace Cache

variable {K V : Type} [DecidableEq K]

theorem get_make (c : Cache K V) (now : Nat) (k : K) : (c.get now k).state.SameMake c := by
  unfold get
  repeat' split
  all_goals exact ⟨rfl, rfl, rfl⟩

theorem fill_make (c : Cache K V) (now : Nat) (k : K) (v : V) (generation : Nat) :
    (c.fill now k v generation).state.SameMake c := by
  unfold fill put
  repeat' split
  all_goals exact ⟨rfl, rfl, rfl⟩

theorem get_notes (c : Cache K V) (now : Nat) (k : K) :
    (c.get now k).notes = match (c.get now k).answer with
      | some _ => [.counted .cacheHits c.label 1]
      | none => if c.enabled then [.counted .cacheMisses c.label 1] else [] := by
  unfold get
  cases c.enabled with
  | false => rfl
  | true =>
    cases c.entries.get? k with
    | none => rfl
    | some e => cases hx : c.expired now e <;> simp [hx]

theorem fill_notes (c : Cache K V) (now : Nat) (k : K) (v : V) (generation : Nat) :
    (c.fill now k v generation).notes =
      if (c.fill now k v generation).answer = false ∧ c.enabled = true then
        [.log .debug "Discarding fill that raced an invalidation" [("tier", c.label)]]
      else [] := by
  unfold fill
  cases c.enabled with
  | false => rfl
  | true => by_cases hg : c.generation = generation <;> simp [hg]

omit [DecidableEq K] in
theorem tally_sweep (c : Cache K V) (p : K → Bool) (counter : Counter) (label : String) :
    tally counter label (c.sweep p).notes =
      if counter = .cacheInvalidations ∧ c.label = label then (c.sweep p).answer else 0 := by
  show tally counter label (if (c.sweep p).answer = 0 then []
    else [.counted .cacheInvalidations c.label (c.sweep p).answer]) = _
  generalize (c.sweep p).answer = n
  split
  · next h => rw [h, tally_nil, ite_self]
  · simp [movement, eq_comm]

end Cache

theorem Tier.label_inj {t u : Tier} (h : t.label = u.label) : t = u := by
  cases t <;> cases u <;> first | rfl | exact absurd h (by decide)

namespace Caches

def size (c : Caches) : Nat := (Tier.all.map fun t => (c.tier t).size).sum

variable (c : Caches) (gs : List Target) (t : Tier)

/-- The caches when the entries of one target are gone. -/
def without (g : Target) : Reply Caches Nat := c.onTier g.tier (·.sweep g.selects)

theorem sweep_cons_state (g : Target) :
    (c.sweep (g :: gs)).state = ((c.without g).state.sweep gs).state := rfl

theorem sweep_cons_notes (g : Target) :
    (c.sweep (g :: gs)).notes = (c.without g).notes ++ ((c.without g).state.sweep gs).notes := rfl

theorem without_get? (g : Target) (k : t.Key) :
    ((c.without g).state.tier t).entries.get? k =
      if g.covers t k then none else (c.tier t).entries.get? k := by
  by_cases ht : t = g.tier
  · subst ht
    have hs : ((c.without g).state.tier g.tier).entries =
        (c.tier g.tier).entries.keep fun k => !g.selects k := by
      rw [without, onTier_tier_self]
      rfl
    rw [hs, Table.get?_keep, Target.covers_self]
    cases g.selects k <;> rfl
  · rw [without, onTier_tier_ne ht, Target.covers_ne ht]
    rfl

theorem sweep_get? (k : t.Key) :
    ((c.sweep gs).state.tier t).entries.get? k =
      if gs.any (·.covers t k) then none else (c.tier t).entries.get? k := by
  induction gs generalizing c with
  | nil => rfl
  | cons g gs ih =>
    rw [sweep_cons_state, ih, without_get?, List.any_cons]
    cases g.covers t k <;> cases gs.any (·.covers t k) <;> rfl

theorem without_generation (g : Target) :
    ((c.without g).state.tier t).generation =
      (c.tier t).generation + if g.tier = t then 1 else 0 := by
  by_cases ht : g.tier = t
  · subst ht
    rw [without, onTier_tier_self, if_pos rfl]
    rfl
  · rw [without, onTier_tier_ne (Ne.symm ht), if_neg ht]
    rfl

theorem sweep_generation :
    ((c.sweep gs).state.tier t).generation = (c.tier t).generation + gs.countP (·.tier = t) := by
  induction gs generalizing c with
  | nil => rfl
  | cons g gs ih =>
    rw [sweep_cons_state, ih, without_generation, List.countP_cons]
    simp only [decide_eq_true_eq]
    omega

theorem without_make (g : Target) : ((c.without g).state.tier t).SameMake (c.tier t) :=
  onTier_forall (c := c) (R := fun u x => x.SameMake (c.tier u)) (fun _ => ⟨rfl, rfl, rfl⟩)
    ⟨rfl, rfl, rfl⟩ t

theorem sweep_make : ((c.sweep gs).state.tier t).SameMake (c.tier t) := by
  induction gs generalizing c with
  | nil => exact ⟨rfl, rfl, rfl⟩
  | cons g gs ih =>
    obtain ⟨hl, he, ht⟩ := ih (c.without g).state
    obtain ⟨hl', he', ht'⟩ := c.without_make t g
    exact ⟨hl.trans hl', he.trans he', ht.trans ht'⟩

theorem without_size (g : Target) :
    ((c.without g).state.tier t).size + (if g.tier = t then (c.without g).answer else 0) =
      (c.tier t).size := by
  by_cases ht : g.tier = t
  · subst ht
    rw [without, onTier_tier_self, if_pos rfl]
    have h := (c.tier g.tier).entries.size_keep g.selects
    rw [Nat.add_comm] at h
    exact h
  · rw [without, onTier_tier_ne (Ne.symm ht), if_neg ht]
    rfl

theorem without_notes (g : Target) :
    (c.without g).notes = if (c.without g).answer = 0 then []
      else [.counted .cacheInvalidations (c.tier g.tier).label (c.without g).answer] := rfl

theorem without_total (g : Target) :
    total .cacheInvalidations (c.without g).notes = (c.without g).answer := by
  rw [without_notes]
  split
  · next h => exact h.symm
  · simp [movementOfAny]

theorem without_tally (g : Target) (label : String) :
    tally .cacheInvalidations label (c.without g).notes =
      if (c.tier g.tier).label = label then (c.without g).answer else 0 := by
  have h := (c.tier g.tier).tally_sweep g.selects .cacheInvalidations label
  simp only [true_and] at h
  exact h

theorem size_eq_sum (c : Caches) :
    c.size = (c.tier .types).size + (c.tier .apps).size + (c.tier .resolved).size +
      (c.tier .orgs).size := by
  simp [size, Tier.all]
  omega

theorem size_without (g : Target) : (c.without g).state.size + (c.without g).answer = c.size := by
  rw [size_eq_sum, size_eq_sum, ← c.without_size .types g, ← c.without_size .apps g,
    ← c.without_size .resolved g, ← c.without_size .orgs g]
  cases g.tier <;> simp <;> omega

theorem sweep_total : total .cacheInvalidations (c.sweep gs).notes = (c.sweep gs).answer := by
  induction gs generalizing c with
  | nil => rfl
  | cons g gs ih =>
    rw [sweep_cons_notes, total_append, without_total, ih]
    rfl

theorem sweep_size : (c.sweep gs).state.size + (c.sweep gs).answer = c.size := by
  induction gs generalizing c with
  | nil => rfl
  | cons g gs ih =>
    have ha : (c.sweep (g :: gs)).answer =
        (c.without g).answer + ((c.without g).state.sweep gs).answer := rfl
    have hg := c.size_without g
    have hgs := ih (c.without g).state
    rw [sweep_cons_state, ha]
    omega

/-- Every tier counts under its own name. -/
def Labelled (c : Caches) : Prop := ∀ t, (c.tier t).label = t.label

theorem Labelled.without {c : Caches} (h : c.Labelled) (g : Target) :
    (c.without g).state.Labelled :=
  fun t => (c.without_make t g).label.trans (h t)

theorem sweep_tally {c : Caches} (h : c.Labelled) :
    ((c.sweep gs).state.tier t).size + tally .cacheInvalidations t.label (c.sweep gs).notes =
      (c.tier t).size := by
  induction gs generalizing c with
  | nil => rfl
  | cons g gs ih =>
    have hg : tally .cacheInvalidations t.label (c.without g).notes =
        if g.tier = t then (c.without g).answer else 0 := by
      rw [without_tally, h g.tier]
      by_cases ht : g.tier = t
      · rw [ht, if_pos rfl, if_pos rfl]
      · rw [if_neg ht, if_neg fun hl => ht (Tier.label_inj hl)]
    have hgs := ih (h.without g)
    have hs := c.without_size t g
    rw [sweep_cons_state, sweep_cons_notes, tally_append, hg]
    omega

theorem drop_answer (cause : Cause) : (c.drop cause).answer = (c.sweep cause.targets).answer := by
  cases cause <;> rfl

/-- A report counts nothing beside what its sweep counts. -/
theorem drop_counts (cause : Cause) (label : String) :
    total .cacheInvalidations (c.drop cause).notes =
        total .cacheInvalidations (c.sweep cause.targets).notes ∧
      tally .cacheInvalidations label (c.drop cause).notes =
        tally .cacheInvalidations label (c.sweep cause.targets).notes := by
  cases cause with
  | change change => exact ⟨total_append .., tally_append ..⟩
  | tenant tenant => exact ⟨rfl, rfl⟩
  | all => exact ⟨rfl, rfl⟩

end Caches

/-- Whatever the caches hold: a removal takes every entry that it concerns and leaves all others as
they are. It answers with the number of entries taken, which is also what the counter of
invalidations moves by, tier by tier, and it advances the clock of each tier that it addresses by
one, and of no other. -/
theorem drop_exact (c : Caches) (cause : Cause) :
    let r := c.drop cause
    (∀ t k, cause.Concerns t k → (r.state.tier t).entries.get? k = none) ∧
    (∀ t k, ¬ cause.Concerns t k →
      (r.state.tier t).entries.get? k = (c.tier t).entries.get? k) ∧
    r.state.size + r.answer = c.size ∧
    total .cacheInvalidations r.notes = r.answer ∧
    (c.Labelled → ∀ t, (r.state.tier t).size + tally .cacheInvalidations t.label r.notes =
      (c.tier t).size) ∧
    (∀ t, (r.state.tier t).generation =
      (c.tier t).generation + if t ∈ cause.tiers then 1 else 0) ∧
    ∀ t, (r.state.tier t).SameMake (c.tier t) := by
  intro r
  have hs : r.state = (c.sweep cause.targets).state := c.drop_state cause
  have ha : r.answer = (c.sweep cause.targets).answer := c.drop_answer cause
  refine ⟨fun t k hk => ?_, fun t k hk => ?_, ?_, ?_, fun hl t => ?_, fun t => ?_, fun t => ?_⟩
  · rw [hs, Caches.sweep_get?, if_pos hk.covered]
  · rw [hs, Caches.sweep_get?, if_neg fun h => hk (Cause.concerns_of_covered h)]
  · rw [hs, ha, Caches.sweep_size]
  · rw [ha, (c.drop_counts cause "").1, Caches.sweep_total]
  · rw [hs, (c.drop_counts cause t.label).2, Caches.sweep_tally cause.targets t hl]
  · rw [hs, Caches.sweep_generation, Cause.count_tiers]
  · rw [hs]
    exact Caches.sweep_make ..

end Herald
