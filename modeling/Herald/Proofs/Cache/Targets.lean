import Herald.Cache.Invalidation
import Herald.Proofs.Cache.Entries

/-!
# Herald.Proofs.Cache.Targets

What removing targets leaves.

* `Target.covers`: the keys of a target. `Caches.Serves.sweep`: what is left is covered by none.
* `Cause`, `Caches.drop`: the occasions on which entries are removed.
-/

namespace Herald

/-- Whether a key of a tier is among those of a target. -/
def Target.covers (g : Target) (t : Tier) (k : t.Key) : Bool :=
  if h : t = g.tier then g.selects (h ▸ k) else false

theorem Target.covers_self (g : Target) (k : g.tier.Key) : g.covers g.tier k = g.selects k := by
  simp [covers]

theorem Target.covers_ne {g : Target} {t : Tier} (h : t ≠ g.tier) (k : t.Key) :
    g.covers t k = false := by
  simp [covers, h]

/-- Why entries are removed. -/
inductive Cause where
  /-- A write is reported. -/
  | change (change : Change)
  | tenant (tenant : String)
  | all
  deriving DecidableEq, Repr

/-- What is removed. -/
def Cause.targets : Cause → List Target
  | .change c => c.targets
  | .tenant t => Target.ofTenant t
  | .all => Target.everything

namespace Caches

/-- Removes what a cause asks for. -/
def drop (c : Caches) : Cause → Reply Caches Nat
  | .change change => c.apply change
  | .tenant tenant => c.invalidateTenant tenant
  | .all => c.clearAll

theorem drop_state (c : Caches) (cause : Cause) :
    (c.drop cause).state = (c.sweep cause.targets).state := by
  cases cause <;> rfl

variable {P : (t : Tier) → t.Key → t.Value → Prop} {c : Caches}

theorem Serves.sweepTarget (h : c.Serves P) (g : Target) :
    (c.onTier g.tier (·.sweep g.selects)).state.Serves
      fun t k v => P t k v ∧ g.covers t k = false := by
  intro t
  by_cases ht : t = g.tier
  · subst ht
    rw [onTier_tier_self]
    refine (h g.tier).imp_right fun ha => (ha.sweep g.selects).imp fun k v hk => ?_
    exact ⟨hk.1, (g.covers_self k).trans hk.2⟩
  · rw [onTier_tier_ne ht]
    exact (h t).imp fun k v hk => ⟨hk, Target.covers_ne ht k⟩

/-- What is left after a sweep is covered by no target. -/
theorem Serves.sweep (h : c.Serves P) (gs : List Target) :
    (c.sweep gs).state.Serves fun t k v => P t k v ∧ ∀ g ∈ gs, g.covers t k = false := by
  induction gs generalizing c P with
  | nil => exact h.imp fun t k v hk => ⟨hk, nofun⟩
  | cons g gs ih =>
    refine (ih (h.sweepTarget g)).imp fun t k v hk => ⟨hk.1.1, ?_⟩
    exact List.forall_mem_cons.2 ⟨hk.1.2, hk.2⟩

end Caches

end Herald
