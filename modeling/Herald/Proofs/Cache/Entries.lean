import Herald.Cache.Tier

/-!
# Herald.Proofs.Cache.Entries

What the entries of a cache have in common, and keep.

* `Cache.All`: every entry has a property. `Cache.Serves`: so does all that is handed out.
* `All.get`, `All.fill`, `All.sweep`: what each operation makes of it; `Serves.hit`: what is handed
  out has it.
* `Caches.onTier_forall`: what each cache has is kept, if the one that changes keeps it.
* `Caches.Serves`: what is handed out by any cache has a property.
-/

namespace Herald

namespace Cache

variable {K V : Type} {P : K → V → Prop} {c : Cache K V}

/-- Every entry has a property. -/
def All (P : K → V → Prop) [DecidableEq K] (c : Cache K V) : Prop :=
  ∀ k e, c.entries.get? k = some e → P k e.value

variable [DecidableEq K] {now generation : Nat} {k : K} {v : V}

theorem All.imp {Q : K → V → Prop} (h : c.All P) (hpq : ∀ k v, P k v → Q k v) : c.All Q :=
  fun k e he => hpq k e.value (h k e he)

/-- Looking up removes at most the entry of the key. -/
theorem get_entries (c : Cache K V) (now : Nat) (k : K) :
    (c.get now k).state.entries = c.entries ∨
      (c.get now k).state.entries = c.entries.erase k ∧ (c.get now k).answer = none := by
  unfold get
  split
  · exact .inl rfl
  · split
    · exact .inl rfl
    · split
      · exact .inr ⟨rfl, rfl⟩
      · exact .inl rfl

/-- What is handed out is there. -/
theorem get_answer (h : (c.get now k).answer = some v) :
    c.enabled = true ∧ ∃ e, c.entries.get? k = some e ∧ e.value = v := by
  unfold get at h
  split at h
  · cases h
  · next hc =>
    split at h
    · cases h
    · next e he =>
      split at h
      · cases h
      · exact ⟨by simpa using hc, e, he, Option.some.inj h⟩

/-- What is missing is not there afterwards: an entry that has outlived its time is removed. -/
theorem get_miss (h : (c.get now k).answer = none) :
    c.enabled = false ∨ (c.get now k).state.entries.get? k = none := by
  unfold get at h ⊢
  split
  · next hc => exact .inl (by simpa using hc)
  · next hc =>
    rw [if_neg hc] at h
    split
    · next hk => exact .inr hk
    · next e hk =>
      simp only [hk] at h
      split
      · exact .inr (by rw [Table.get?_erase, if_pos rfl])
      · next hx =>
        rw [if_neg hx] at h
        cases h

@[simp] theorem get_generation : (c.get now k).state.generation = c.generation := by
  unfold get
  repeat' split
  all_goals rfl

@[simp] theorem get_enabled : (c.get now k).state.enabled = c.enabled := by
  unfold get
  repeat' split
  all_goals rfl

@[simp] theorem fill_generation : (c.fill now k v generation).state.generation = c.generation := by
  unfold fill put
  repeat' split
  all_goals rfl

@[simp] theorem fill_enabled : (c.fill now k v generation).state.enabled = c.enabled := by
  unfold fill put
  repeat' split
  all_goals rfl

/-- A filling is refused and changes nothing, or it writes its value in its own generation. -/
theorem fill_cases (c : Cache K V) (now : Nat) (k : K) (v : V) (generation : Nat) :
    c.fill now k v generation = ⟨false, c, (c.fill now k v generation).notes⟩ ∨
      c.enabled = true ∧ c.generation = generation ∧ c.fill now k v generation =
        ⟨true, { c with entries := c.entries.insert k ⟨v, now⟩ }, []⟩ := by
  unfold fill put
  cases hc : c.enabled with
  | false => exact .inl rfl
  | true =>
    by_cases hg : c.generation = generation
    · exact .inr ⟨rfl, hg, by simp [hg]⟩
    · exact .inl (by simp [hg])

theorem All.get (h : c.All P) : (c.get now k).state.All P := by
  intro k' e he
  rcases get_entries c now k with hc | ⟨hc, -⟩
  · exact h k' e (hc ▸ he)
  · rw [hc, Table.get?_erase] at he
    split at he
    · cases he
    · exact h k' e he

theorem All.fill (h : c.All P) (hv : c.enabled = true → c.generation = generation → P k v) :
    (c.fill now k v generation).state.All P := by
  intro k' e he
  rcases fill_cases c now k v generation with hc | ⟨hb, hg, hc⟩
  · rw [hc] at he
    exact h k' e he
  · rw [hc] at he
    have he : (c.entries.insert k ⟨v, now⟩).get? k' = some e := he
    rw [Table.get?_insert] at he
    split at he
    · next hk =>
      cases he
      exact hk ▸ hv hb hg
    · exact h k' e he

theorem All.sweep (h : c.All P) (p : K → Bool) :
    (c.sweep p).state.All fun k v => P k v ∧ p k = false := by
  intro k e he
  have hk : (c.entries.keep fun k => !p k).get? k = some e := he
  rw [Table.get?_keep] at hk
  split at hk
  · next hp => exact ⟨h k e hk, by simpa using hp⟩
  · cases hk

/-- All that is handed out has a property. -/
def Serves (P : K → V → Prop) (c : Cache K V) : Prop := c.enabled = false ∨ c.All P

theorem Serves.imp {Q : K → V → Prop} (h : c.Serves P) (hpq : ∀ k v, P k v → Q k v) : c.Serves Q :=
  h.imp_right fun ha => ha.imp hpq

theorem Serves.hit (h : c.Serves P) (ha : (c.get now k).answer = some v) : P k v := by
  obtain ⟨hb, e, he, rfl⟩ := get_answer ha
  rcases h with hd | hall
  · rw [hb] at hd
    cases hd
  · exact hall k e he

theorem Serves.get (h : c.Serves P) : (c.get now k).state.Serves P := by
  rw [Serves, get_enabled]
  exact h.imp_right All.get

theorem Serves.fill (h : c.Serves P) (hv : P k v) :
    (c.fill now k v generation).state.Serves P := by
  rw [Serves, fill_enabled]
  exact h.imp_right fun ha => ha.fill fun _ _ => hv

end Cache

namespace Caches

variable {α : Type} {c : Caches} {t : Tier}
  {f : Cache t.Key t.Value → Reply (Cache t.Key t.Value) α}

@[simp] theorem onTier_tier_self : (c.onTier t f).state.tier t = (f (c.tier t)).state :=
  tier_withTier_self ..

theorem onTier_tier_ne {u : Tier} (h : u ≠ t) : (c.onTier t f).state.tier u = c.tier u :=
  tier_withTier_ne _ _ h

/-- What each cache has is kept, if the one that changes keeps it. -/
theorem onTier_forall {R : (u : Tier) → Cache u.Key u.Value → Prop} (h : ∀ u, R u (c.tier u))
    (ht : R t (f (c.tier t)).state) (u : Tier) : R u ((c.onTier t f).state.tier u) := by
  by_cases hu : u = t
  · subst hu
    rw [onTier_tier_self]
    exact ht
  · rw [onTier_tier_ne hu]
    exact h u

/-- Whether the caches are in use is kept, if the one that changes keeps it. -/
theorem onTier_enabled (ht : (f (c.tier t)).state.enabled = (c.tier t).enabled) (u : Tier) :
    ((c.onTier t f).state.tier u).enabled = (c.tier u).enabled :=
  onTier_forall (R := fun u x => x.enabled = (c.tier u).enabled) (fun _ => rfl) ht u

/-- The generations are kept, if the cache that changes keeps its own. -/
theorem onTier_generation (ht : (f (c.tier t)).state.generation = (c.tier t).generation)
    (u : Tier) : ((c.onTier t f).state.tier u).generation = (c.tier u).generation :=
  onTier_forall (R := fun u x => x.generation = (c.tier u).generation) (fun _ => rfl) ht u

/-- All that any cache hands out has a property. -/
def Serves (P : (t : Tier) → t.Key → t.Value → Prop) (c : Caches) : Prop :=
  ∀ t, (c.tier t).Serves (P t)

theorem Serves.imp {P Q : (t : Tier) → t.Key → t.Value → Prop} (h : c.Serves P)
    (hpq : ∀ t k v, P t k v → Q t k v) : c.Serves Q :=
  fun t => (h t).imp (hpq t)

theorem Serves.onTier {P : (t : Tier) → t.Key → t.Value → Prop} (h : c.Serves P)
    (ht : (f (c.tier t)).state.Serves (P t)) : (c.onTier t f).state.Serves P :=
  onTier_forall (R := fun u x => x.Serves (P u)) h ht

theorem Serves.get {P : (t : Tier) → t.Key → t.Value → Prop} (h : c.Serves P) (t : Tier) (k : t.Key)
    (now : Nat) : (c.onTier t (·.get now k)).state.Serves P :=
  h.onTier (h t).get

theorem Serves.fill {P : (t : Tier) → t.Key → t.Value → Prop} {t : Tier} {k : t.Key} {v : t.Value}
    (h : c.Serves P) (hv : P t k v) (now g : Nat) :
    (c.onTier t (·.fill now k v g)).state.Serves P :=
  h.onTier ((h t).fill hv)

/-- Nothing can be handed out. -/
def Blank (c : Caches) : Prop := c.Serves fun _ _ _ => False

theorem Blank.serves {P : (t : Tier) → t.Key → t.Value → Prop} (h : c.Blank) : c.Serves P :=
  h.imp fun _ _ _ => False.elim

theorem blank_new (enabled : Bool) (lifetime : Option Nat) : (new enabled lifetime).Blank := by
  intro t
  cases t <;> exact .inr fun k e he => by cases he

/-- No cache is in use. -/
def Disabled (c : Caches) : Prop := ∀ t, (c.tier t).enabled = false

end Caches

end Herald
