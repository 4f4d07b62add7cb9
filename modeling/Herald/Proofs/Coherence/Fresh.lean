import Herald.Proofs.Coherence.Tidy

/-!
# Herald.Proofs.Coherence.Fresh

What the caches hold once writes are reported or all is cleared.

* `State.Reported`: a removal for a write has ended that began after it.
* `reported_coherent`: no entry is derived from a reading of a row before a write that is reported,
  and if all writes are, every entry is what would be found now.
* `cleared_coherent`: once all caches have been cleared after all writes, every entry is what would
  be found now, but for resolved lookups that took a list of an organization from its cache before
  that was cleared. `cleared_stale`: such a lookup.
* `race`: two lookups, a write and a removal in each other's way.
-/

namespace Herald

open Resolution

variable {locales : Locales} {sh : Sharding} {d : Directory} {s : State} {σ : Sweep} {t : Tier}
  {k : t.Key} {e : Cache.Entry t.Value}

/-- No entry that goes by a settled row is derived from a reading of it that is older than the
removal. -/
theorem State.Tidy.begun_le (h : s.Tidy sh) (hσ : σ ∈ s.sweeps) (hfin : σ.finished = true)
    (he : (s.world.caches.tier t).entries.get? k = some e) {rd : Reading}
    (hrd : rd ∈ s.origin ⟨t, k⟩) {r : RowKey} (hc : rd.request.Covers r) (hr : t.Reads k r)
    (hs : σ.cause.Settles t r) : σ.begun ≤ rd.moment := by
  by_cases hm : rd.moment < σ.begun
  · exact absurd ((h σ hσ).guards t k e he rd hrd r ⟨hm, hc, hs⟩ hr)
      (Sweep.not_awaits_of_finished hfin)
  · exact Nat.le_of_not_lt hm

/-- If no row was written since it was read for an entry that goes by it, the entry is what would be
found now. -/
theorem State.Traced.fresh (h : s.Traced locales d)
    (he : (s.world.caches.tier t).entries.get? k = some e)
    (hw : ∀ rd ∈ s.origin ⟨t, k⟩, ∀ w ∈ s.writes, rd.request.Covers w.mutation.rowKey →
      t.Reads k w.mutation.rowKey → w.moment ≤ rd.moment) :
    s.world.fresh locales t k = .ok e.value := by
  rw [fresh_eq_value, h.directory]
  refine (h.founded t k e he).value h.sound (fun rd hrd => (h.past _ rd hrd).sound) ?_
  intro rd hrd r hc hr
  refine (h.past _ rd hrd).rows r fun w hm hk => ?_
  subst hk
  exact hw rd hrd w hm hc hr

/-- A removal for a write has ended that began after it. -/
def State.Reported (s : State) (w : Written) : Prop :=
  ∃ σ ∈ s.sweeps, σ.finished = true ∧ σ.cause = .change w.mutation.change ∧ w.moment < σ.begun

instance (s : State) (w : Written) : Decidable (s.Reported w) :=
  inferInstanceAs (Decidable (∃ σ ∈ s.sweeps, σ.finished = true ∧
    σ.cause = .change w.mutation.change ∧ w.moment < σ.begun))

namespace race

/-- The template that is looked for. -/
def row (body : String) : Template := { templateType := "welcome", locale := "en_US", body := body }

def directory : Directory := ({} : Directory).setOrganization "acme" "root"

/-- A lookup has made some requests when the template is written anew and some steps of a removal
are made. Then another one runs to its end, and so do the removal and the first. -/
def moves (scope : Scope) (cause : Cause) (requests steps : Nat) : List Move :=
  let call : Move := .call (.resolve "acme" none .email "welcome" "en_US")
  [call] ++ List.replicate requests (.proceed 0) ++
    [.write (.update scope .email (row "new")), .drop cause] ++ List.replicate steps (.sweep 0) ++
    [call] ++ List.replicate 30 (.proceed 1) ++ List.replicate 12 (.sweep 0) ++
    List.replicate 30 (.proceed 0)

def key : TemplateKey := ⟨"acme", none, .email, "welcome", "en_US"⟩

/-- The entry that is there in the end. -/
def entry? (s : State) : Option (Cache.Entry Template) :=
  (s.world.caches.tier .resolved).entries.get? key

end race

/-- Two lookups by a member of an organization, a write and a removal. -/
def race (scope : Scope) (cause : Cause) (requests steps : Nat) : State :=
  (State.start [.create scope .email (race.row "old")] race.directory true none).run ⟨"en_US"⟩
    .single (race.moves scope cause requests steps)

/-- What a list tells an entry is told by the rows that its key goes by: one that a lookup was
resolved from tells it of those of its own type. -/
theorem reported_coherent (locales : Locales) (sh : Sharding) (earlier : List Mutation)
    (directory : Directory) (enabled : Bool) (lifetime : Option Nat) (moves : List Move) :
    let s := (State.start earlier directory enabled lifetime).run locales sh moves
    (∀ t k e, (s.world.caches.tier t).entries.get? k = some e →
      Founded locales directory t k e.value (s.origin ⟨t, k⟩) ∧
      ∀ w ∈ s.writes, s.Reported w → ∀ rd ∈ s.origin ⟨t, k⟩, ∀ r, w.mutation.change.Covers r →
        t.Reads k r → rd.request.Covers r → w.moment < rd.moment) ∧
    ((∀ w ∈ s.writes, s.Reported w) → ∀ t k e,
      (s.world.caches.tier t).entries.get? k = some e →
        s.world.fresh locales t k = .ok e.value) := by
  intro s
  have ht : s.Traced locales directory := (State.Traced.start earlier enabled lifetime).run moves
  have hd : s.Tidy sh := (State.Tidy.start earlier directory enabled lifetime).run
    (State.Traced.start earlier enabled lifetime) moves
  have newer (w : Written) (hw : s.Reported w) (t : Tier) (k : t.Key) (e : Cache.Entry t.Value)
      (he : (s.world.caches.tier t).entries.get? k = some e) (rd : Reading)
      (hrd : rd ∈ s.origin ⟨t, k⟩) (r : RowKey) (hc : w.mutation.change.Covers r)
      (hr : t.Reads k r) (hq : rd.request.Covers r) : w.moment < rd.moment := by
    obtain ⟨σ, hσ, hfin, hcause, hbegun⟩ := hw
    have hs : σ.cause.Settles t r := by
      rw [hcause]
      exact hc
    exact Nat.lt_of_lt_of_le hbegun (hd.begun_le hσ hfin he hrd hq hr hs)
  constructor
  · intro t k e he
    exact ⟨ht.founded t k e he, fun w _ hw rd hrd r => newer w hw t k e he rd hrd r⟩
  · intro hall t k e he
    refine ht.fresh he fun rd hrd w hm hq hr => ?_
    exact Nat.le_of_lt
      (newer w (hall w hm) t k e he rd hrd _ (covers_rowKey w.mutation) hr hq)

/-- A lookup that has read the list of an organization when it is written anew fills in nothing. -/
theorem reported_coherent_race :
    let root : Scope := .organization "root" none
    let s := race root (.change ⟨root, .email, "welcome"⟩) 16 6
    (∀ w ∈ s.writes, s.Reported w) ∧ ∃ e, race.entry? s = some e ∧ e.value.body = "new" ∧
      s.world.fresh ⟨"en_US"⟩ .resolved race.key = .ok e.value := by
  intro root s
  have hw : ∀ w ∈ s.writes, s.Reported w := by
    subst s root
    decide +kernel
  have he : (race.entry? s).map (·.value.body) = some "new" := by
    subst s root
    decide +kernel
  obtain ⟨e, he, hb⟩ := Option.map_eq_some_iff.1 he
  refine ⟨hw, e, he, hb, ?_⟩
  exact (reported_coherent ⟨"en_US"⟩ .single _ race.directory true none _).2 hw .resolved
    race.key e he

theorem cleared_coherent (locales : Locales) (sh : Sharding) (earlier : List Mutation)
    (directory : Directory) (enabled : Bool) (lifetime : Option Nat) (moves : List Move) :
    let s := (State.start earlier directory enabled lifetime).run locales sh moves
    ∀ σ ∈ s.sweeps, σ.finished = true → σ.cause = .all → (∀ w ∈ s.writes, w.moment < σ.begun) →
      ∀ t k e, (s.world.caches.tier t).entries.get? k = some e →
        s.world.fresh locales t k = .ok e.value ∨
          t = .resolved ∧ ∃ rd ∈ s.origin ⟨t, k⟩, ∃ w ∈ s.writes, rd.moment < w.moment ∧
            rd.request.Covers w.mutation.rowKey ∧
              ∃ o a, w.mutation.change.scope = .organization o a := by
  intro s σ hσ hfin hcause hwrites t k e he
  have ht : s.Traced locales directory := (State.Traced.start earlier enabled lifetime).run moves
  have hd : s.Tidy sh := (State.Tidy.start earlier directory enabled lifetime).run
    (State.Traced.start earlier enabled lifetime) moves
  refine Classical.or_iff_not_imp_right.2 fun hn => ht.fresh he fun rd hrd w hw hq hr => ?_
  by_cases hs : σ.cause.Settles t w.mutation.rowKey
  · exact Nat.le_of_lt (Nat.lt_of_lt_of_le (hwrites w hw) (hd.begun_le hσ hfin he hrd hq hr hs))
  · have hscope : w.mutation.rowKey.scope = w.mutation.change.scope := (covers_rowKey w.mutation).1
    have horg : t = .resolved ∧ ∃ o a, w.mutation.change.scope = .organization o a := by
      rw [hcause] at hs
      simpa [Cause.Settles, hscope] using hs
    exact Nat.le_of_not_lt fun hlt => hn ⟨horg.1, rd, hrd, w, hw, hlt, hq, horg.2⟩

/-- A lookup while all is cleared, after a template of the tenant is written anew. -/
theorem cleared_coherent_race :
    let s := race (.tenant "acme") .all 30 7
    (∃ σ ∈ s.sweeps, σ.finished = true ∧ σ.cause = .all ∧ ∀ w ∈ s.writes, w.moment < σ.begun) ∧
      ∃ e, race.entry? s = some e ∧ e.value.body = "new" ∧
        s.world.fresh ⟨"en_US"⟩ .resolved race.key = .ok e.value := by
  intro s
  have hσ : ∃ σ ∈ s.sweeps, σ.finished = true ∧ σ.cause = .all ∧
      ∀ w ∈ s.writes, w.moment < σ.begun := by
    subst s
    decide +kernel
  have hscope : ∀ w ∈ s.writes, w.mutation.change.scope = .tenant "acme" := by
    subst s
    decide +kernel
  have he : (race.entry? s).map (·.value.body) = some "new" := by
    subst s
    decide +kernel
  obtain ⟨e, he, hb⟩ := Option.map_eq_some_iff.1 he
  refine ⟨hσ, e, he, hb, ?_⟩
  obtain ⟨σ, hσ, hfin, hcause, hwrites⟩ := hσ
  rcases cleared_coherent ⟨"en_US"⟩ .single _ race.directory true none _ σ hσ hfin hcause hwrites
    .resolved race.key e he with h | ⟨-, rd, -, w, hw, -, -, o, a, horg⟩
  · exact h
  · rw [hscope w hw] at horg
    cases horg

/-- The same, but for a template of the organization. The resolved lookups are cleared before the
lists of organizations, and what is resolved in between is as old as the list. -/
theorem cleared_stale :
    let s := race (.organization "root" none) .all 30 7
    (∃ σ ∈ s.sweeps, σ.finished = true ∧ σ.cause = .all ∧ ∀ w ∈ s.writes, w.moment < σ.begun) ∧
      (race.entry? s).map (·.value.body) = some "old" ∧
      (s.world.fresh ⟨"en_US"⟩ .resolved race.key).toOption.map Template.body = some "new" := by
  decide +kernel

end Herald
