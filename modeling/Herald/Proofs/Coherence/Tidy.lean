import Herald.Proofs.Coherence.Traced

/-!
# Herald.Proofs.Coherence.Tidy

What a removal leaves no room for.

* `Cause.Settles`: the rows that a removal settles for a tier. `Cause.covered`: it removes the
  entries that go by them; `Cause.targets_ordered`: and the lists before the lookups that are
  resolved from them, where it matters.
* `Sweep.Awaits`: the keys that a removal under way has still before it.
* `Sweep.Tidy`: an entry that is derived from a doubtful reading awaits its removal, and no lookup
  can bring one back. `Tidy.run`: every removal is tidy in every run.
-/

namespace Herald

open Resolution

/-- The rows that a removal settles for a tier. It leaves no entry there that goes by one of them
and is derived from an earlier reading of it. -/
def Cause.Settles : Cause → Tier → RowKey → Prop
  | .change c, _, r => c.Covers r
  | .tenant t, _, r => r.scope = .tenant t ∨ ∃ a, r.scope = .application t a
  | .all, u, r => u = .resolved → ∀ o a, r.scope ≠ .organization o a

theorem Cause.Settles.of_resolved {cause : Cause} {r : RowKey} (h : cause.Settles .resolved r)
    (t : Tier) : cause.Settles t r := by
  cases cause with
  | change c => exact h
  | tenant id => exact h
  | all => exact fun _ => h rfl

theorem covers_iff {g : Target} {t : Tier} {k : t.Key} :
    g.covers t k = true ↔ ∃ l, (⟨t, k⟩ : Place) = ⟨g.tier, l⟩ ∧ g.selects l = true := by
  by_cases ht : t = g.tier
  · subst ht
    rw [Target.covers_self]
    constructor
    · exact fun h => ⟨k, rfl, h⟩
    · rintro ⟨l, hl, h⟩
      cases hl
      exact h
  · rw [Target.covers_ne ht]
    constructor
    · exact fun h => by cases h
    · rintro ⟨l, hl, -⟩
      exact absurd (congrArg Sigma.fst hl) ht

/-- Entries that go by a row that is settled are removed. -/
theorem Cause.covered {cause : Cause} {t : Tier} {k : t.Key} {r : RowKey}
    (hs : cause.Settles t r) (hr : t.Reads k r) : ∃ g ∈ cause.targets, g.covers t k = true := by
  cases cause with
  | change c => exact targets_cover hs hr
  | tenant id =>
    -- What is settled is the tenant's own, or that of one of its applications.
    have owner {tenant : String}
        (h : r.scope = .tenant tenant ∨ ∃ a, r.scope = .application tenant a) : tenant = id := by
      rcases h with h | ⟨a, h⟩ <;> rcases hs with hs | ⟨b, hs⟩ <;> cases h.symm.trans hs <;> rfl
    cases t with
    | types =>
      obtain ⟨q, hq, hr⟩ := hr
      cases hq
      cases owner (.inl hr.1)
      exact ⟨_, List.mem_cons_self, decide_eq_true rfl⟩
    | apps =>
      obtain ⟨q, hq, hr⟩ := hr
      cases hq
      cases owner (.inr ⟨_, hr.1⟩)
      exact ⟨_, List.mem_cons_of_mem _ List.mem_cons_self, decide_eq_true rfl⟩
    | resolved =>
      obtain ⟨-, q, hq, hr⟩ := hr
      have hk : k.tenant = id := by
        rcases scope_of_involves hq hr with h | ⟨a, -, h⟩ | ⟨o, a, h⟩
        · exact owner (.inl h)
        · exact owner (.inr ⟨a, h⟩)
        · rcases hs with hs | ⟨b, hs⟩ <;> cases h.symm.trans hs
      exact ⟨.resolved (·.tenant = id), by simp [targets, Target.ofTenant], decide_eq_true hk⟩
    | orgs =>
      obtain ⟨q, hq, hr⟩ := hr
      cases hq
      rcases hs with hs | ⟨b, hs⟩ <;> cases hr.1.symm.trans hs
  | all =>
    cases t with
    | types => exact ⟨.types fun _ => true, by simp [targets, Target.everything], rfl⟩
    | apps => exact ⟨.apps fun _ => true, by simp [targets, Target.everything], rfl⟩
    | resolved => exact ⟨.resolved fun _ => true, by simp [targets, Target.everything], rfl⟩
    | orgs => exact ⟨.orgs fun _ => true, by simp [targets, Target.everything], rfl⟩

/-- Each tier is turned to once, and no list is left for later that a lookup which is resolved anew
might take a settled row from. -/
theorem Cause.targets_ordered (cause : Cause) :
    cause.targets.Pairwise fun a b => a.tier ≠ b.tier ∧
      (a.tier = .resolved → ∀ r, cause.Settles .resolved r → ∀ k, ¬ b.tier.Reads k r) := by
  cases cause with
  | change c =>
    obtain ⟨scope, channel, templateType⟩ := c
    cases scope <;> simp [targets, Change.targets, Target.types, Target.apps, Target.orgs,
      Target.resolved]
  | tenant id => simp [targets, Target.ofTenant, Target.types, Target.apps, Target.resolved]
  | all =>
    have spared (r : RowKey) (h : Cause.all.Settles .resolved r) (k : OrgListKey) :
        ¬ Tier.orgs.Reads k r := by
      rintro ⟨q, hq, hr⟩
      cases hq
      exact h rfl _ _ hr.1
    simpa [targets, Target.everything, Target.types, Target.apps, Target.resolved, Target.orgs]
      using spared

theorem Cause.eq_of_tier {cause : Cause} {a b : Target} (ha : a ∈ cause.targets)
    (hb : b ∈ cause.targets) (ht : a.tier = b.tier) : a = b := by
  have ho := cause.targets_ordered
  have hall := List.Pairwise.forall_of_forall_of_flip (R := fun a b => a.tier = b.tier → a = b)
    (fun _ _ _ => rfl) (ho.imp fun h ht => absurd ht h.1)
    (ho.imp fun h ht => absurd ht.symm h.1)
  exact hall ha hb ht

/-! ## What a removal has before it -/

variable {locales : Locales} {sh : Sharding} {d : Directory} {s s' : State} {σ : Sweep}
  {c : Caches} {t : Tier} {k : t.Key}

/-- A purge under way will remove a key: it has found it, or it will come to its shard. -/
def Removal.Awaits (sh : Sharding) (rm : Removal) (t : Tier) (k : t.Key) : Prop :=
  ∃ l, (⟨t, k⟩ : Place) = ⟨rm.target.tier, l⟩ ∧
    (l ∈ rm.found ∨ rm.target.selects l = true ∧ sh.shard rm.target.tier l ∈ rm.shards)

namespace Sweep

/-- A removal under way will come to a key. -/
def Awaits (sh : Sharding) (σ : Sweep) (t : Tier) (k : t.Key) : Prop :=
  (∃ p ∈ σ.later, p.target.covers t k = true) ∨ ∃ rm, σ.current = some rm ∧ rm.Awaits sh t k

/-- What is still to be done, with what is being done. -/
def remaining (σ : Sweep) : List Target :=
  (σ.current.map Removal.target).toList ++ σ.later.map Purge.target

/-- A removal has turned to a tier. -/
def Passed (σ : Sweep) (t : Tier) : Prop :=
  (∃ g ∈ σ.cause.targets, g.tier = t) ∧ ∀ p ∈ σ.later, p.target.tier ≠ t

theorem not_awaits_of_finished (h : σ.finished = true) : ¬ σ.Awaits sh t k := by
  obtain ⟨cause, begun, current, later⟩ := σ
  simp only [finished, Bool.and_eq_true, List.isEmpty_iff, Option.all_eq_true] at h
  obtain ⟨rfl, h⟩ := h
  rintro (⟨p, hp, -⟩ | ⟨rm, hrm, l, -, hl⟩)
  · cases hp
  · obtain ⟨hs, hf⟩ := h rm hrm
    rcases hl with hl | ⟨-, hl⟩
    · rw [hf] at hl
      cases hl
    · rw [hs] at hl
      cases hl

/-- What a purge covers, it awaits when it begins. -/
theorem awaits_removal {p : Purge} (h : p.target.covers t k = true) :
    (p.removal sh).Awaits sh t k := by
  cases p with
  | one u m =>
    obtain ⟨l, hl, hs⟩ := covers_iff.1 h
    have hlm : l = m := by simpa [Purge.target] using hs
    exact ⟨l, hl, .inl (List.mem_singleton.2 hlm)⟩
  | all u p =>
    obtain ⟨l, hl, hs⟩ := covers_iff.1 h
    exact ⟨l, hl, .inr ⟨hs, List.mem_range.2 (sh.shard_lt u l)⟩⟩

theorem awaits_next (h : ∃ p ∈ σ.later, p.target.covers t k = true) :
    (σ.next sh c).2.Awaits sh t k := by
  obtain ⟨p, hp, hc⟩ := h
  unfold next
  split
  · next hl =>
    rw [hl] at hp
    cases hp
  · next q later hl =>
    rw [hl] at hp
    rcases List.mem_cons.1 hp with rfl | hp
    · exact .inr ⟨_, rfl, awaits_removal hc⟩
    · exact .inl ⟨p, hp, hc⟩

/-- A shard that is looked through hides no key. -/
theorem awaits_gather {target : Target} {i : Nat} {shards : List Nat}
    {found : List target.tier.Key} {e : Cache.Entry t.Value}
    (h : (⟨target, i :: shards, found⟩ : Removal).Awaits sh t k)
    (he : (c.tier t).entries.get? k = some e) :
    (⟨target, shards, found ++ (c.tier target.tier).keys fun k =>
      target.selects k && sh.shard target.tier k = i⟩ : Removal).Awaits sh t k := by
  obtain ⟨l, hl, hf⟩ : ∃ l : target.tier.Key, (⟨t, k⟩ : Place) = ⟨target.tier, l⟩ ∧
    (l ∈ found ∨ target.selects l = true ∧ sh.shard target.tier l ∈ i :: shards) := h
  cases hl
  refine ⟨l, rfl, ?_⟩
  rcases hf with hf | ⟨hs, hi⟩
  · exact .inl (List.mem_append_left _ hf)
  · rcases List.mem_cons.1 hi with hi | hi
    · refine .inl (List.mem_append_right _ (Cache.mem_keys.2 ⟨⟨e, Table.mem_entries.2 he⟩, ?_⟩))
      simp [hs, hi]
    · exact .inr ⟨hs, hi⟩

/-- A key that is not removed yet is still among those found. -/
theorem awaits_remove {target : Target} {m : target.tier.Key} {found : List target.tier.Key}
    {e : Cache.Entry t.Value} (h : (⟨target, [], m :: found⟩ : Removal).Awaits sh t k)
    (he : ((c.remove target.tier m).tier t).entries.get? k = some e) :
    (⟨target, [], found⟩ : Removal).Awaits sh t k := by
  obtain ⟨l, hl, hf⟩ : ∃ l : target.tier.Key, (⟨t, k⟩ : Place) = ⟨target.tier, l⟩ ∧
    (l ∈ m :: found ∨ target.selects l = true ∧ sh.shard target.tier l ∈ []) := h
  cases hl
  rw [Caches.remove, Caches.tier_withTier_self] at he
  have hr : ((c.tier target.tier).entries.erase m).get? l = some e := he
  rw [Table.get?_erase] at hr
  split at hr
  · cases hr
  · next hne =>
    have hf : l ∈ m :: found := hf.resolve_right fun h => by cases h.2
    exact ⟨l, rfl, .inl ((List.mem_cons.1 hf).resolve_left hne)⟩

/-- A purge that is done awaits nothing. -/
theorem not_awaits_done {target : Target} : ¬ (⟨target, [], []⟩ : Removal).Awaits sh t k := by
  rintro ⟨l, -, hl | ⟨-, hl⟩⟩ <;> cases hl

/-- A key that is awaited is removed, or it is still awaited. -/
theorem awaits_step {e : Cache.Entry t.Value} (h : σ.Awaits sh t k)
    (he : ((σ.step sh c).1.tier t).entries.get? k = some e) : (σ.step sh c).2.Awaits sh t k := by
  obtain ⟨cause, begun, _ | ⟨target, _ | ⟨i, shards⟩, found⟩, later⟩ := σ
  · refine awaits_next (h.resolve_right ?_)
    rintro ⟨rm, hrm, -⟩
    cases hrm
  · cases found with
    | nil =>
      refine awaits_next (h.resolve_right ?_)
      rintro ⟨rm, hrm, h⟩
      cases hrm
      exact not_awaits_done h
    | cons m found =>
      rcases h with h | ⟨rm, hrm, h⟩
      · exact .inl h
      · cases hrm
        exact .inr ⟨_, rfl, awaits_remove h he⟩
  · rcases h with h | ⟨rm, hrm, h⟩
    · exact .inl h
    · cases hrm
      exact .inr ⟨_, rfl, awaits_gather h he⟩

/-- A removal that turns to a tier advances its generation. -/
theorem passed_step (h : (σ.step sh c).2.Passed t) :
    σ.Passed t ∨ (c.tier t).generation < ((σ.step sh c).1.tier t).generation := by
  have next (σ : Sweep) (h : (σ.next sh c).2.Passed t) :
      σ.Passed t ∨ (c.tier t).generation < ((σ.next sh c).1.tier t).generation := by
    obtain ⟨cause, begun, current, later⟩ := σ
    cases later with
    | nil => exact .inl h
    | cons p later =>
      by_cases ht : p.target.tier = t
      · subst ht
        refine .inr ?_
        show _ < ((c.advance p.target.tier).tier p.target.tier).generation
        rw [Caches.advance, Caches.tier_withTier_self]
        exact Nat.lt_succ_self _
      · exact .inl ⟨h.1, List.forall_mem_cons.2 ⟨ht, h.2⟩⟩
  obtain ⟨cause, begun, _ | ⟨target, _ | ⟨i, shards⟩, found⟩, later⟩ := σ
  · exact next _ h
  · cases found with
    | nil => exact next _ h
    | cons k found => exact .inl h
  · exact .inl h

theorem step_cause : (σ.step sh c).2.cause = σ.cause := by
  unfold step next
  repeat' split
  all_goals rfl

theorem step_begun : (σ.step sh c).2.begun = σ.begun := by
  unfold step next
  repeat' split
  all_goals rfl

/-- A step leaves what remains as it is, or gets done with its head. -/
theorem step_remaining :
    ∃ done, σ.remaining = done ++ (σ.step sh c).2.remaining := by
  have next (σ : Sweep) : ∃ done, σ.remaining = done ++ (σ.next sh c).2.remaining := by
    obtain ⟨cause, begun, current, later⟩ := σ
    cases later with
    | nil => exact ⟨[], rfl⟩
    | cons p later =>
      refine ⟨(current.map Removal.target).toList, ?_⟩
      simp [remaining, Sweep.next]
  obtain ⟨cause, begun, _ | ⟨target, _ | ⟨i, shards⟩, found⟩, later⟩ := σ
  · exact next _
  · cases found with
    | nil => exact next _
    | cons k found => exact ⟨[], rfl⟩
  · exact ⟨[], rfl⟩

/-- A reading that a removal puts in doubt: made before it, of a row that it settles for a tier. -/
def Doubts (σ : Sweep) (t : Tier) (r : RowKey) (rd : Reading) : Prop :=
  rd.moment < σ.begun ∧ rd.request.Covers r ∧ σ.cause.Settles t r

/-- An entry that is derived from a doubtful reading awaits its removal, and no lookup that might
bring one back will be let. -/
structure Tidy (sh : Sharding) (s : State) (σ : Sweep) : Prop where
  begun : σ.begun < s.clock
  path : ∃ done, σ.cause.targets = done ++ σ.remaining
  guards : s.Entries fun t k _ origin => ∀ rd ∈ origin, ∀ r, σ.Doubts t r rd → t.Reads k r →
    σ.Awaits sh t k
  bars : ∀ task ∈ s.tasks, ∀ t w, window t task.log = some w →
    w.generation = (s.world.caches.tier t).generation → σ.Passed t →
      ∀ x ∈ w.exchanges, ∀ rd ∈ x.label, ∀ r, ¬ σ.Doubts t r rd

theorem remaining_of_awaits (h : σ.Awaits sh t k) : ∃ g ∈ σ.remaining, g.tier = t := by
  rcases h with ⟨p, hp, hc⟩ | ⟨rm, hrm, l, hl, -⟩
  · obtain ⟨l, hl, -⟩ := covers_iff.1 hc
    exact ⟨p.target, List.mem_append_right _ (List.mem_map.2 ⟨p, hp, rfl⟩),
      (congrArg Sigma.fst hl).symm⟩
  · refine ⟨rm.target, List.mem_append_left _ ?_, (congrArg Sigma.fst hl).symm⟩
    simp [hrm]

namespace Tidy

/-- Once the resolved lookups have been turned to, the lists that are left are beyond doubt. -/
theorem not_reads (h : σ.Tidy sh s) (hp : σ.Passed .resolved) (ht : t ≠ .resolved)
    {e : Cache.Entry t.Value} (he : (s.world.caches.tier t).entries.get? k = some e) {rd : Reading}
    (hrd : rd ∈ s.origin ⟨t, k⟩) {r : RowKey} (hd : σ.Doubts .resolved r rd) : ¬ t.Reads k r := by
  intro hr
  obtain ⟨g, hg, rfl⟩ :=
    remaining_of_awaits (h.guards t k e he rd hrd r ⟨hd.1, hd.2.1, hd.2.2.of_resolved t⟩ hr)
  obtain ⟨⟨g₀, hg₀, ht₀⟩, hlater⟩ := hp
  obtain ⟨done, hpath⟩ := h.path
  have ho := σ.cause.targets_ordered
  rw [hpath] at hg₀ ho
  obtain ⟨-, hremaining, hcross⟩ := List.pairwise_append.1 ho
  rcases List.mem_append.1 hg₀ with hg₀ | hg₀
  · exact (hcross g₀ hg₀ g hg).2 ht₀ r hd.2.2 k hr
  · -- The resolved lookups are being turned to now, so the lists come after them.
    obtain ⟨-, -, hlists⟩ := List.pairwise_append.1 hremaining
    have hne : g₀ ∉ σ.later.map Purge.target := by
      intro hm
      obtain ⟨p, hp, rfl⟩ := List.mem_map.1 hm
      exact hlater p hp ht₀
    have hcurrent := (List.mem_append.1 hg₀).resolve_right hne
    have hg : g ∈ σ.later.map Purge.target := by
      refine (List.mem_append.1 hg).resolve_left fun hm => ht ?_
      have hsame : g = g₀ := by
        cases hc : σ.current with
        | none => simp [hc] at hm
        | some rm =>
          simp only [hc, Option.map_some, Option.toList_some, List.mem_singleton] at hm hcurrent
          rw [hm, hcurrent]
      rw [hsame, ht₀]
    exact (hlists g₀ hcurrent g hg).2 ht₀ r hd.2.2 k hr

/-- A removal that covers a key awaits it, or it has turned to its tier. -/
theorem awaits_or_passed (h : σ.Tidy sh s) {g : Target} (hg : g ∈ σ.cause.targets)
    (hc : g.covers t k = true) : σ.Awaits sh t k ∨ σ.Passed t := by
  by_cases ha : ∃ p ∈ σ.later, p.target.covers t k = true
  · exact .inl (.inl ha)
  · obtain ⟨l, hl, -⟩ := covers_iff.1 hc
    have ht : g.tier = t := (congrArg Sigma.fst hl).symm
    refine .inr ⟨⟨g, hg, ht⟩, fun p hp hpt => ha ⟨p, hp, ?_⟩⟩
    obtain ⟨done, hpath⟩ := h.path
    have hm : p.target ∈ σ.cause.targets := by
      rw [hpath]
      exact List.mem_append_right _ (List.mem_append_right _ (List.mem_map.2 ⟨p, hp, rfl⟩))
    exact Cause.eq_of_tier hm hg (hpt.trans ht.symm) ▸ hc

end Tidy

/-! ## Every move keeps it -/

theorem tidy_ofCause (cause : Cause) (hf : s.Frame locales sh s') :
    (ofCause cause s.clock).Tidy sh s' where
  begun := by
    rw [hf.clock]
    exact Nat.lt_succ_self _
  path := ⟨[], by simp [remaining, ofCause, purges_target]⟩
  guards t k e he rd hrd r hd hr := by
    obtain ⟨g, hg, hc⟩ := Cause.covered hd.2.2 hr
    rw [← purges_target] at hg
    obtain ⟨p, hp, rfl⟩ := List.mem_map.1 hg
    exact .inl ⟨p, hp, hc⟩
  bars task ht t w hw hg hp := by
    obtain ⟨⟨g, hg, htier⟩, hlater⟩ := hp
    have hg : g ∈ cause.targets := hg
    rw [← purges_target] at hg
    obtain ⟨p, hp, rfl⟩ := List.mem_map.1 hg
    exact absurd htier (hlater p hp)

namespace Tidy

/-- A removal to which nothing happens, or which makes a step. -/
theorem frame (h : σ.Tidy sh s) (hs : s.Traced locales d) (hf : s.Frame locales sh s') {σ' : Sweep}
    (hcause : σ'.cause = σ.cause) (hbegun : σ'.begun = σ.begun)
    (hremaining : ∃ done, σ.remaining = done ++ σ'.remaining)
    (hawaits : ∀ t k e, (s'.world.caches.tier t).entries.get? k = some e → σ.Awaits sh t k →
      σ'.Awaits sh t k)
    (hpassed : ∀ t, σ'.Passed t →
      σ.Passed t ∨ (s.world.caches.tier t).generation < (s'.world.caches.tier t).generation) :
    σ'.Tidy sh s' where
  begun := by
    rw [hf.clock, hbegun]
    exact Nat.lt_succ_of_lt h.begun
  path := by
    obtain ⟨done, hpath⟩ := h.path
    obtain ⟨more, hmore⟩ := hremaining
    exact ⟨done ++ more, by rw [hcause, hpath, hmore, List.append_assoc]⟩
  guards t k e he rd hrd r hd hr := by
    rw [Doubts, hbegun, hcause] at hd
    rw [hf.origin] at hrd
    exact hawaits t k e he (h.guards t k e (hf.caches.entries t k e he) rd hrd r hd hr)
  bars task ht t w hw hg hp x hx rd hrd r := by
    rcases hf.tasks task ht with ht | ⟨c, rfl⟩
    · have hopened := (hs.tasks task ht).opened t w hw
      have hshrinks := hf.caches.generation t
      rw [Doubts, hbegun, hcause]
      refine h.bars task ht t w hw (by omega) ((hpassed t hp).resolve_right ?_) x hx rd hrd r
      omega
    · cases hw

theorem write (h : σ.Tidy sh s) (m : Mutation) : σ.Tidy sh (s.written m) :=
  ⟨Nat.lt_succ_of_lt h.begun, h.path, h.guards, h.bars⟩

variable {i : Nat} {call : Call} {r : Request}
  {next : r.Answer → Program (Except EngineError call.Answer)} {log : Log (List Reading)}

/-- No doubtful reading gets to a lookup that might fill a tier which has been turned to. -/
theorem not_doubts_label (h : σ.Tidy sh s) (hs : s.Traced locales d) (hr : Allowed locales log r)
    {w : Window (List Reading)} (hw : window t log = some w) (hp : σ.Passed t) {rd : Reading}
    (hrd : rd ∈ s.label r (World.answer r s.world).answer)
    (hc : (⟨r, (World.answer r s.world).answer, s.label r (World.answer r s.world).answer⟩ :
      Exchange (List Reading)).closes t = false) (row : RowKey) : ¬ σ.Doubts t row rd := by
  intro hd
  rcases State.label_cases hrd with rfl | ⟨u, l, e, rfl, he, ho, hcloses⟩
  · exact Nat.lt_asymm hd.1 h.begun
  · -- What was had from a tier of lists can only go into a resolved lookup.
    rw [hcloses] at hc
    have hu : u ≠ t := of_decide_eq_false hc
    have ht : t = .resolved := by
      by_cases ht : t = .resolved
      · exact ht
      · rw [hr.1 t hu.symm ht] at hw
        cases hw
    subst ht
    cases hq : u.source? l with
    | some q =>
      obtain ⟨rd', ho', rfl, -⟩ := (hs.founded u l e he).list hq
      obtain rfl : rd = rd' := by simpa [ho'] using ho
      exact h.not_reads hp hu he ho hd ((Tier.reads_iff hq).2 hd.2.1)
    | none =>
      cases u with
      | resolved => exact hu rfl
      | _ => cases hq

theorem answered (h : σ.Tidy sh s) (hs : s.Traced locales d)
    (hi : s.tasks[i]? = some ⟨call, .ask r next, log⟩) :
    σ.Tidy sh (s.answered i call r next log) := by
  have hm := List.mem_of_getElem? hi
  obtain ⟨hallowed, -⟩ := (hs.tasks _ hm).follows
  refine ⟨Nat.lt_succ_of_lt h.begun, h.path, ?_, ?_⟩
  · refine h.guards.answer log r ?_
    rintro t k v rfl rd hrd row hd hreads
    obtain ⟨w, hw, hg, -⟩ := hallowed
    rw [Log.derivation, hw] at hrd
    obtain ⟨x, hx, hrd⟩ := List.mem_flatMap.1 hrd
    obtain ⟨g, hg', hc⟩ := Cause.covered hd.2.2 hreads
    refine (h.awaits_or_passed hg' hc).resolve_right fun hp => ?_
    exact h.bars _ hm t w hw hg hp x hx rd hrd row hd
  · intro task ht t w hw hg hp x hx rd hrd row
    have hg : w.generation = (s.world.caches.tier t).generation :=
      hg.trans (World.answer_generation r s.world t)
    rcases List.mem_or_eq_of_mem_set ht with ht | rfl
    · exact h.bars task ht t w hw hg hp x hx rd hrd row
    · rcases window_record hw with ⟨g, -, rfl⟩ | ⟨w₀, hw₀, hgen, hmem⟩
      · cases hx
      · rcases hmem x hx with hx | ⟨rfl, hc⟩
        · exact h.bars _ hm t w₀ hw₀ (hgen ▸ hg) hp x hx rd hrd row
        · exact h.not_doubts_label hs hallowed hw₀ hp hrd hc row

end Tidy

end Sweep

/-- Every removal is tidy. -/
def State.Tidy (sh : Sharding) (s : State) : Prop := ∀ σ ∈ s.sweeps, σ.Tidy sh s

namespace State.Tidy

theorem start (earlier : List Mutation) (d : Directory) (enabled : Bool) (lifetime : Option Nat) :
    (State.start earlier d enabled lifetime).Tidy sh := List.forall_mem_nil _

theorem step (h : s.Tidy sh) (hs : s.Traced locales d) (move : Move) :
    (s.step locales sh move).Tidy sh := by
  intro σ hσ
  rcases State.step_cases locales sh s move with hf | ⟨i, call, r, next, log, hi, he⟩ | ⟨m, he⟩
  · rcases hf.sweeps σ hσ with hσ | ⟨cause, rfl⟩ | ⟨σ₀, hσ₀, hstep⟩
    · exact (h σ hσ).frame hs hf rfl rfl ⟨[], rfl⟩ (fun _ _ _ _ ha => ha) fun _ hp => .inl hp
    · exact Sweep.tidy_ofCause cause hf
    · have hcaches : (σ₀.step sh s.world.caches).1 = (s.step locales sh move).world.caches :=
        congrArg Prod.fst hstep
      obtain rfl : (σ₀.step sh s.world.caches).2 = σ := congrArg Prod.snd hstep
      refine (h σ₀ hσ₀).frame hs hf Sweep.step_cause Sweep.step_begun Sweep.step_remaining ?_ ?_
      · exact fun t k e he ha => Sweep.awaits_step ha (hcaches ▸ he)
      · exact fun t hp => hcaches ▸ Sweep.passed_step hp
  · rw [he] at hσ ⊢
    exact (h σ hσ).answered hs hi
  · rw [he] at hσ ⊢
    exact (h σ hσ).write m

theorem run (h : s.Tidy sh) (hs : s.Traced locales d) (moves : List Move) :
    (s.run locales sh moves).Tidy sh := by
  induction moves generalizing s with
  | nil => exact h
  | cons move moves ih => exact ih (h.step hs move) (hs.step move)

end State.Tidy

end Herald
