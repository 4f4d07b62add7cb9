import Herald.Proofs.Resolution.Findings
import Herald.Proofs.Resolution.Scene

/-!
# Herald.Proofs.Resolution.Retry

A lookup after one that failed.

* `Caches.Lacks`: no resolved lookup of a key can be had.
* `Scene.Vain`: what a scene and a lookup have in common as long as the lookup has no answer.
  `Vain.answer`: every step keeps it.
* `Scene.lacks_of_error`: a lookup that fails leaves nothing behind for its key.
  `Scene.asks_of_lacks`: so the next one asks for the row of the tenant again.
-/

namespace Herald

open Resolution

/-- No resolved lookup of a key can be had. -/
def Caches.Lacks (key : TemplateKey) (c : Caches) : Prop :=
  (c.tier .resolved).Serves fun k _ => k ≠ key

/-- Surroundings that begin with the caches of others, and in which nothing was asked for yet. -/
def Scene.later (s : Scene) (host : Nat → Host) (time : Nat → Nat) : Scene where
  host := host
  time := time
  caches := s.caches

@[simp] theorem Scene.later_caches (s : Scene) (host : Nat → Host) (time : Nat → Nat) :
    (s.later host time).caches = s.caches := rfl

/-- What is missing once stays missing until it is filled in. -/
theorem Cache.serves_of_miss {K V : Type} [DecidableEq K] {c : Cache K V} {now : Nat} {k : K}
    (h : (c.get now k).answer = none) : (c.get now k).state.Serves fun l _ => l ≠ k := by
  rcases get_miss h with hd | hn
  · refine .inl ?_
    rw [get_enabled, hd]
  · refine .inr fun l e hl => ?_
    rintro rfl
    rw [hn] at hl
    cases hl

/-- What a scene and a lookup have in common. `missing` tells that there was nothing in the caches
for its key when it began. -/
structure Scene.Vain (key : TemplateKey) (missing : Prop) (s : Scene) (log : Log Unit) : Prop where
  lacks : (missing ∨ ∃ b, ⟨.lookup .resolved key, none, b⟩ ∈ log) →
    (∀ x ∈ log, x.closes .resolved = false) → s.caches.Lacks key
  missed : missing → ∀ v b, ⟨.lookup .resolved key, some v, b⟩ ∉ log
  called : ∀ scope path locale x b, ⟨.getTemplate scope path locale, x, b⟩ ∈ log →
    .getTemplate scope path locale ∈ s.calls

namespace Scene.Vain

variable {locales : Locales} {key : TemplateKey} {missing : Prop} {s s' : Scene} {log : Log Unit}
  {x : Exchange Unit}

theorem add (h : s.Vain key missing log) (hc : x.closes .resolved = false →
      s.caches.Lacks key → s'.caches.Lacks key)
    (hx : ∀ t k, x.request ≠ .lookup t k) (hs : ∀ r ∈ s.calls, r ∈ s'.calls)
    (hr : ∀ scope path locale, x.request = .getTemplate scope path locale →
      .getTemplate scope path locale ∈ s'.calls) :
    s'.Vain key missing (x :: log) where
  lacks hm hn := by
    obtain ⟨hn, hlog⟩ := List.forall_mem_cons.1 hn
    refine hc hn (h.lacks (hm.imp_right ?_) hlog)
    rintro ⟨b, hb⟩
    rcases List.mem_cons.1 hb with hb | hb
    · exact absurd (congrArg Exchange.request hb.symm) (hx _ _)
    · exact ⟨b, hb⟩
  missed hm v b hb := by
    rcases List.mem_cons.1 hb with hb | hb
    · exact hx _ _ (congrArg Exchange.request hb.symm)
    · exact h.missed hm v b hb
  called scope path locale a b hb := by
    rcases List.mem_cons.1 hb with hb | hb
    · exact hr scope path locale (congrArg Exchange.request hb.symm)
    · exact hs _ (h.called scope path locale a b hb)

theorem told {α ε : Type} {r : Request} {fault : ε → EngineError} {a : Except ε α}
    (h : s.Vain key missing log) (hx : ∀ t k, r ≠ .lookup t k) (hr : x.request = r) :
    (s.told r fault a).state.Vain key missing (x :: log) := by
  subst hr
  refine h.add (fun _ hl => hl) hx (fun _ hm => List.mem_cons_of_mem _ hm) ?_
  intro scope path locale hr
  rw [← hr]
  exact List.mem_cons_self

theorem lookup {t : Tier} {k : t.Key} {a : Option t.Value} (h : s.Vain key missing log)
    (hg : Grounded locales log (.lookup t k))
    (ha : (s.caches.onTier t (·.get (s.time s.asked) k)).answer = a) :
    (s.ofCaches (s.caches.onTier t (·.get (s.time s.asked) k))).state.Vain key missing
      (⟨.lookup t k, a, ()⟩ :: log) where
  lacks hm hn := by
    obtain ⟨hc, hlog⟩ := List.forall_mem_cons.1 hn
    show Cache.Serves _ ((s.caches.onTier t (·.get (s.time s.asked) k)).state.tier .resolved)
    by_cases ht : t = .resolved
    · subst ht
      rw [Caches.onTier_tier_self]
      cases a with
      | some v => cases hc
      | none =>
        -- a miss of the key tells that it is not there; one of another key tells nothing of it
        by_cases hk : k = key
        · subst hk
          exact Cache.serves_of_miss ha
        · refine Cache.Serves.get (h.lacks (hm.imp_right ?_) hlog)
          rintro ⟨b, hb⟩
          rcases List.mem_cons.1 hb with hb | hb
          · cases hb
            exact absurd rfl hk
          · exact ⟨b, hb⟩
    · rw [Caches.onTier_tier_ne (Ne.symm ht)]
      refine h.lacks (hm.imp_right ?_) hlog
      rintro ⟨b, hb⟩
      rcases List.mem_cons.1 hb with hb | hb
      · cases hb
        exact absurd rfl ht
      · exact ⟨b, hb⟩
  missed hm v b hb := by
    rcases List.mem_cons.1 hb with hb | hb
    · cases hb
      exact (h.lacks (.inl hm) (hg rfl)).hit ha rfl
    · exact h.missed hm v b hb
  called scope path locale x b hb := by
    rcases List.mem_cons.1 hb with hb | hb
    · cases hb
    · exact h.called scope path locale x b hb

theorem answer {r : Request} (hg : Grounded locales log r) (h : s.Vain key missing log) :
    (Scene.answer r s).state.Vain key missing (log.record r (Scene.answer r s).answer ()) := by
  cases r with
  | generation t => exact h.add (fun _ hl => hl) nofun (fun _ hm => hm) nofun
  | lookup t k => exact h.lookup hg rfl
  | fill t k v g =>
    refine h.add (fun hc hl => ?_) nofun (fun _ hm => hm) nofun
    have hne : Tier.resolved ≠ t := Ne.symm (of_decide_eq_false hc)
    show Cache.Serves _ ((s.caches.onTier t (·.fill (s.time s.asked) k v g)).state.tier .resolved)
    rw [Caches.onTier_tier_ne hne]
    exact hl
  | getTemplate scope path locale => exact h.told nofun rfl
  | listTemplates scope path => exact h.told nofun rfl
  | listTemplateTypes path tenant => exact h.told nofun rfl
  | tenantId domain => exact h.told nofun rfl
  | organizationOf tenant => exact h.told nofun rfl
  | note o => exact h

theorem start (h : missing → s.caches.Lacks key) : s.Vain key missing [] where
  lacks hm _ := by
    rcases hm with hm | ⟨b, hb⟩
    · exact h hm
    · cases hb
  missed _ _ _ hb := by cases hb
  called _ _ _ _ _ hb := by cases hb

variable {tenant : String} {application : Option String} {channel : Channel}
  {templateType raw : String}

theorem perform
    (h : missing → s.caches.Lacks (keyFor locales tenant application channel templateType raw)) :
    let run := s.perform (resolve locales tenant application channel templateType raw)
    ∃ log, run.state.Vain (keyFor locales tenant application channel templateType raw) missing log ∧
      Concludes locales (keyFor locales tenant application channel templateType raw) log
        run.answer :=
  grounded_resolve.run (b := ()) (fun _ _ _ hg h => h.answer hg) (start h)

end Scene.Vain

section

variable {locales : Locales} {tenant : String} {application : Option String} {channel : Channel}
  {templateType raw : String} {s : Scene}

/-- A lookup that fails leaves nothing behind for its key. -/
theorem Scene.lacks_of_error {e : EngineError}
    (he : (s.perform (resolve locales tenant application channel templateType raw)).answer =
      .error e) :
    (s.perform (resolve locales tenant application channel templateType raw)).state.caches.Lacks
      (keyFor locales tenant application channel templateType raw) := by
  obtain ⟨log, hv, hq⟩ := @Vain.perform locales False s tenant application channel templateType raw
    False.elim
  rw [he] at hq
  cases hq with
  | searched hmissed _ _ _ hfaulty => exact hv.lacks (.inr ⟨_, hmissed⟩) (hfaulty e rfl)

/-- A lookup whose key is not in the cache asks for the row of the tenant. -/
theorem Scene.asks_of_lacks
    (hl : s.caches.Lacks (keyFor locales tenant application channel templateType raw)) :
    .getTemplate (.tenant tenant) (channel.templatePath templateType) (locales.normalize raw) ∈
      (s.perform (resolve locales tenant application channel templateType raw)).state.calls := by
  obtain ⟨log, hv, hq⟩ := @Vain.perform locales True s tenant application channel templateType raw
    fun _ => hl
  generalize (s.perform (resolve locales tenant application channel templateType raw)).answer = r
    at hq
  cases hq with
  | recalled hx => exact absurd hx (hv.missed trivial _ _)
  | searched _ hrow =>
    obtain ⟨x, b, hx⟩ := hrow
    exact hv.called _ _ _ _ _ hx

/-- A lookup after one that failed asks for it, whatever is answered then. -/
theorem Scene.asks_again {e : EngineError}
    (he : (s.perform (resolve locales tenant application channel templateType raw)).answer =
      .error e) (host : Nat → Host) (time : Nat → Nat) :
    .getTemplate (.tenant tenant) (channel.templatePath templateType) (locales.normalize raw) ∈
      ((s.perform (resolve locales tenant application channel templateType raw)).state.later
        host time |>.perform
          (resolve locales tenant application channel templateType raw)).state.calls := by
  refine asks_of_lacks ?_
  rw [later_caches]
  exact lacks_of_error he

end

end Herald
