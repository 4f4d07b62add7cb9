import Herald.Proofs.Cache.Entries
import Herald.Proofs.Resolution.Search
import Herald.Resolution.World

/-!
# Herald.Proofs.Resolution.Scene

Lookups in surroundings of any kind.

* `Scene`: caches, a time, and a store and a directory that may answer each request otherwise.
* `Scene.perform`: running a lookup; the scene keeps the calls and the faults that they met.
* `Host.Falters`: a host that answers like another one or fails.
* `Scene.Kept`: what a scene and the exchanges with it have in common. `Kept.answer`: every step of
  a lookup keeps it.
-/

namespace Herald

open Resolution

/-- Surroundings whose store and directory answer each request as a host of that moment does. -/
structure Scene where
  host : Nat → Host
  time : Nat → Nat
  caches : Caches
  asked : Nat := 0
  /-- The calls of the store and the directory, the last one first. -/
  calls : List Request := []
  /-- The faults they were answered with, the last one first. -/
  faults : List EngineError := []

namespace Scene

variable {α ε : Type}

/-- One more answer of the store or the directory. -/
def told (s : Scene) (r : Request) (fault : ε → EngineError) (x : Except ε α) :
    Reply Scene (Except ε α) where
  answer := x
  state := { s with
    asked := s.asked + 1
    calls := r :: s.calls
    faults := match x with
      | .ok _ => s.faults
      | .error e => fault e :: s.faults }
  notes := []

/-- One more answer of the caches. -/
def ofCaches (s : Scene) (r : Reply Caches α) : Reply Scene α :=
  ⟨r.answer, { s with asked := s.asked + 1, caches := r.state }, r.notes⟩

/-- How a scene answers a request. -/
def answer : (r : Request) → Scene → Reply Scene r.Answer
  | .generation t, s => ⟨(s.caches.tier t).generation, { s with asked := s.asked + 1 }, []⟩
  | .lookup t k, s => s.ofCaches (s.caches.onTier t (·.get (s.time s.asked) k))
  | .fill t k v g, s => s.ofCaches (s.caches.onTier t (·.fill (s.time s.asked) k v g))
  | .getTemplate scope path locale, s =>
    s.told (.getTemplate scope path locale) .store ((s.host s.asked).getTemplate scope path locale)
  | .listTemplates scope path, s =>
    s.told (.listTemplates scope path) .store ((s.host s.asked).listTemplates scope path)
  | .listTemplateTypes path tenant, s =>
    s.told (.listTemplateTypes path tenant) .store
      ((s.host s.asked).listTemplateTypes path tenant)
  | .tenantId domain, s => s.told (.tenantId domain) id ((s.host s.asked).tenantId domain)
  | .organizationOf tenant, s =>
    s.told (.organizationOf tenant) id ((s.host s.asked).organizationOf tenant)
  | .note o, s => ⟨(), s, [o]⟩

/-- Runs a lookup. -/
def perform (l : Lookup α) (s : Scene) : Reply Scene (Except EngineError α) := l.run.run answer s

end Scene

/-- A host answers like another one, or fails. -/
structure Host.Falters (h real : Host) : Prop where
  getTemplate : ∀ scope path locale,
    h.getTemplate scope path locale = real.getTemplate scope path locale ∨
      ∃ e, h.getTemplate scope path locale = .error e
  listTemplates : ∀ scope path, h.listTemplates scope path = real.listTemplates scope path ∨
    ∃ e, h.listTemplates scope path = .error e
  listTemplateTypes : ∀ path tenant,
    h.listTemplateTypes path tenant = real.listTemplateTypes path tenant ∨
      ∃ e, h.listTemplateTypes path tenant = .error e
  tenantId : ∀ domain, h.tenantId domain = real.tenantId domain ∨ ∃ e, h.tenantId domain = .error e
  organizationOf : ∀ tenant, h.organizationOf tenant = real.organizationOf tenant ∨
    ∃ e, h.organizationOf tenant = .error e

theorem Host.Falters.refl (h : Host) : h.Falters h :=
  ⟨fun _ _ _ => .inl rfl, fun _ _ => .inl rfl, fun _ _ => .inl rfl, fun _ => .inl rfl,
    fun _ => .inl rfl⟩

/-- All that the caches hand out is what its key stands for. -/
def Caches.Faithful (locales : Locales) (real : Host) (c : Caches) : Prop :=
  c.Serves fun t k v => real.value locales t k = .ok v

/-- What a scene and the exchanges with it have in common, where the real answers are those of one
host. -/
structure Scene.Kept (locales : Locales) (real : Host) (s : Scene) (log : Log Unit) : Prop where
  falters : ∀ i, (s.host i).Falters real
  faithful : s.caches.Faithful locales real
  /-- What was exchanged is real, or a fault that the scene has kept. -/
  fits : ∀ x ∈ log, x.Fits (· = ·) locales real ∨ ∃ e ∈ s.faults, x.failure? = some e

namespace Scene.Kept

variable {locales : Locales} {real : Host} {s : Scene} {log : Log Unit}

/-- An exchange with the store or the directory. -/
theorem told {α ε : Type} {r : Request} {fault : ε → EngineError} {x : Except ε α}
    {f : Except ε α → Exchange Unit} (h : s.Kept locales real log)
    (hf : ∀ e, (f (.error e)).failure? = some (fault e))
    (hx : (f x).Fits (· = ·) locales real ∨ ∃ e, x = .error e) :
    (s.told r fault x).state.Kept locales real (f x :: log) where
  falters := h.falters
  faithful := h.faithful
  fits z hz := by
    rcases List.mem_cons.1 hz with rfl | hz
    · refine hx.imp_right ?_
      rintro ⟨e, rfl⟩
      exact ⟨fault e, List.mem_cons_self, hf e⟩
    · refine (h.fits z hz).imp_right ?_
      rintro ⟨e, he, hz⟩
      refine ⟨e, ?_, hz⟩
      cases x with
      | ok a => exact he
      | error e' => exact List.mem_cons_of_mem _ he

/-- An exchange with the caches. -/
theorem ofCaches {α : Type} {reply : Reply Caches α} {y : Exchange Unit}
    (h : s.Kept locales real log) (hc : reply.state.Faithful locales real)
    (hy : y.Fits (· = ·) locales real) :
    (s.ofCaches reply).state.Kept locales real (y :: log) where
  falters := h.falters
  faithful := hc
  fits z hz := by
    rcases List.mem_cons.1 hz with rfl | hz
    · exact .inl hy
    · exact h.fits z hz

/-- What is looked up is what its key stands for. -/
theorem fits_lookup {t : Tier} {k : t.Key} {x : Option t.Value} {now : Nat}
    (hc : s.caches.Faithful locales real)
    (hx : (s.caches.onTier t (·.get now k)).answer = x) :
    (⟨.lookup t k, x, ()⟩ : Exchange Unit).Fits (· = ·) locales real := by
  cases x with
  | none => cases t <;> trivial
  | some v => exact fits_hit.2 ((hc t).hit hx)

/-- What a lookup fills in is what its key stands for. -/
theorem value_of_fill {t : Tier} {k : t.Key} {v : t.Value} {g : Nat}
    (h : s.Kept locales real log) (ha : Allowed locales log (.fill t k v g)) :
    real.value locales t k = .ok v := by
  obtain ⟨w, hw, -, hs⟩ := ha
  refine hs.value fun x hx hf => ?_
  rcases h.fits x (mem_of_window hw x hx) with hfit | ⟨e, -, he⟩
  · exact hfit
  · rw [hf] at he
    cases he

/-- Every step of a lookup keeps it. -/
theorem answer {r : Request} (ha : Allowed locales log r) (h : s.Kept locales real log) :
    (Scene.answer r s).state.Kept locales real (log.record r (Scene.answer r s).answer ()) := by
  have hh := h.falters s.asked
  cases r with
  | generation t => exact ⟨h.falters, h.faithful, List.forall_mem_cons.2 ⟨.inl trivial, h.fits⟩⟩
  | lookup t k =>
    exact h.ofCaches (h.faithful.get t k _) (fits_lookup h.faithful rfl)
  | fill t k v g =>
    exact h.ofCaches (h.faithful.fill (h.value_of_fill ha) _ _) trivial
  | getTemplate scope path locale =>
    exact h.told (f := fun x => ⟨.getTemplate scope path locale, x, ()⟩) (fun _ => rfl)
      ((hh.getTemplate scope path locale).imp_left Eq.symm)
  | listTemplates scope path =>
    exact h.told (f := fun x => ⟨.listTemplates scope path, x, ()⟩) (fun _ => rfl)
      ((hh.listTemplates scope path).imp_left fun h => listFits_eq.2 h.symm)
  | listTemplateTypes path tenant =>
    exact h.told (f := fun x => ⟨.listTemplateTypes path tenant, x, ()⟩) (fun _ => rfl)
      ((hh.listTemplateTypes path tenant).imp_left Eq.symm)
  | tenantId domain =>
    exact h.told (f := fun x => ⟨.tenantId domain, x, ()⟩) (fun _ => rfl)
      ((hh.tenantId domain).imp_left Eq.symm)
  | organizationOf tenant =>
    exact h.told (f := fun x => ⟨.organizationOf tenant, x, ()⟩) (fun _ => rfl)
      ((hh.organizationOf tenant).imp_left Eq.symm)
  | note o => exact h

end Scene.Kept

end Herald
