import Herald.Proofs.Resolution.Order
import Herald.Proofs.Store.Rows

/-!
# Herald.Proofs.Resolution.Fresh

Lookups in the surroundings of a program.

* `World.perform_answer`: they are lookups in a scene that stands still.
* `Accounts`: a lookup comes to what every host gives that says the same, or hands on a fault.
* `fresh_eq_value`: what a lookup finds without the caches is what its key stands for.
-/

namespace Herald

open Resolution

variable {β : Type} {locales : Locales}

/-- A lookup comes to what every host gives that says the same, or hands on the fault that it was
answered. -/
structure Accounts {α : Type} (locales : Locales) (value : Host → Except EngineError α)
    (log : Log β) (r : Except EngineError α) : Prop where
  agrees : ∀ h, Agrees (· = ·) locales h log → value h = r
  failed : ∀ x ∈ log, ∀ e, x.failure? = some e → r = .error e

theorem Resolves.accounts {key : TemplateKey} {log : Log β} {r : Except EngineError Template}
    (h : Resolves locales key log r) :
    Accounts locales (fun h => h.value locales .resolved key) log r :=
  ⟨fun host ha => h.agrees host ha.same, h.failed⟩

section

variable {t : Tier} {k : t.Key} {called : Except StoreError t.Value → β → Exchange β}
  {log log' : Log β} {r : Except EngineError t.Value}

theorem ReadThrough.mem (h : ReadThrough t k called log log' r) {x : Exchange β} (hx : x ∈ log) :
    x ∈ log' := by
  cases h <;> simp [hx]

theorem ReadThrough.accounts (h : ReadThrough t k called log log' r)
    (hlog : ∀ x ∈ log, x.failure? = none)
    (hfits : ∀ x b host, (called x b).Fits (· = ·) locales host →
      host.value locales t k = x.mapError .store)
    (hfailed : ∀ x b e, (called x b).failure? = some e → x.mapError .store = .error e) :
    Accounts locales (fun h => h.value locales t k) log' r := by
  have hlog (x : Exchange β) (hx : x ∈ log) (e : EngineError) : x.failure? ≠ some e := by
    simp [hlog x hx]
  cases h with
  | hit g v b b' =>
    refine ⟨fun host ha => fits_hit.1 (ha _ List.mem_cons_self), ?_⟩
    simpa [Exchange.failure?_lookup, Exchange.failure?_generation] using hlog
  | filled g v written b b' c b'' =>
    refine ⟨fun host ha => ?_, ?_⟩
    · exact hfits (.ok v) c host (ha _ (List.mem_cons_of_mem _ List.mem_cons_self))
    · simp only [List.forall_mem_cons, Exchange.failure?_lookup, Exchange.failure?_generation,
        Exchange.failure?_fill]
      exact ⟨by simp, hfailed (.ok v) c, by simp, by simp,
        fun x hx e he => absurd he (hlog x hx e)⟩
  | failed g e b b' c =>
    refine ⟨fun host ha => hfits (.error e) c host (ha _ List.mem_cons_self), ?_⟩
    simp only [List.forall_mem_cons, Exchange.failure?_lookup, Exchange.failure?_generation]
    exact ⟨hfailed (.error e) c, by simp, by simp, fun x hx e he => absurd he (hlog x hx e)⟩

end

theorem shut_nil : Shut ([] : Log β) := fun _ _ => rfl

theorem mapError_store {α : Type} {x y : Except StoreError α} (h : x = y) :
    x.mapError EngineError.store = y.mapError .store := congrArg _ h

section

variable [Nonempty β]

theorem follows_types {tenant : String} {channel : Channel} {log : Log β} (hshut : Shut log)
    (hlog : ∀ x ∈ log, x.failure? = none) :
    (templateTypes tenant channel).run.Follows (Allowed locales)
      (fun log' r => (∀ x ∈ log, x ∈ log') ∧
        Accounts locales (fun h => h.value locales .types ⟨tenant, channel⟩) log' r) log :=
  (follows_templateTypes hshut).imp fun _ _ hr =>
    ⟨fun _ hx => hr.mem hx, hr.accounts hlog (fun _ _ _ h => mapError_store h)
      fun x b e => (Exchange.failure?_listTemplateTypes _ _ x b e).1⟩

/-- The lookup of each tier accounts for what its key stands for. -/
theorem follows_lookup (t : Tier) (k : t.Key) :
    (t.lookup locales k).run.Follows (Allowed locales)
      (Accounts locales fun h => h.value locales t k) ([] : Log β) := by
  cases t with
  | types => exact (follows_types shut_nil (List.forall_mem_nil _)).imp fun _ _ hr => hr.2
  | apps =>
    exact (follows_applicationTemplates shut_nil).imp fun _ _ hr => hr.accounts
      (List.forall_mem_nil _) (fun _ _ _ h => mapError_store (listFits_eq.1 h))
      fun x b e => (Exchange.failure?_listTemplates _ _ x b e).1
  | orgs =>
    exact (follows_organizationTemplates shut_nil).imp fun _ _ hr => hr.accounts
      (List.forall_mem_nil _) (fun _ _ _ h => mapError_store (listFits_eq.1 h))
      fun x b e => (Exchange.failure?_listTemplates _ _ x b e).1
  | resolved => exact follows_resolveKey.imp fun log r hr => hr.accounts

end

/-- In a scene that stands still, with nothing in the caches, a lookup finds what it accounts
for. -/
theorem perform_steady {α : Type} {l : Lookup α} {value : Host → Except EngineError α} {host : Host}
    {time : Nat → Nat} {caches : Caches}
    (hl : l.run.Follows (Allowed locales) (Accounts locales value) ([] : Log Unit))
    (hc : caches.Blank) : ((Scene.steady host time caches).perform l).answer = value host := by
  obtain ⟨log, hb, hq⟩ := Scene.Began.perform host time hl hc
  exact (hq.agrees host hb.fits).symm

/-- Surroundings with a store that was written before, and nothing in the caches. -/
def World.launch (earlier : List Mutation) (directory : Directory) (enabled : Bool)
    (lifetime : Option Nat) : World where
  store := Store.empty.after earlier
  directory := directory
  caches := .new enabled lifetime

/-- Surroundings as a scene. -/
def World.scene (w : World) : Scene :=
  .steady (.of w.store w.directory) (fun _ => w.now) w.caches

/-- A scene that answers as the surroundings do. -/
structure Scene.Shows (w : World) (s : Scene) : Prop where
  host : ∀ i, s.host i = .of w.store w.directory
  time : ∀ i, s.time i = w.now
  caches : s.caches = w.caches

theorem Scene.Shows.answer {w : World} {s : Scene} (h : s.Shows w) (r : Request) :
    (World.answer r w).answer = (Scene.answer r s).answer ∧
      (Scene.answer r s).state.Shows (World.answer r w).state := by
  cases r with
  | generation t => exact ⟨by simp [World.answer, Scene.answer, h.caches], h.host, h.time, h.caches⟩
  | lookup t k =>
    simp only [World.answer, Scene.answer, World.ofCaches, Scene.ofCaches, h.caches, h.time,
      true_and]
    exact ⟨h.host, h.time, rfl⟩
  | fill t k v g =>
    simp only [World.answer, Scene.answer, World.ofCaches, Scene.ofCaches, h.caches, h.time,
      true_and]
    exact ⟨h.host, h.time, rfl⟩
  | note o => exact ⟨rfl, h⟩
  | _ =>
    simp only [World.answer, Scene.answer, Scene.told, h.host, Host.of, true_and]
    exact ⟨h.host, h.time, h.caches⟩

theorem Scene.Shows.run {α : Type} {w : World} {s : Scene} (h : s.Shows w) (p : Program α) :
    (p.run World.answer w).answer = (p.run Scene.answer s).answer ∧
      (p.run Scene.answer s).state.Shows (p.run World.answer w).state := by
  induction p generalizing w s with
  | done a => exact ⟨rfl, h⟩
  | ask r next ih =>
    obtain ⟨ha, hs⟩ := h.answer r
    simp only [Program.run, ha]
    exact ih _ hs

theorem World.perform_answer {α : Type} (w : World) (l : Lookup α) :
    (w.perform l).answer = (w.scene.perform l).answer :=
  (Scene.Shows.run ⟨fun _ => rfl, fun _ => rfl, rfl⟩ l.run).1

/-- What is found without the caches is what a key stands for. -/
theorem fresh_eq_value (w : World) (locales : Locales) (t : Tier) (k : t.Key) :
    w.fresh locales t k = (Host.of w.store w.directory).value locales t k := by
  rw [World.fresh, World.perform_answer]
  exact perform_steady (follows_lookup t k) (Caches.blank_new false none)

end Herald
