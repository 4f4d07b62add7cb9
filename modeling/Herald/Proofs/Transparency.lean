import Herald.Engine
import Herald.Proofs.Resolution.Fresh
import Herald.Proofs.Resolution.Reads

/-!
# Herald.Proofs.Transparency

An engine whose writes are reported answers as if it had no caches.

* `Query`: what an engine is asked for; `Query.value`: what it stands for.
* `Faults`: calls of the store and the directory that fail.
* `Event`: what happens to an engine; `World.history`: one event after another.
* `World.Settled`: all that the caches hand out is what its key stands for. Every event keeps it.
* `query_transparent`: what a query comes to is what it would come to without caches and faults, or
  a fault that one of its own calls met.
-/

namespace Herald

open Resolution

/-- What an engine is asked for. -/
inductive Query where
  | template (tenant : String) (application : Option String) (channel : Channel)
    (templateType locale : String)
  | types (channel : Channel) (domain : String)
  | applicationTypes (tenant application : String) (channel : Channel)

namespace Query

/-- What a query is answered with. -/
abbrev Answer : Query → Type
  | template .. => Template
  | types .. => List String
  | applicationTypes .. => List String

/-- The lookup for a query. -/
def lookup (e : Engine) : (q : Query) → Lookup q.Answer
  | template tenant application channel templateType locale =>
    e.resolve tenant application channel templateType locale
  | types channel domain => Engine.listTemplateTypes channel domain
  | applicationTypes tenant application channel =>
    applicationTemplateTypes tenant application channel

/-- What a query stands for. -/
def value (e : Engine) (h : Host) : (q : Query) → Except EngineError q.Answer
  | template tenant application channel templateType locale =>
    h.value e.locales .resolved
      (keyFor e.locales tenant application channel templateType locale)
  | types channel domain =>
    match h.tenantId domain with
    | .error fault => .error fault
    | .ok none => .error (.unknownTenant domain)
    | .ok (some tenant) => h.value e.locales .types ⟨tenant, channel⟩
  | applicationTypes tenant application channel =>
    (h.value e.locales .apps ⟨tenant, application, channel⟩).map fun ts =>
      Ordered.distinct (ts.map Template.templateType)

end Query

/-- A query comes to what it stands for, or hands on a fault. -/
theorem follows_query (e : Engine) (q : Query) :
    (q.lookup e).run.Follows (Allowed e.locales)
      (Accounts e.locales fun h => q.value e h) ([] : Log Unit) := by
  cases q with
  | template tenant application channel templateType locale =>
    exact follows_resolve.imp fun log r hr => hr.accounts
  | types channel domain =>
    refine Lookup.follows_bind.2 (Lookup.follows_ofExcept.2 ⟨trivial, fun x b => ?_⟩)
    have hx (h : Host) {log : Log Unit} (ha : Agrees (· = ·) e.locales h log)
        (hm : (⟨.tenantId domain, x, b⟩ : Exchange Unit) ∈ log) : h.tenantId domain = x :=
      ha ⟨.tenantId domain, x, b⟩ hm
    cases x with
    | error fault =>
      refine ⟨fun h ha => ?_, ?_⟩
      · simp only [Query.value, hx h ha List.mem_cons_self]
      · simp [Log.record, Exchange.failure?]
    | ok found =>
      cases found with
      | none =>
        refine ⟨fun h ha => ?_, ?_⟩
        · simp only [Query.value, hx h ha List.mem_cons_self]
        · simp [Log.record, Exchange.failure?]
      | some tenant =>
        refine (follows_types (shut_nil.cons (fun _ => rfl) fun _ => rfl)
          (List.forall_mem_singleton.2 rfl)).imp fun log r hr => ?_
        obtain ⟨hmem, hr⟩ := hr
        refine ⟨fun h ha => ?_, hr.failed⟩
        simp only [Query.value, hx h ha (hmem _ List.mem_cons_self)]
        exact hr.agrees h ha
  | applicationTypes tenant application channel =>
    have hl : (applicationTemplates tenant application channel).run.Follows (Allowed e.locales)
        (Accounts e.locales fun h => h.value e.locales .apps ⟨tenant, application, channel⟩)
        ([] : Log Unit) := follows_lookup .apps ⟨tenant, application, channel⟩
    refine Lookup.follows_bind.2 (hl.imp fun log r hr => ?_)
    have hv (h : Host) (ha : Agrees (· = ·) e.locales h log) :
        (Query.applicationTypes tenant application channel).value e h = r.map fun ts =>
          Ordered.distinct (ts.map Template.templateType) :=
      congrArg (Except.map _) (hr.agrees h ha)
    cases r with
    | error fault => exact ⟨hv, fun x hx f hf => by cases hr.failed x hx f hf; rfl⟩
    | ok ts => exact ⟨hv, fun x hx f hf => by cases hr.failed x hx f hf⟩

/-- Faults of the calls of a lookup, each at a place in its course. -/
structure Faults where
  store : Nat → Option StoreError := fun _ => none
  directory : Nat → Option EngineError := fun _ => none

/-- A call that is met by a fault, if there is one. -/
def met {α ε : Type} (x : Except ε α) : Option ε → Except ε α
  | none => x
  | some e => .error e

theorem met_cases {α ε : Type} (x : Except ε α) (fault : Option ε) :
    met x fault = x ∨ ∃ e, met x fault = .error e := by
  cases fault with
  | none => exact .inl rfl
  | some e => exact .inr ⟨e, rfl⟩

/-- A host whose calls are met by faults. -/
def Host.faulty (h : Host) (store : Option StoreError) (directory : Option EngineError) : Host where
  getTemplate scope path locale := met (h.getTemplate scope path locale) store
  listTemplates scope path := met (h.listTemplates scope path) store
  listTemplateTypes path tenant := met (h.listTemplateTypes path tenant) store
  tenantId domain := met (h.tenantId domain) directory
  organizationOf tenant := met (h.organizationOf tenant) directory

theorem Host.falters_faulty (h : Host) (store : Option StoreError)
    (directory : Option EngineError) : (h.faulty store directory).Falters h where
  getTemplate _ _ _ := met_cases ..
  listTemplates _ _ := met_cases ..
  listTemplateTypes _ _ := met_cases ..
  tenantId _ := met_cases ..
  organizationOf _ := met_cases ..

/-- What happens to an engine. -/
inductive Event where
  /-- A write, reported as a change or by its path. -/
  | write (m : Mutation) (byPath : Bool)
  /-- A tenant joins an organization, which is reported. -/
  | join (tenant organization : String)
  | register (domain tenant : String)
  /-- Entries are removed for no reason. -/
  | drop (cause : Cause)
  /-- A query is asked while time goes by and some calls fail. -/
  | ask (q : Query) (time : Nat → Nat) (faults : Faults)

namespace World

/-- Surroundings while time goes by and some calls fail. -/
def faulty (w : World) (time : Nat → Nat) (faults : Faults) : Scene where
  host i := (Host.of w.store w.directory).faulty (faults.store i) (faults.directory i)
  time := time
  caches := w.caches

/-- Reports a write. A path that is none of a template is refused. -/
def report (w : World) (m : Mutation) (byPath : Bool) : World :=
  if byPath then
    match Change.ofPath m.change.scope m.rowKey.path with
    | .ok change => { w with caches := (w.caches.apply change).state }
    | .error _ => w
  else { w with caches := (w.caches.apply m.change).state }

/-- The surroundings after an event. -/
def step (e : Engine) (w : World) : Event → World
  | .write m byPath => { w with store := m.apply w.store }.report m byPath
  | .join tenant organization =>
    { w with
      directory := w.directory.setOrganization tenant organization
      caches := (w.caches.invalidateTenant tenant).state }
  | .register domain tenant => { w with directory := w.directory.register domain tenant }
  | .drop cause => { w with caches := (w.caches.drop cause).state }
  | .ask q time faults =>
    { w with caches := ((w.faulty time faults).perform (q.lookup e)).state.caches }

/-- The surroundings after some events. -/
def history (e : Engine) (w : World) (events : List Event) : World := events.foldl (step e) w

/-- The store is sound, and all that the caches hand out is what its key stands for. -/
structure Settled (w : World) (locales : Locales) : Prop where
  sound : w.store.Sound
  faithful : w.caches.Faithful locales (.of w.store w.directory)

end World

/-- What is handed out after a removal stands for what it did, if only keys that were removed stand
for something else. -/
theorem Caches.Faithful.sweep {locales : Locales} {real real' : Host} {c : Caches}
    (h : c.Faithful locales real) (gs : List Target)
    (hv : ∀ t k, (∀ g ∈ gs, g.covers t k = false) →
      real'.value locales t k = real.value locales t k) :
    (c.sweep gs).state.Faithful locales real' :=
  (Caches.Serves.sweep h gs).imp fun t k _ hk => (hv t k hk.2).trans hk.1

namespace World.Settled

variable {w : World} {locales : Locales}

theorem launch (earlier : List Mutation) (directory : Directory) (enabled : Bool)
    (lifetime : Option Nat) :
    (World.launch earlier directory enabled lifetime).Settled locales where
  sound := Store.Sound.empty.after earlier
  faithful := (Caches.blank_new enabled lifetime).serves

/-- Keys that go by no row of a write stand for what they did. -/
theorem value_apply (h : w.Settled locales) (m : Mutation) {t : Tier} {k : t.Key}
    (hk : ∀ g ∈ m.change.targets, g.covers t k = false) :
    (Host.of (m.apply w.store) w.directory).value locales t k =
      (Host.of w.store w.directory).value locales t k := by
  refine value_congr (h.sound.apply m) h.sound (fun r hr => get?_apply ?_) fun _ _ => rfl
  rintro rfl
  obtain ⟨g, hg, hc⟩ := targets_cover (covers_rowKey m) hr
  rw [hk g hg] at hc
  cases hc

theorem write (h : w.Settled locales) (m : Mutation) (byPath : Bool) :
    ({ w with store := m.apply w.store }.report m byPath).Settled locales := by
  have reported : ({ w with
      store := m.apply w.store
      caches := (w.caches.apply m.change).state } : World).Settled locales :=
    ⟨h.sound.apply m, h.faithful.sweep m.change.targets fun t k => h.value_apply m⟩
  unfold World.report
  split
  · by_cases hm : m.apply w.store = w.store
    · -- A write that is refused leaves nothing to report, whatever its path.
      rw [hm]
      split
      · next change hc =>
        exact ⟨h.sound, h.faithful.sweep change.targets fun t k _ => rfl⟩
      · exact h
    · rw [ofPath_change h.sound hm]
      exact reported
  · exact reported

theorem join (h : w.Settled locales) (tenant organization : String) :
    ({ w with
      directory := w.directory.setOrganization tenant organization
      caches := (w.caches.invalidateTenant tenant).state } : World).Settled locales := by
  refine ⟨h.sound, h.faithful.sweep (Target.ofTenant tenant) fun t k hk => ?_⟩
  refine value_congr h.sound h.sound (fun _ _ => rfl) fun tenant' ht => ?_
  have hne : tenant' ≠ tenant := by
    rintro rfl
    cases t with
    | resolved =>
      cases ht
      have hr := hk (.resolved (·.tenant = k.tenant)) (by simp [Target.ofTenant])
      simp [Target.covers, Target.resolved] at hr
    | _ => cases ht
  show (w.directory.organizations.insert tenant organization).get? tenant' = _
  rw [Table.get?_insert, if_neg hne]
  rfl

/-- The directory of domains tells nothing of what a key stands for. -/
theorem register (h : w.Settled locales) (domain tenant : String) :
    ({ w with directory := w.directory.register domain tenant } : World).Settled locales :=
  ⟨h.sound, h.faithful.imp fun _ _ _ hk =>
    (value_congr h.sound h.sound (fun _ _ => rfl) fun _ _ => rfl).trans hk⟩

theorem faulty (h : w.Settled locales) (time : Nat → Nat) (faults : Faults) :
    (w.faulty time faults).Kept locales (.of w.store w.directory) [] where
  falters _ := (Host.of w.store w.directory).falters_faulty ..
  faithful := h.faithful
  fits := List.forall_mem_nil _

/-- Every event keeps it. -/
theorem step {e : Engine} (h : w.Settled e.locales) (event : Event) :
    (w.step e event).Settled e.locales := by
  cases event with
  | write m byPath => exact h.write m byPath
  | join tenant organization => exact h.join tenant organization
  | register domain tenant => exact h.register domain tenant
  | drop cause =>
    refine ⟨h.sound, ?_⟩
    show (w.caches.drop cause).state.Faithful _ _
    rw [Caches.drop_state]
    exact h.faithful.sweep cause.targets fun t k _ => rfl
  | ask q time faults =>
    obtain ⟨log, hk, -⟩ := (follows_query e q).run (fun r s log ha hk => Scene.Kept.answer ha hk)
      (h.faulty time faults)
    exact ⟨h.sound, hk.faithful⟩

theorem history {e : Engine} (h : w.Settled e.locales) (events : List Event) :
    (w.history e events).Settled e.locales := by
  induction events generalizing w with
  | nil => exact h
  | cons event events ih => exact ih (h.step event)

end World.Settled

/-- What a query stands for is what it comes to without caches and faults. -/
theorem perform_query (w : World) (e : Engine) (q : Query) :
    ({ w with caches := .new false none }.perform (q.lookup e)).answer =
      q.value e (.of w.store w.directory) := by
  rw [World.perform_answer]
  exact perform_steady (follows_query e q) (Caches.blank_new false none)

/-- After any history, a query comes to what it would come to without caches and faults, or to a
fault that one of its own calls met. -/
theorem query_transparent (e : Engine) (earlier : List Mutation) (directory : Directory)
    (enabled : Bool) (lifetime : Option Nat) (events : List Event) (q : Query) (time : Nat → Nat)
    (faults : Faults) :
    let w := (World.launch earlier directory enabled lifetime).history e events
    let r := (w.faulty time faults).perform (q.lookup e)
    r.answer = ({ w with caches := .new false none }.perform (q.lookup e)).answer ∨
      ∃ fault ∈ r.state.faults, r.answer = .error fault := by
  intro w r
  have hw : w.Settled e.locales := (World.Settled.launch ..).history events
  obtain ⟨log, hk, hq⟩ := (follows_query e q).run (fun r s log ha hk => Scene.Kept.answer ha hk)
    (hw.faulty time faults)
  by_cases ha : Agrees (· = ·) e.locales (.of w.store w.directory) log
  · exact .inl ((hq.agrees _ ha).symm.trans (perform_query w e q).symm)
  · obtain ⟨x, hx, hn⟩ : ∃ x ∈ log, ¬ x.Fits (· = ·) e.locales (.of w.store w.directory) := by
      simpa [Agrees] using ha
    obtain ⟨fault, hfault, hf⟩ := (hk.fits x hx).resolve_left hn
    exact .inr ⟨fault, hfault, hq.failed x hx fault hf⟩

end Herald
