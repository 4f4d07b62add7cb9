import Herald.Proofs.Resolution.ReadThrough

/-!
# Herald.Proofs.Resolution.Settles

Looking at probes, told by exchanges.

* `Underway`: a search goes on since the generation of the resolved lookups was looked at.
* `Finds`: a probe was looked at, and found what every host has that agrees with the exchanges.
* `Settles`: so were some probes, in order, up to the first that does not miss.
* `finds_row`, `finds_membership`, `ReadThrough.finds`: the exchanges with which a probe is looked
  at.
-/

namespace Herald

open Resolution Lookup

variable {β : Type} {locales : Locales} {key : TemplateKey} {g : Nat} {log log' : Log β}

/-- An exchange of a search before its end. -/
structure Exchange.Belongs (key : TemplateKey) (x : Exchange β) : Prop where
  opens : x.opens? .resolved = none
  closes : x.closes .resolved = false
  involved : key.Involves x.request
  sound : x.failure? = none

/-- A search for a key goes on, since the generation `g` was looked at. -/
def Underway (key : TemplateKey) (g : Nat) (log : Log β) : Prop :=
  Shut log ∧ ∃ xs b, log = xs ++ [⟨.generation .resolved, g, b⟩] ∧ ∀ x ∈ xs, x.Belongs key

/-- A host agrees as far as a search for a key can tell. -/
abbrev AgreesFor (locales : Locales) (key : TemplateKey) (h : Host) (log : Log β) : Prop :=
  Agrees (SameFor key.templateType) locales h log

/-- The calls of the exchanges, the last one first. -/
def Log.consulted (log : Log β) : List Request := log.filterMap Exchange.consults?

/-- A search looked at a probe. -/
structure Finds (locales : Locales) (key : TemplateKey) (g : Nat) (p : Probe) (log log' : Log β)
    (r : Except EngineError (Option Template)) : Prop where
  underway : ∀ t, r = .ok t → Underway key g log'
  agrees : ∀ h, AgreesFor locales key h log' → AgreesFor locales key h log ∧ h.look key p = r
  consulted : log'.consulted = p.request key :: log.consulted
  failed : ∀ x ∈ log', ∀ e, x.failure? = some e → r = .error e

/-- What a search hands out, given what its probes decide. -/
def settled : Option (Except EngineError Template) → Except EngineError (Option Template)
  | none => .ok none
  | some r => r.map some

/-- A search looked at its probes in order, up to the first that does not miss. -/
structure Settles (locales : Locales) (key : TemplateKey) (g : Nat) (ps : Host → List Probe)
    (log log' : Log β) (r : Except EngineError (Option Template)) : Prop where
  underway : ∀ t, r = .ok t → Underway key g log'
  agrees : ∀ h, AgreesFor locales key h log' →
    AgreesFor locales key h log ∧ settled (h.decided key (ps h)) = r ∧
      log'.consulted =
        ((h.upToFirst key (ps h)).map (Probe.request key)).reverse ++ log.consulted
  failed : ∀ x ∈ log', ∀ e, x.failure? = some e → r = .error e

namespace Underway

theorem sound (h : Underway key g log) : ∀ x ∈ log, x.failure? = none := by
  obtain ⟨-, xs, b, rfl, hxs⟩ := h
  intro x hx
  rcases List.mem_append.1 hx with hx | hx
  · exact (hxs x hx).sound
  · rw [List.mem_singleton.1 hx]
    rfl

theorem add (h : Underway key g log) (ys : Log β) (hys : ∀ x ∈ ys, x.Belongs key)
    (hs : Shut (ys ++ log)) : Underway key g (ys ++ log) := by
  obtain ⟨-, xs, b, rfl, hxs⟩ := h
  refine ⟨hs, ys ++ xs, b, by simp, fun x hx => ?_⟩
  rcases List.mem_append.1 hx with hx | hx
  · exact hys x hx
  · exact hxs x hx

/-- The window of a search holds all its exchanges. -/
theorem window (locales : Locales) (h : Underway key g log) :
    ∃ xs, window .resolved log = some ⟨g, xs⟩ ∧ (∀ x ∈ xs, x.Belongs key) ∧
      ∀ like h, Agrees like locales h xs → Agrees like locales h log := by
  obtain ⟨-, xs, b, rfl, hxs⟩ := h
  refine ⟨xs, ?_, hxs, fun like h hxs x hx => ?_⟩
  · induction xs with
    | nil => exact window_opens (by simp [Exchange.opens?])
    | cons x xs ih =>
      have hx := hxs x List.mem_cons_self
      rw [List.cons_append, window_adds hx.opens hx.closes,
        ih fun y hy => hxs y (List.mem_cons_of_mem _ hy)]
      rfl
  · rcases List.mem_append.1 hx with hx | hx
    · exact hxs x hx
    · rw [List.mem_singleton.1 hx]
      trivial

end Underway

/-- An exchange that concerns no cache leaves the windows on the lists shut. -/
theorem Shut.cons {x : Exchange β} (h : Shut log) (ho : ∀ u, x.opens? u = none)
    (hc : ∀ u, x.closes u = false) : Shut (x :: log) := by
  intro u hu
  rw [window_adds (ho u) (hc u), h u hu]
  rfl

namespace Settles

variable {p : Probe} {ps : Host → List Probe} {log'' : Log β}
  {r : Except EngineError (Option Template)}

theorem nil (h : Underway key g log) : Settles locales key g (fun _ => []) log log (.ok none) where
  underway _ _ := h
  agrees _ ha := ⟨ha, rfl, rfl⟩
  failed x hx e he := by simp [h.sound x hx] at he

/-- Only the hosts that agree matter. -/
theorem congr {qs : Host → List Probe} (h : Settles locales key g ps log log' r)
    (hq : ∀ h, AgreesFor locales key h log' → qs h = ps h) :
    Settles locales key g qs log log' r where
  underway := h.underway
  agrees h' ha := by
    rw [hq h' ha]
    exact h.agrees h' ha
  failed := h.failed

theorem miss (hp : Finds locales key g p log log' (.ok none))
    (hps : Settles locales key g ps log' log'' r) :
    Settles locales key g (fun h => p :: ps h) log log'' r where
  underway := hps.underway
  agrees h ha := by
    obtain ⟨ha, hr, hc⟩ := hps.agrees h ha
    obtain ⟨ha, hl⟩ := hp.agrees h ha
    have hv : key.verdict (h.look key p) = none := by rw [hl]; rfl
    refine ⟨ha, ?_, ?_⟩
    · rw [← hr, Host.decided, Host.decided, List.findSome?_cons, hv]
    · rw [hc, hp.consulted]
      simp [Host.upToFirst, List.findIdx_cons, hv]
  failed := hps.failed

/-- A probe that does not miss decides. -/
theorem hit {v : Except EngineError Template} {r' : Except EngineError (Option Template)}
    (hp : Finds locales key g p log log' r') (hv : key.verdict r' = some v)
    (hu : ∀ t, v = .ok t → Underway key g log')
    (hf : ∀ e, r' = .error e → v = .error e) :
    Settles locales key g (fun h => p :: ps h) log log' (v.map some) where
  underway t ht := by
    cases v with
    | ok t => exact hu t rfl
    | error e => cases ht
  agrees h ha := by
    obtain ⟨ha, hl⟩ := hp.agrees h ha
    refine ⟨ha, ?_, ?_⟩
    · rw [Host.decided, List.findSome?_cons, hl, hv]
      rfl
    · rw [hp.consulted]
      simp [Host.upToFirst, List.findIdx_cons, hl, hv]
  failed x hx e he := by rw [hf e (hp.failed x hx e he)]; rfl

theorem accepted {t : Template} (hp : Finds locales key g p log log' (.ok (some t))) :
    Settles locales key g (fun h => p :: ps h) log log' ((t.accepted key).map some) :=
  hit hp rfl (fun _ _ => hp.underway _ rfl) nofun

theorem error {e : EngineError} (hp : Finds locales key g p log log' (.error e)) :
    Settles locales key g (fun h => p :: ps h) log log' (.error e) :=
  hit (v := .error e) hp rfl nofun fun _ h => by cases h; rfl

end Settles

theorem finds_row (locale : String) (x : Except StoreError (Option Template)) (b : β)
    (h : Underway key g log) :
    Finds locales key g (.row (.tenant key.tenant) locale) log
      (⟨.getTemplate (.tenant key.tenant) key.path locale, x, b⟩ :: log) (x.mapError .store) where
  underway t ht := by
    cases x with
    | error e => cases ht
    | ok t =>
      refine h.add [_] (fun y hy => ?_) (h.1.cons (fun _ => rfl) fun _ => rfl)
      rw [List.mem_singleton.1 hy]
      exact ⟨rfl, rfl, ⟨rfl, rfl⟩, rfl⟩
  agrees h' ha := by
    obtain ⟨hx, ha⟩ := List.forall_mem_cons.1 ha
    exact ⟨ha, congrArg (Except.mapError EngineError.store) hx⟩
  consulted := rfl
  failed y hy e he := by
    rcases List.mem_cons.1 hy with rfl | hy
    · cases x with
      | error e' => cases he; rfl
      | ok t => cases he
    · simp [h.sound y hy] at he

theorem finds_membership (locales : Locales) (x : Except EngineError (Option String)) (b : β)
    (h : Underway key g log) :
    Finds locales key g .membership log (⟨.organizationOf key.tenant, x, b⟩ :: log)
      (x.map fun _ => none) where
  underway t ht := by
    cases x with
    | error e => cases ht
    | ok t =>
      refine h.add [_] (fun y hy => ?_) (h.1.cons (fun _ => rfl) fun _ => rfl)
      rw [List.mem_singleton.1 hy]
      exact ⟨rfl, rfl, rfl, rfl⟩
  agrees h' ha := by
    obtain ⟨hx, ha⟩ := List.forall_mem_cons.1 ha
    exact ⟨ha, congrArg (Except.map fun _ => none) hx⟩
  consulted := rfl
  failed y hy e he := by
    rcases List.mem_cons.1 hy with rfl | hy
    · cases x with
      | error e' => cases he; rfl
      | ok t => cases he
    · simp [h.sound y hy] at he

/-- A list of a scope was learned by some exchanges. -/
theorem finds_listed {scope : Scope} {locale : String} (ys : Log β)
    {r : Except StoreError (List Template)} (h : Underway key g log)
    (hok : ∀ v, r = .ok v → (∀ y ∈ ys, y.Belongs key) ∧ Shut (ys ++ log))
    (hfits : ∀ h, AgreesFor locales key h ys →
      Exchange.ListFits (SameFor key.templateType) (h.listTemplates scope key.channel.basePath) r)
    (hconsulted : ys.filterMap Exchange.consults? = [.listTemplates scope key.channel.basePath])
    (hfailed : ∀ y ∈ ys, ∀ e, y.failure? = some e → r.mapError .store = .error e) :
    Finds locales key g (.listed scope locale) log (ys ++ log)
      ((r.mapError .store).map (find? · key.templateType locale)) where
  underway t ht := by
    cases r with
    | error e => cases ht
    | ok v => exact h.add ys (hok v rfl).1 (hok v rfl).2
  agrees h' ha := by
    obtain ⟨hy, ha⟩ := List.forall_mem_append.1 ha
    refine ⟨ha, ?_⟩
    have hf := hfits h' hy
    simp only [Host.look]
    cases hl : h'.listTemplates scope key.channel.basePath with
    | error e =>
      cases r with
      | error e' => rw [hl] at hf; cases hf; rfl
      | ok v => rw [hl] at hf; cases hf
    | ok w =>
      cases r with
      | error e' => rw [hl] at hf; cases hf
      | ok v =>
        rw [hl] at hf
        exact congrArg Except.ok (hf locale)
  consulted := by
    simp [Log.consulted, List.filterMap_append, hconsulted, Probe.request]
  failed y hy e he := by
    rcases List.mem_append.1 hy with hy | hy
    · rw [hfailed y hy e he]
      rfl
    · simp [h.sound y hy] at he

section

variable {t : Tier} {k : t.Key} {b : β}

theorem belongs_generation (ht : t ≠ .resolved) {g' : Nat} :
    (⟨.generation t, g', b⟩ : Exchange β).Belongs key :=
  ⟨if_neg ht, rfl, trivial, rfl⟩

theorem belongs_lookup (ht : t ≠ .resolved) (hk : key.Involves (.lookup t k))
    {v : Option t.Value} : (⟨.lookup t k, v, b⟩ : Exchange β).Belongs key := by
  refine ⟨rfl, ?_, hk, rfl⟩
  cases v with
  | none => rfl
  | some v => simp [Exchange.closes, ht]

theorem belongs_fill (ht : t ≠ .resolved) {v : t.Value} {g' : Nat} {written : Bool} :
    (⟨.fill t k v g', written, b⟩ : Exchange β).Belongs key :=
  ⟨rfl, decide_eq_false ht, trivial, rfl⟩

theorem belongs_listTemplates {scope : Scope} {path : String} {v : List Template}
    (hk : key.Involves (.listTemplates scope path)) :
    (⟨.listTemplates scope path, .ok v, b⟩ : Exchange β).Belongs key :=
  ⟨rfl, rfl, hk, rfl⟩

end

/-- A list of a scope, read through the cache of a tier that holds such lists. -/
theorem ReadThrough.finds {t : Tier} {k : t.Key} {scope : Scope} {locale : String}
    {f : t.Value → List Template} {called : Except StoreError t.Value → β → Exchange β}
    {r : Except EngineError t.Value} (h : ReadThrough t k called log log' r) (ht : t ≠ .resolved)
    (hcalled : ∀ x b, called x b = ⟨.listTemplates scope key.channel.basePath, x.map f, b⟩)
    (hhit : ∀ v b, (⟨.lookup t k, some v, b⟩ : Exchange β).consults? =
        some (.listTemplates scope key.channel.basePath) ∧
      ∀ h, Exchange.Fits (SameFor key.templateType) locales h
        (⟨.lookup t k, some v, b⟩ : Exchange β) →
        Exchange.ListFits (SameFor key.templateType)
          (h.listTemplates scope key.channel.basePath) (.ok (f v)))
    (hk : key.Involves (.lookup t k))
    (hscope : key.Involves (.listTemplates scope key.channel.basePath)) (hu : Underway key g log) :
    Finds locales key g (.listed scope locale) log log'
      (r.map fun v => find? (f v) key.templateType locale) := by
  have hs (v : t.Value) (hr : r = .ok v) : Shut log' := by
    subst hr
    exact h.shut (fun x b u => by rw [hcalled]; exact ⟨rfl, rfl⟩) hu.1
  cases h with
  | hit g' v b b' =>
    refine finds_listed [_, _] (r := .ok (f v)) hu (fun _ _ => ⟨?_, hs v rfl⟩)
      (fun h hy => (hhit v b').2 h (hy _ List.mem_cons_self)) ?_ ?_
    · simp [belongs_generation ht, belongs_lookup ht hk]
    · simp [(hhit v b').1, Exchange.consults?_generation]
    · simp [Exchange.failure?_lookup, Exchange.failure?_generation]
  | filled g' v written b b' c b'' =>
    rw [hcalled] at hs ⊢
    refine finds_listed [_, _, _, _] (r := .ok (f v)) hu (fun _ _ => ⟨?_, hs v rfl⟩)
      (fun h hy => hy _ (List.mem_cons_of_mem _ List.mem_cons_self)) ?_ ?_
    · simp [belongs_generation ht, belongs_lookup ht hk, belongs_fill ht, Except.map,
        belongs_listTemplates hscope]
    · simp [List.filterMap_cons, Exchange.consults?_fill, Exchange.consults?_miss,
        Exchange.consults?_generation, Exchange.consults?_listTemplates]
    · simp [Exchange.failure?_fill, Exchange.failure?_lookup, Exchange.failure?_generation,
        Exchange.failure?_listTemplates, Except.map]
  | failed g' e b b' c =>
    rw [hcalled]
    refine finds_listed [_, _, _] (r := .error e) hu nofun
      (fun h hy => hy _ List.mem_cons_self) ?_ ?_
    · simp [List.filterMap_cons, Exchange.consults?_miss, Exchange.consults?_generation,
        Exchange.consults?_listTemplates]
    · simp [Exchange.failure?_lookup, Exchange.failure?_generation,
        Exchange.failure?_listTemplates, Except.map]

theorem ReadThrough.finds_application {application : String}
    {r : Except EngineError Tier.apps.Value}
    (h : ReadThrough .apps ⟨key.tenant, application, key.channel⟩
      (fun x b => ⟨.listTemplates (.application key.tenant application) key.channel.basePath, x, b⟩)
      log log' r)
    (locale : String) (ha : key.application = some application) (hu : Underway key g log) :
    Finds locales key g (.listed (.application key.tenant application) locale) log log'
      (r.map fun v => find? v key.templateType locale) :=
  h.finds (f := id) nofun (fun x b => by cases x <;> rfl) (fun v b => ⟨rfl, fun h hf => hf⟩)
    ⟨rfl, ha, rfl⟩ ⟨rfl, .inl ⟨_, ha, rfl⟩⟩ hu

theorem ReadThrough.finds_organization {organization : String}
    {application : Option String} {r : Except EngineError Tier.orgs.Value}
    (h : ReadThrough .orgs ⟨organization, application, key.channel⟩
      (fun x b =>
        ⟨.listTemplates (.organization organization application) key.channel.basePath, x, b⟩)
      log log' r) (locale : String) (hu : Underway key g log) :
    Finds locales key g (.listed (.organization organization application) locale) log log'
      (r.map fun v => find? v key.templateType locale) :=
  h.finds (f := id) nofun (fun x b => by cases x <;> rfl) (fun v b => ⟨rfl, fun h hf => hf⟩)
    rfl ⟨rfl, .inr ⟨_, _, rfl⟩⟩ hu

end Herald
