import Herald.Proofs.Resolution.Sources

/-!
# Herald.Proofs.Resolution.Findings

What a search comes upon, when the answers of its store change while it runs.

* `Searching`, `Comes`, `Searched`: a search before, at and after the first template that it comes
  upon. `grounded_search`: it ends with that one, valid or not.
* `Concludes`: how a lookup ends; `grounded_resolve`: every lookup ends so.
-/

namespace Herald

open Resolution Lookup

variable {β : Type} {locales : Locales} {key : TemplateKey} {log log' : Log β}

/-! ## Searches -/

structure Searching (key : TemplateKey) (locale : Option String) (log : Log β) : Prop where
  met : log.met? key = none
  closes : ∀ x ∈ log, x.closes .resolved = false
  passing : log.passing = locale

/-- A search looked at one level in a locale. -/
structure Comes (locales : Locales) (key : TemplateKey) (locale : String) (log log' : Log β)
    (r : Except EngineError (Option Template)) : Prop where
  later : log <:+ log'
  met : log'.met? key = r.toOption.join
  closes : ∀ x ∈ log', x.closes .resolved = false
  passing : log'.passing = some locale
  offers : ∀ t, r = .ok (some t) → log'.sources.Offers locales key t

/-- A search ended. It hands out the template that it came upon, if that is valid. -/
structure Searched (locales : Locales) (key : TemplateKey) (log : Log β)
    (r : Except EngineError (Option Template)) : Prop where
  closes : ∀ x ∈ log, x.closes .resolved = false
  met : ∀ t, log.met? key = some t →
    log.sources.Offers locales key t ∧ r = (t.accepted key).map some
  empty : log.met? key = none → ∀ t, r ≠ .ok (some t)

theorem Comes.searching {locale : String} (h : Comes locales key locale log log' (.ok none)) :
    Searching key (some locale) log' :=
  ⟨h.met, h.closes, h.passing⟩

theorem Searching.searched {locale : Option String} {r : Except EngineError (Option Template)}
    (h : Searching key locale log) (hr : ∀ t, r ≠ .ok (some t)) : Searched locales key log r where
  closes := h.closes
  met t ht := by
    rw [h.met] at ht
    cases ht
  empty _ := hr

/-- What a search hands out is borne out by its exchanges. -/
theorem Searched.backs {t : Template} (h : Searched locales key log (.ok (some t))) :
    log.sources.Backs locales .resolved key t := by
  cases hm : log.met? key with
  | none => exact absurd rfl (h.empty hm t)
  | some u =>
    obtain ⟨ho, hr⟩ := h.met u hm
    cases ha : u.accepted key with
    | error e =>
      rw [ha] at hr
      cases hr
    | ok v =>
      rw [ha] at hr
      cases hr
      exact ⟨u, ho, ha⟩

theorem Searching.comes_row {last : Option String} {locale : String} (h : Searching key last log)
    (hl : locale ∈ localesFor locales key) (x : Except StoreError (Option Template)) (b : β) :
    Comes locales key locale log
      (⟨.getTemplate (.tenant key.tenant) key.path locale, x, b⟩ :: log) (x.mapError .store) where
  later := List.suffix_cons _ log
  met := by
    rw [Log.met?, h.met, Option.or_none]
    cases x <;> rfl
  closes := List.forall_mem_cons.2 ⟨rfl, h.closes⟩
  passing := rfl
  offers t ht := by
    cases x with
    | error e => cases ht
    | ok found =>
      cases ht
      exact .row hl ⟨b, List.mem_cons_self⟩

/-- An exchange that shows nothing to a search. -/
structure Exchange.Silent (key : TemplateKey) (x : Exchange β) : Prop where
  shows : ∀ locale, x.shows? key locale = none
  closes : x.closes .resolved = false
  passing : ∀ log : Log β, Log.passing (x :: log) = log.passing

theorem silent_generation (t : Tier) (g : Nat) (b : β) :
    (⟨.generation t, g, b⟩ : Exchange β).Silent key := ⟨fun _ => rfl, rfl, fun _ => rfl⟩

theorem silent_miss (t : Tier) (k : t.Key) (b : β) :
    (⟨.lookup t k, none, b⟩ : Exchange β).Silent key :=
  ⟨fun _ => by cases t <;> rfl, rfl, fun _ => rfl⟩

theorem silent_fill {t : Tier} (ht : t ≠ .resolved) (k : t.Key) (v : t.Value) (g : Nat)
    (written : Bool) (b : β) : (⟨.fill t k v g, written, b⟩ : Exchange β).Silent key :=
  ⟨fun _ => rfl, decide_eq_false ht, fun _ => rfl⟩

theorem silent_organizationOf (tenant : String) (x : Except EngineError (Option String)) (b : β) :
    (⟨.organizationOf tenant, x, b⟩ : Exchange β).Silent key := ⟨fun _ => rfl, rfl, fun _ => rfl⟩

theorem silent_failed (scope : Scope) (path : String) (e : StoreError) (b : β) :
    (⟨.listTemplates scope path, .error e, b⟩ : Exchange β).Silent key :=
  ⟨fun _ => rfl, rfl, fun _ => rfl⟩

namespace Exchange.Silent

variable {x : Exchange β} {locale : String} {r : Except EngineError (Option Template)}

theorem met (h : x.Silent key) : Log.met? key (x :: log) = log.met? key := by
  rw [Log.met?, h.shows, Option.none_or]

theorem searching {last : Option String} (h : x.Silent key) (hg : Searching key last log) :
    Searching key last (x :: log) where
  met := h.met.trans hg.met
  closes := List.forall_mem_cons.2 ⟨h.closes, hg.closes⟩
  passing := (h.passing log).trans hg.passing

theorem comes (h : x.Silent key) (hc : Comes locales key locale log log' r) :
    Comes locales key locale log (x :: log') r where
  later := hc.later.trans (List.suffix_cons x log')
  met := h.met.trans hc.met
  closes := List.forall_mem_cons.2 ⟨h.closes, hc.closes⟩
  passing := (h.passing log').trans hc.passing
  offers t ht := (hc.offers t ht).within (Log.sources_suffix (List.suffix_cons x log'))

end Exchange.Silent

theorem Comes.before {log₀ : Log β} {locale : String} {r : Except EngineError (Option Template)}
    (h : Comes locales key locale log log' r) (hl : log₀ <:+ log) :
    Comes locales key locale log₀ log' r :=
  { h with later := hl.trans h.later }

theorem Searching.comes_list {locale : String} {scope : Scope} {v : List Template} {x : Exchange β}
    (h : Searching key (some locale) log) (hx : x.list? = some (scope, key.channel.basePath, v))
    (hc : x.closes .resolved = false) (hp : ∀ log : Log β, Log.passing (x :: log) = log.passing)
    (hs : key.Reaches (log.sources.member key.tenant) scope)
    (hl : locale ∈ localesFor locales key) :
    Comes locales key locale log (x :: log) (.ok (find? v key.templateType locale)) where
  later := List.suffix_cons x log
  met := by
    rw [Log.met?, hp, h.passing, Exchange.shows?_list hx, h.met, Option.or_none]
    rfl
  closes := List.forall_mem_cons.2 ⟨hc, h.closes⟩
  passing := (hp log).trans h.passing
  offers t ht := .listed hl (hs.imp ((Log.sources_suffix (List.suffix_cons x log)).member _))
    ⟨x, List.mem_cons_self, hx⟩ (Except.ok.inj ht)

theorem Searching.comes_error {locale : String} (h : Searching key (some locale) log)
    (e : EngineError) : Comes locales key locale log log (.error e) where
  later := List.suffix_refl log
  met := h.met
  closes := h.closes
  passing := h.passing
  offers := nofun

/-- A list, read through the cache of a tier that holds such lists. -/
theorem ReadThrough.comes {t : Tier} {k : t.Key} {scope : Scope} {locale : String}
    {f : t.Value → List Template} {called : Except StoreError t.Value → β → Exchange β}
    {r : Except EngineError t.Value} (h : ReadThrough t k called log log' r) (ht : t ≠ .resolved)
    (hcalled : ∀ x b, called x b = ⟨.listTemplates scope key.channel.basePath, x.map f, b⟩)
    (hhit : ∀ v b, (⟨.lookup t k, some v, b⟩ : Exchange β).list? =
      some (scope, key.channel.basePath, f v))
    (hs : key.Reaches (log.sources.member key.tenant) scope)
    (hl : locale ∈ localesFor locales key) (hg : Searching key (some locale) log) :
    Comes locales key locale log log' (r.map fun v => find? (f v) key.templateType locale) := by
  have reaches (ys : Log β) : key.Reaches ((Log.sources (ys ++ log)).member key.tenant) scope :=
    hs.imp ((Log.sources_suffix (List.suffix_append ys log)).member _)
  have asked (g : Nat) (b : β) : Searching key (some locale) (⟨.generation t, g, b⟩ :: log) :=
    (silent_generation t g b).searching hg
  cases h with
  | hit g v b b' =>
    exact ((asked g b).comes_list (hhit v b') (decide_eq_false ht) (fun _ => rfl) (reaches [_])
      hl).before (List.suffix_cons _ _)
  | filled g v written b b' c b'' =>
    have hm := (silent_miss t k b').searching (asked g b)
    rw [hcalled]
    exact (silent_fill ht k v g written b'').comes
      ((hm.comes_list rfl rfl (fun _ => rfl) (reaches [_, _]) hl).before
        ((List.suffix_cons _ _).trans (List.suffix_cons _ _)))
  | failed g e b b' c =>
    have hm := (silent_miss t k b').searching (asked g b)
    rw [hcalled]
    exact ((silent_failed scope key.channel.basePath e c).comes (hm.comes_error _)).before
      ((List.suffix_cons _ _).trans (List.suffix_cons _ _))

theorem ReadThrough.comes_application {application locale : String}
    {r : Except EngineError Tier.apps.Value}
    (h : ReadThrough .apps ⟨key.tenant, application, key.channel⟩
      (fun x b => ⟨.listTemplates (.application key.tenant application) key.channel.basePath, x, b⟩)
      log log' r)
    (ha : key.application = some application) (hl : locale ∈ localesFor locales key)
    (hg : Searching key (some locale) log) :
    Comes locales key locale log log' (r.map fun v => find? v key.templateType locale) :=
  h.comes (f := id) nofun (fun x b => by cases x <;> rfl) (fun _ _ => rfl) (.application ha) hl hg

theorem ReadThrough.comes_organization {organization locale : String} {application : Option String}
    {r : Except EngineError Tier.orgs.Value}
    (h : ReadThrough .orgs ⟨organization, application, key.channel⟩
      (fun x b =>
        ⟨.listTemplates (.organization organization application) key.channel.basePath, x, b⟩)
      log log' r)
    (ho : log.sources.member key.tenant organization)
    (ha : application = none ∨ application = key.application)
    (hl : locale ∈ localesFor locales key) (hg : Searching key (some locale) log) :
    Comes locales key locale log log' (r.map fun v => find? v key.templateType locale) :=
  h.comes (f := id) nofun (fun x b => by cases x <;> rfl) (fun _ _ => rfl) (.organization ho ha) hl
    hg

/-- Each locale begins with the row of the tenant. -/
def Paced : Option String → List (String × Precedence) → Prop
  | _, [] => True
  | _, (locale, .tenant) :: steps => Paced (some locale) steps
  | last, (locale, .application) :: steps => last = some locale ∧ Paced last steps
  | last, (locale, .organization) :: steps => last = some locale ∧ Paced last steps

/-- A step looks in the locale that a row was asked for in last, unless it asks for a row. -/
theorem Paced.cons {last : Option String} {locale : String} {level : Precedence}
    {steps : List (String × Precedence)} (h : Paced last ((locale, level) :: steps)) :
    (level ≠ .tenant → last = some locale) ∧ Paced (some locale) steps := by
  cases level with
  | tenant => exact ⟨fun hne => absurd rfl hne, h⟩
  | application => exact ⟨fun _ => h.1, h.1 ▸ h.2⟩
  | organization => exact ⟨fun _ => h.1, h.1 ▸ h.2⟩

theorem paced_probes {steps : List (String × Precedence)}
    (hs : Resolution.probes locales key = steps) : Paced none steps := by
  by_cases hd : locales.isDefault key.locale <;>
    simp [← hs, Resolution.probes, localesFor, hd, Precedence.order, Paced]

theorem mem_localesFor {locale : String} (h : locale ∈ localesFor locales key) :
    locale = key.locale ∨ locale = locales.default := by
  unfold localesFor at h
  split at h
  · exact .inl (List.mem_singleton.1 h)
  · simpa using h

theorem mem_localesFor_of_probes {step : String × Precedence}
    (h : step ∈ Resolution.probes locales key) : step.1 ∈ localesFor locales key := by
  obtain ⟨locale, hl, hs⟩ := List.mem_flatMap.1 h
  obtain ⟨level, -, rfl⟩ := List.mem_map.1 hs
  exact hl

section

variable [Nonempty β] {level : Precedence} {organization : Option String} {locale : String}
  {steps : List (String × Precedence)}

theorem grounded_found {r : Except EngineError (Option Template)}
    (rest : Option Template → Lookup (Option Template))
    (hsome : ∀ t, rest (some t) = some <$> accept key level locale t)
    (hnone : Searching key (some locale) log' →
      (rest none).run.Follows (Grounded locales) (Searched locales key) log')
    (hc : Comes locales key locale log log' r) :
    match r with
    | .ok found => (rest found).run.Follows (Grounded locales) (Searched locales key) log'
    | .error e => Searched locales key log' (.error e) := by
  cases r with
  | error e => exact Searching.searched ⟨hc.met, hc.closes, hc.passing⟩ fun _ => nofun
  | ok found =>
    cases found with
    | none => exact hnone hc.searching
    | some t =>
      simp only [hsome, follows_map, follows_accept grounded_note]
      refine ⟨hc.closes, fun u hu => ?_, fun hn => ?_⟩
      · obtain rfl : t = u := Option.some.inj (hc.met.symm.trans hu)
        exact ⟨hc.offers t rfl, rfl⟩
      · rw [hc.met] at hn
        cases hn

/-- A level below the row of the tenant looks at a probe. -/
theorem grounded_look {p : Probe} (hlevel : level ≠ .tenant)
    (hp : p ∈ key.probesAt level organization locale) (hl : locale ∈ localesFor locales key)
    (ho : ∀ o, organization = some o → log.sources.member key.tenant o)
    (hg : Searching key (some locale) log) :
    (p.look key).run.Follows (Grounded locales) (Comes locales key locale log) log := by
  cases level with
  | tenant => exact absurd rfl hlevel
  | application =>
    obtain ⟨a, ha, rfl⟩ := Option.map_eq_some_iff.1 (Option.mem_toList.1 hp)
    refine follows_bind.2 (grounded_applicationTemplates.imp fun log' r hr => ?_)
    have hc := hr.comes_application ha hl hg
    cases r <;> exact hc
  | organization =>
    cases organization with
    | none => cases hp
    | some o =>
      have listed (a : Option String) (ha : a = none ∨ a = key.application) :
          (Probe.look key (.listed (.organization o a) locale)).run.Follows (Grounded locales)
            (Comes locales key locale log) log := by
        refine follows_bind.2 (grounded_organizationTemplates.imp fun log' r hr => ?_)
        have hc := hr.comes_organization (ho o rfl) ha hl hg
        cases r <;> exact hc
      rcases List.mem_append.1 hp with hp | hp
      · obtain ⟨a, ha, rfl⟩ := Option.map_eq_some_iff.1 (Option.mem_toList.1 hp)
        exact listed (some a) (.inr ha.symm)
      · obtain rfl := List.mem_singleton.1 hp
        exact listed none (.inl rfl)

/-- The rest of a search, from some probes on. -/
theorem grounded_looks {ps : List Probe} {rest : Option Template → Lookup (Option Template)}
    (hps : ∀ p ∈ ps, ∀ log' : Log β, log <:+ log' → Searching key (some locale) log' →
      (p.look key).run.Follows (Grounded locales) (Comes locales key locale log') log')
    (hsome : ∀ t, rest (some t) = some <$> accept key level locale t)
    (hnone : ∀ log' : Log β, log <:+ log' → Searching key (some locale) log' →
      (rest none).run.Follows (Grounded locales) (Searched locales key) log')
    (hg : Searching key (some locale) log) :
    (key.look ps >>= rest).run.Follows (Grounded locales) (Searched locales key) log := by
  induction ps generalizing log with
  | nil => exact hnone log (List.suffix_refl log) hg
  | cons p ps ih =>
    obtain ⟨hp, hps⟩ := List.forall_mem_cons.1 hps
    rw [TemplateKey.look, bind_assoc]
    refine follows_bind.2 ((hp log (List.suffix_refl log) hg).imp fun log' r hr => ?_)
    have hmore := ih (fun q hq log'' h => hps q hq log'' (hr.later.trans h))
      fun log'' h => hnone log'' (hr.later.trans h)
    have hf := grounded_found
      (fun found => found.elim (key.look ps >>= rest) fun t => rest (some t)) hsome hmore hr
    cases r with
    | error e => exact hf
    | ok found =>
      cases found with
      | none => exact hf
      | some t => exact hf

theorem grounded_probe {last : Option String} {rest : Option Template → Lookup (Option Template)}
    (hsome : ∀ t, rest (some t) = some <$> accept key level locale t)
    (hnone : ∀ log' : Log β, log <:+ log' → Searching key (some locale) log' →
      (rest none).run.Follows (Grounded locales) (Searched locales key) log')
    (hl : locale ∈ localesFor locales key) (hlast : level ≠ .tenant → last = some locale)
    (ho : ∀ o, organization = some o → log.sources.member key.tenant o)
    (hg : Searching key last log) :
    (probe level key organization locale >>= rest).run.Follows (Grounded locales)
      (Searched locales key) log := by
  by_cases hlevel : level = .tenant
  · -- the row is looked at whatever the locale was before, and sets it
    subst hlevel
    refine follows_bind.2 ((follows_callStore grounded_note).2 ⟨trivial, fun x b => ?_⟩)
    have hf := grounded_found rest hsome (hnone _ (List.suffix_cons _ _)) (hg.comes_row hl x b)
    cases x with
    | error e => exact hf
    | ok found => exact hf
  · obtain rfl : last = some locale := hlast hlevel
    rw [probe_eq_look]
    exact grounded_looks (fun p hp log' hlater hg => grounded_look hlevel hp hl
      (fun o h => (Log.sources_suffix hlater).member _ _ (ho o h)) hg) hsome hnone hg

theorem grounded_search {known : Option (Option String)} {last : Option String}
    (hg : Searching key last log) (hp : Paced last steps)
    (hl : ∀ step ∈ steps, step.1 ∈ localesFor locales key)
    (ho : ∀ o, known.join = some o → log.sources.member key.tenant o) :
    (search key known steps).run.Follows (Grounded locales) (Searched locales key) log := by
  induction steps generalizing known last log with
  | nil => exact hg.searched fun _ => nofun
  | cons step steps ih =>
    obtain ⟨locale, level⟩ := step
    obtain ⟨hlocale, hmore⟩ := List.forall_mem_cons.1 hl
    obtain ⟨hlast, hpaced⟩ := hp.cons
    have later (known : Option (Option String)) (log : Log β) (hg : Searching key last log)
        (ho : ∀ o, known.join = some o → log.sources.member key.tenant o) :
        (searchOn key known locale level steps).run.Follows (Grounded locales)
          (Searched locales key) log := by
      refine grounded_probe (fun _ => rfl) (fun log' hlater hg => ?_) hlocale hlast ho hg
      exact ih hg hpaced hmore fun o h => (Log.sources_suffix hlater).member _ _ (ho o h)
    rcases search_cases key known locale level steps with ⟨-, h⟩ | ⟨rfl, rfl, h⟩
    · rw [h]
      exact later known log hg ho
    · rw [h]
      refine follows_bind.2 ⟨trivial, fun x b => ?_⟩
      have hg := (silent_organizationOf key.tenant x b).searching hg
      cases x with
      | error e => exact hg.searched fun _ => nofun
      | ok organization =>
        refine later (some organization) _ hg fun o h => ?_
        obtain rfl : organization = some o := h
        exact ⟨b, List.mem_cons_self⟩

end

/-! ## Lookups -/

/-- The row of the tenant was asked for in the requested locale. -/
def Log.AsksRow (key : TemplateKey) (log : Log β) : Prop :=
  ∃ x b, ⟨.getTemplate (.tenant key.tenant) key.path key.locale, x, b⟩ ∈ log

theorem answered_map (x : Except EngineError Template) : key.answered (x.map some) = x := by
  cases x <;> rfl

/-- How a lookup ended: with what the cache had, or with a search that began at the row of the
tenant. Such a lookup hands out what the search came upon if that is valid, tells why if it is not,
and fills in nothing unless it succeeds. -/
inductive Concludes (locales : Locales) (key : TemplateKey) (log : Log β) :
    Except EngineError Template → Prop where
  | recalled {v : Template} {b : β} (hx : ⟨.lookup .resolved key, some v, b⟩ ∈ log)
    (hmet : log.met? key = none) : Concludes locales key log (.ok v)
  | searched {r : Except EngineError Template} {b : β}
    (hmissed : ⟨.lookup .resolved key, none, b⟩ ∈ log)
    (hrow : log.AsksRow key)
    (hmet : ∀ t, log.met? key = some t → log.sources.Offers locales key t ∧ r = t.accepted key)
    (hempty : log.met? key = none → ∀ t, r ≠ .ok t)
    (hfaulty : ∀ e, r = .error e → ∀ x ∈ log, x.closes .resolved = false) :
    Concludes locales key log r

theorem probes_eq_cons :
    ∃ steps, Resolution.probes locales key = (key.locale, .tenant) :: steps := by
  by_cases hd : locales.isDefault key.locale <;>
    simp [Resolution.probes, localesFor, hd, Precedence.order]

section

variable [Nonempty β] {steps : List (String × Precedence)}

theorem asks_rest {rest : Option Template → Lookup (Option Template)} {log : Log β} :
    (callStore "get_template" (.request (.getTemplate (.tenant key.tenant) key.path key.locale)) >>=
      rest).run.Follows (fun _ _ => True) (fun log _ => log.AsksRow key) log := by
  refine follows_bind.2 ((follows_callStore fun _ _ => trivial).2 ⟨trivial, fun x b => ?_⟩)
  cases x with
  | error e =>
    have asked : Log.AsksRow key
        (⟨.getTemplate (.tenant key.tenant) key.path key.locale, .error e, b⟩ :: log) :=
      ⟨_, b, List.mem_cons_self⟩
    exact asked
  | ok found =>
    have asked : (rest found).run.Follows (fun _ _ => True) (fun log _ => log.AsksRow key)
        (⟨.getTemplate (.tenant key.tenant) key.path key.locale, .ok found, b⟩ :: log) :=
      (Program.follows_mem List.mem_cons_self).imp fun _ _ hx => ⟨_, b, hx⟩
    exact asked

/-- Every search asks for it. -/
theorem asks_row {log : Log β} (hs : Resolution.probes locales key = steps) :
    (search key none steps).run.Follows (fun _ _ => True) (fun log _ => log.AsksRow key) log := by
  obtain ⟨more, hm⟩ := @probes_eq_cons locales key
  rw [← hs, hm]
  exact asks_rest

theorem grounded_begin (hs : Resolution.probes locales key = steps)
    (hg : Searching key none log) :
    (search key none steps).run.Follows (Grounded locales) (Searched locales key) log := by
  have hl : ∀ step ∈ steps, step.1 ∈ localesFor locales key :=
    hs ▸ fun _ => mem_localesFor_of_probes
  have ho (o : String) (ho : (none : Option (Option String)).join = some o) :
      log.sources.member key.tenant o := by
    cases ho
  exact grounded_search hg (paced_probes hs) hl ho

theorem grounded_conclude {g : Nat} {b : β} {r : Except EngineError (Option Template)}
    (h : Searched locales key log r) (hmissed : ⟨.lookup .resolved key, none, b⟩ ∈ log)
    (hrow : log.AsksRow key) :
    (conclude key g r).run.Follows (Grounded locales) (Concludes locales key) log := by
  refine follows_conclude grounded_note (fun t ht => ?_) ?_
  · subst ht
    refine ⟨h.backs, fun written b => .searched (List.mem_cons_of_mem _ hmissed) ?_ ?_ ?_ nofun⟩
    · obtain ⟨x, c, hx⟩ := hrow
      exact ⟨x, c, List.mem_cons_of_mem _ hx⟩
    · intro u hu
      obtain ⟨ho, hv⟩ := h.met u hu
      refine ⟨ho.within (Log.sources_suffix (List.suffix_cons _ _)), ?_⟩
      exact (congrArg key.answered hv).trans (answered_map (u.accepted key))
    · exact fun hn => absurd rfl (h.empty hn t)
  · refine .searched hmissed hrow (fun t ht => ?_) (fun hn t ht => ?_) fun _ _ => h.closes
    · obtain ⟨ho, hv⟩ := h.met t ht
      rw [hv, answered_map]
      exact ⟨ho, rfl⟩
    · cases r with
      | error e => cases ht
      | ok found =>
        cases found with
        | none => cases ht
        | some u => exact h.empty hn u rfl

theorem grounded_resolveKey :
    (resolveKey locales key).run.Follows (Grounded locales) (Concludes locales key)
      ([] : Log β) := by
  refine follows_ask.2 ⟨trivial, fun g b => follows_ask.2 ⟨fun _ x hx => ?_, fun x b' => ?_⟩⟩
  · rw [List.mem_singleton.1 hx]
    rfl
  cases x with
  | some t =>
    simp only [follows_bind, follows_note, follows_pure, grounded_note, true_and]
    exact .recalled List.mem_cons_self rfl
  | none =>
    rw [follows_bind, follows_lift]
    -- kept shut, so that nobody computes the search
    generalize hs : Resolution.probes locales key = steps
    have hg : Searching key none
        [(⟨.lookup .resolved key, none, b'⟩ : Exchange β), ⟨.generation .resolved, g, b⟩] :=
      (silent_miss .resolved key b').searching
        ((silent_generation .resolved g b).searching ⟨rfl, List.forall_mem_nil _, rfl⟩)
    refine (((grounded_begin hs hg).and (Program.follows_mem List.mem_cons_self)).and
      (asks_row hs)).imp fun log' r hr => ?_
    exact grounded_conclude hr.1.1 hr.1.2 hr.2

theorem grounded_resolve {tenant : String} {application : Option String} {channel : Channel}
    {templateType raw : String} :
    (resolve locales tenant application channel templateType raw).run.Follows (Grounded locales)
      (Concludes locales (keyFor locales tenant application channel templateType raw))
      ([] : Log β) := by
  rw [resolve, follows_inSpan grounded_note, follows_bind, follows_lift,
    follows_notes grounded_note]
  exact grounded_resolveKey

end

end Herald
