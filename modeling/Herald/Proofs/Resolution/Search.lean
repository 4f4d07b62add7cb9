import Herald.Proofs.Resolution.Settles

/-!
# Herald.Proofs.Resolution.Search

What a search comes to.

* `Host.probesFrom`: the probes of the rest of a search.
* `Probe.look`: the course that looks at a probe; `probe_eq_look`: a level is its probes, in order.
* `search_cases`: what a search does first; `follows_search`: a search settles its probes.
* `Resolves`: what is known of a lookup that has ended; `follows_resolveKey`, `follows_resolve`:
  it is known of every lookup.
-/

namespace Herald

open Resolution Lookup

variable {β : Type} {locales : Locales} {key : TemplateKey} {g : Nat} {log log' : Log β}

/-- What is looked at on one level in one locale. -/
def TemplateKey.probesAt (key : TemplateKey) (level : Precedence) (organization : Option String)
    (locale : String) : List Probe :=
  match level with
  | .tenant => [.row (.tenant key.tenant) locale]
  | .application =>
    (key.application.map fun a => .listed (.application key.tenant a) locale).toList
  | .organization => key.listsOf organization locale

/-- The probes of the rest of a search, when the organization is known or still to be asked for. -/
def Host.probesFrom (h : Host) (key : TemplateKey) (known : Option (Option String)) :
    List (String × Precedence) → List Probe
  | [] => []
  | (locale, level) :: rest =>
    match level, known with
    | .organization, none =>
      .membership :: (key.probesAt .organization (h.organization? key.tenant) locale ++
        h.probesFrom key (some (h.organization? key.tenant)) rest)
    | level, known => key.probesAt level known.join locale ++ h.probesFrom key known rest

theorem Host.probesFrom_cons {h : Host} {known : Option (Option String)} {locale : String}
    {level : Precedence} {steps : List (String × Precedence)}
    (hk : level = .organization → known ≠ none) :
    h.probesFrom key known ((locale, level) :: steps) =
      key.probesAt level known.join locale ++ h.probesFrom key known steps := by
  cases level with
  | tenant => rfl
  | application => rfl
  | organization =>
    obtain ⟨organization, rfl⟩ := Option.ne_none_iff_exists'.1 (hk rfl)
    rfl

/-- A search begins with nothing known, and has all probes of the key before it. -/
theorem Host.probesFrom_none (h : Host) (locales : Locales) (key : TemplateKey) :
    h.probesFrom key none (Resolution.probes locales key) =
      h.probes key (localesFor locales key) := by
  by_cases hd : locales.isDefault key.locale <;>
    simp [Resolution.probes, localesFor, hd, Precedence.order, Host.probesFrom, Host.probes,
      Host.probesIn, TemplateKey.probesAt]

/-- The course of a search that looks at a probe. No level asks for another. -/
def Probe.look (key : TemplateKey) : Probe → Lookup (Option Template)
  | row scope locale => callStore "get_template" (.request (.getTemplate scope key.path locale))
  | listed (.application tenant application) locale => do
    return find? (← applicationTemplates tenant application key.channel) key.templateType locale
  | listed (.organization organization application) locale => do
    return find? (← organizationTemplates organization application key.channel) key.templateType
      locale
  | _ => return none

/-- Looks at probes in order, up to the first that finds something. -/
def TemplateKey.look (key : TemplateKey) : List Probe → Lookup (Option Template)
  | [] => return none
  | p :: ps => do
    match ← p.look key with
    | some t => return some t
    | none => key.look ps

theorem look_singleton (p : Probe) : key.look [p] = p.look key := by
  refine Eq.trans (bind_congr fun found => ?_) (bind_pure (p.look key))
  cases found <;> rfl

/-- A level is its probes, in order. -/
theorem probe_eq_look (level : Precedence) (organization : Option String) (locale : String) :
    probe level key organization locale = key.look (key.probesAt level organization locale) := by
  cases level with
  | tenant =>
    rw [TemplateKey.probesAt, look_singleton]
    rfl
  | application =>
    simp only [probe, TemplateKey.probesAt]
    cases key.application with
    | none => rfl
    | some a =>
      rw [Option.map_some, Option.toList, look_singleton]
      rfl
  | organization =>
    cases organization with
    | none => rfl
    | some o =>
      simp only [probe, TemplateKey.probesAt, TemplateKey.listsOf]
      cases key.application with
      | none =>
        rw [Option.map_none, Option.toList, List.nil_append, look_singleton]
        rfl
      | some a =>
        rw [Option.map_some, Option.toList, List.singleton_append, TemplateKey.look, look_singleton]
        simp only [Option.isSome_some, if_true, Probe.look, bind_assoc, pure_bind]
        refine bind_congr fun own => ?_
        cases find? own key.templateType locale <;> rfl

/-- A step of a search that asks for no organization, and the steps after it. -/
def Resolution.searchOn (key : TemplateKey) (known : Option (Option String)) (locale : String)
    (level : Precedence) (steps : List (String × Precedence)) : Lookup (Option Template) := do
  match ← probe level key known.join locale with
  | some t => some <$> accept key level locale t
  | none => search key known steps

/-- The organization is asked for before a step, if the step needs it and it is not known. -/
theorem search_cases (key : TemplateKey) (known : Option (Option String)) (locale : String)
    (level : Precedence) (steps : List (String × Precedence)) :
    (level = .organization → known ≠ none) ∧
        search key known ((locale, level) :: steps) = searchOn key known locale level steps ∨
      level = .organization ∧ known = none ∧
        search key known ((locale, level) :: steps) =
          (ofExcept (.request (.organizationOf key.tenant)) >>= fun organization =>
            searchOn key (some organization) locale level steps) := by
  cases known with
  | some organization =>
    refine .inl ⟨fun _ => Option.some_ne_none _, ?_⟩
    cases level <;> rfl
  | none =>
    cases level with
    | tenant => exact .inl ⟨fun h => (by cases h), rfl⟩
    | application => exact .inl ⟨fun h => (by cases h), rfl⟩
    | organization => exact .inr ⟨rfl, rfl, rfl⟩

section

variable [Nonempty β] {level : Precedence} {organization : Option String} {locale : String}
  {ps : List Probe} {qs : Host → List Probe}

theorem follows_accept {allows : Log β → Request → Prop} (hnote : ∀ log o, allows log (.note o))
    {t : Template} {Q : Log β → Except EngineError Template → Prop} :
    (accept key level locale t).run.Follows allows Q log ↔ Q log (t.accepted key) := by
  simp only [accept]
  cases hd : t.defect? with
  | some d =>
    simp only [follows_bind, follows_note, follows_throw, Template.accepted, hd, hnote, true_and]
  | none =>
    simp only [Template.accepted, hd]
    split <;> simp only [follows_bind, follows_note, follows_pure, hnote, true_and]

/-- A level looks at a probe. -/
theorem follows_look {p : Probe} (hp : p ∈ key.probesAt level organization locale)
    (hu : Underway key g log) :
    (p.look key).run.Follows (Allowed locales) (Finds locales key g p log) log := by
  cases level with
  | tenant =>
    obtain rfl := List.mem_singleton.1 hp
    exact (follows_callStore allowed_note).2 ⟨trivial, fun x b => finds_row locale x b hu⟩
  | application =>
    obtain ⟨a, ha, rfl⟩ := Option.map_eq_some_iff.1 (Option.mem_toList.1 hp)
    refine follows_bind.2 ((follows_applicationTemplates hu.1).imp fun log' r hr => ?_)
    have hf : Finds locales key g _ log log' _ := hr.finds_application locale ha hu
    cases r <;> exact hf
  | organization =>
    cases organization with
    | none => cases hp
    | some o =>
      have shared (a : Option String) :
          (Probe.look key (.listed (.organization o a) locale)).run.Follows (Allowed locales)
            (Finds locales key g (.listed (.organization o a) locale) log) log := by
        refine follows_bind.2 ((follows_organizationTemplates hu.1).imp fun log' r hr => ?_)
        have hf : Finds locales key g _ log log' _ := hr.finds_organization locale hu
        cases r <;> exact hf
      rcases List.mem_append.1 hp with hp | hp
      · obtain ⟨a, -, rfl⟩ := Option.map_eq_some_iff.1 (Option.mem_toList.1 hp)
        exact shared (some a)
      · obtain rfl := List.mem_singleton.1 hp
        exact shared none

/-- The rest of a search, from some probes on. -/
theorem follows_looks {rest : Option Template → Lookup (Option Template)}
    (hps : ∀ p ∈ ps, ∀ log : Log β, Underway key g log →
      (p.look key).run.Follows (Allowed locales) (Finds locales key g p log) log)
    (hsome : ∀ t, rest (some t) = some <$> accept key level locale t)
    (hnone : ∀ log : Log β, Underway key g log →
      (rest none).run.Follows (Allowed locales) (Settles locales key g qs log) log)
    (hu : Underway key g log) :
    (key.look ps >>= rest).run.Follows (Allowed locales)
      (Settles locales key g (fun h => ps ++ qs h) log) log := by
  induction ps generalizing log with
  | nil => exact hnone log hu
  | cons p ps ih =>
    obtain ⟨hp, hps⟩ := List.forall_mem_cons.1 hps
    rw [TemplateKey.look, bind_assoc]
    refine follows_bind.2 ((hp log hu).imp fun log' r hr => ?_)
    cases r with
    | error e => exact .error hr
    | ok found =>
      cases found with
      | some t =>
        simp only [pure_bind, hsome, follows_map, follows_accept allowed_note]
        exact .accepted hr
      | none => exact (ih hps (hr.underway _ rfl)).imp fun _ _ hs => .miss hr hs

theorem follows_search {known : Option (Option String)} {steps : List (String × Precedence)}
    (hu : Underway key g log) :
    (search key known steps).run.Follows (Allowed locales)
      (Settles locales key g (fun h => h.probesFrom key known steps) log) log := by
  induction steps generalizing known log with
  | nil => exact .nil hu
  | cons step steps ih =>
    obtain ⟨locale, level⟩ := step
    have later (known : Option (Option String)) (log : Log β) (hu : Underway key g log) :
        (searchOn key known locale level steps).run.Follows (Allowed locales) (Settles locales key
          g (fun h => key.probesAt level known.join locale ++ h.probesFrom key known steps) log)
          log := by
      rw [searchOn, probe_eq_look]
      exact follows_looks (fun _ hp _ hu => follows_look hp hu) (fun _ => rfl) (fun _ hu => ih hu) hu
    rcases search_cases key known locale level steps with ⟨hk, h⟩ | ⟨rfl, rfl, h⟩
    · simp only [h, Host.probesFrom_cons hk]
      exact later known log hu
    · rw [h]
      refine follows_bind.2 ⟨trivial, fun x b => ?_⟩
      have hm := finds_membership locales x b hu
      cases x with
      | error e => exact .error hm
      | ok organization =>
        refine (later (some organization) _ (hm.underway _ rfl)).imp fun log'' r hr => ?_
        refine (Settles.miss hm hr).congr fun h ha => ?_
        have hx : h.organizationOf key.tenant = .ok organization :=
          (hr.agrees h ha).1 _ List.mem_cons_self
        have ho : h.organization? key.tenant = organization := by
          rw [Host.organization?, hx]
          cases organization <;> rfl
        simp only [Host.probesFrom, ho]
        rfl

end

/-- What is known of a lookup that has ended. -/
structure Resolves (locales : Locales) (key : TemplateKey) (log : Log β)
    (r : Except EngineError Template) : Prop where
  /-- It comes to what every host gives that agrees with its exchanges. -/
  agrees : ∀ h, AgreesFor locales key h log → h.value locales .resolved key = r
  /-- It consulted what was to be consulted, unless the cache had its key. -/
  consulted : (∀ x ∈ log, x.recalls = false) →
    ∀ h, AgreesFor locales key h log → log.consulted =
      ((h.performed key (localesFor locales key)).map (Probe.request key)).reverse
  /-- It hands on the one fault that it was answered. -/
  failed : ∀ x ∈ log, ∀ e, x.failure? = some e → r = .error e

/-- The answer of a lookup whose search came to its end. -/
def TemplateKey.answered (key : TemplateKey) :
    Except EngineError (Option Template) → Except EngineError Template
  | .ok (some t) => .ok t
  | .ok none => .error key.missing
  | .error e => .error e

theorem answered_settled (d : Option (Except EngineError Template)) :
    key.answered (settled d) = d.getD (.error key.missing) := by
  cases d with
  | none => rfl
  | some r => cases r <;> rfl

namespace Settles

variable {r : Except EngineError (Option Template)} {b b' : β}

theorem value (h : Settles locales key g
      (fun h => h.probesFrom key none (Resolution.probes locales key)) log log' r)
    {host : Host} (ha : AgreesFor locales key host log') :
    host.value locales .resolved key = key.answered r := by
  obtain ⟨-, hs, -⟩ := h.agrees host ha
  rw [← hs, answered_settled, Host.probesFrom_none]
  rfl

theorem resolves (h : Settles locales key g
      (fun h => h.probesFrom key none (Resolution.probes locales key))
      [⟨.lookup .resolved key, none, b'⟩, ⟨.generation .resolved, g, b⟩] log' r) :
    Resolves locales key log' (key.answered r) where
  agrees host ha := h.value ha
  consulted _ host ha := by
    obtain ⟨-, -, hc⟩ := h.agrees host ha
    rw [hc, Host.probesFrom_none]
    exact List.append_nil _
  failed x hx e he := by
    rw [h.failed x hx e he]
    rfl

end Settles

/-- What was known of a lookup stays known when it fills the cache. -/
theorem Resolves.fill {t : Template} {written : Bool} {b : β} {r : Except EngineError Template}
    (h : Resolves locales key log r) :
    Resolves locales key (⟨.fill .resolved key t g, written, b⟩ :: log) r where
  agrees host ha := h.agrees host (List.forall_mem_cons.1 ha).2
  consulted hn host ha :=
    h.consulted (fun x hx => hn x (List.mem_cons_of_mem _ hx)) host (List.forall_mem_cons.1 ha).2
  failed x hx e he := by
    rcases List.mem_cons.1 hx with rfl | hx
    · cases he
    · exact h.failed x hx e he

section

variable [Nonempty β]

theorem follows_conclude {allows : Log β → Request → Prop}
    (hnote : ∀ log o, allows log (.note o)) {r : Except EngineError (Option Template)}
    {Q : Log β → Except EngineError Template → Prop}
    (hfill : ∀ t, r = .ok (some t) → allows log (.fill .resolved key t g) ∧
      ∀ written b, Q (⟨.fill .resolved key t g, written, b⟩ :: log) (.ok t))
    (hq : Q log (key.answered r)) :
    (conclude key g r).run.Follows allows Q log := by
  cases r with
  | error e =>
    simp only [conclude, follows_bind, follows_note, follows_throw, hnote, true_and]
    exact hq
  | ok found =>
    cases found with
    | none =>
      simp only [conclude, follows_bind, follows_note, follows_throw, hnote, true_and]
      exact hq
    | some t => exact follows_ask.2 (hfill t rfl)

theorem follows_resolveKey :
    (resolveKey locales key).run.Follows (Allowed locales) (Resolves locales key) ([] : Log β) := by
  refine follows_ask.2 ⟨trivial, fun g b => follows_ask.2 ⟨⟨fun u hu hr => ?_, ?_⟩, fun x b' => ?_⟩⟩
  · simp [Log.record, window, Exchange.opens?, Exchange.closes, Ne.symm hu]
  · simp [Log.record, Exchange.closes]
  cases x with
  | some t =>
    simp only [follows_bind, follows_note, follows_pure, allowed_note, true_and]
    exact {
      agrees := fun host ha => ha _ List.mem_cons_self
      consulted := fun hn => absurd (hn _ List.mem_cons_self) (by simp [Exchange.recalls])
      failed := by simp [Log.record, Exchange.failure?_lookup, Exchange.failure?_generation] }
  | none =>
    have hu : Underway key g
        [(⟨.lookup .resolved key, none, b'⟩ : Exchange β), ⟨.generation .resolved, g, b⟩] := by
      refine ⟨fun u hu => ?_, [⟨.lookup .resolved key, none, b'⟩], b, rfl, ?_⟩
      · simp [window, Exchange.opens?, Exchange.closes, Ne.symm hu]
      · intro x hx
        rw [List.mem_singleton.1 hx]
        exact ⟨rfl, rfl, rfl, rfl⟩
    rw [follows_bind, follows_lift]
    -- kept shut, so that nobody computes the search
    generalize hp : Resolution.probes locales key = steps
    refine (follows_search hu).imp fun log' r hr => ?_
    subst hp
    have hv := hr.resolves
    refine follows_conclude allowed_note (fun t ht => ?_) hv
    subst ht
    obtain ⟨xs, hw, hxs, ha⟩ := (hr.underway _ rfl).window locales
    refine ⟨⟨_, hw, rfl, fun x hx => (hxs x hx).involved, fun x hx => (hxs x hx).sound, ?_⟩, ?_⟩
    · exact fun host hx => hr.value (ha _ host hx)
    · exact fun written b => hv.fill

theorem follows_resolve {tenant : String} {application : Option String} {channel : Channel}
    {templateType raw : String} :
    (resolve locales tenant application channel templateType raw).run.Follows (Allowed locales)
      (Resolves locales (keyFor locales tenant application channel templateType raw))
      ([] : Log β) := by
  rw [resolve, follows_inSpan allowed_note, follows_bind, follows_lift, follows_notes allowed_note]
  exact follows_resolveKey

end

end Herald
