import Herald.Proofs.Cache.Targets
import Herald.Proofs.Resolution.Window
import Herald.Proofs.Store.Rows

/-!
# Herald.Proofs.Resolution.Reads

Which rows a key goes by.

* `Request.Covers`: the rows that a call of the store tells of.
* `Tier.Reads`: the rows that tell what a key stands for. `value_congr`: no other row does.
* `Change.Covers`: the rows of a change. `targets_cover`: the keys that go by one are removed
  for the change.
-/

namespace Herald

open Resolution

/-- The rows that a call of the store tells of. -/
def Request.Covers : Request → RowKey → Prop
  | .getTemplate scope path locale, r => r = ⟨scope, path, locale⟩
  | .listTemplates scope path, r => r.scope = scope ∧ isBelow path r.path = true
  | .listTemplateTypes path tenant, r => r.scope = .tenant tenant ∧ isBelow path r.path = true
  | _, _ => False

/-- The rows that tell what a key stands for: all of a list, and of what a search looks at those of
the type. -/
def Tier.Reads : (t : Tier) → t.Key → RowKey → Prop
  | .resolved, k, r => r.path = k.path ∧ ∃ q, k.Involves q ∧ q.Covers r
  | t, k, r => ∃ q, t.source? k = some q ∧ q.Covers r

theorem Tier.reads_iff {t : Tier} {k : t.Key} {q : Request} {r : RowKey}
    (hq : t.source? k = some q) : t.Reads k r ↔ q.Covers r := by
  cases t with
  | resolved => cases hq
  | _ =>
    constructor
    · rintro ⟨q', hq', hr⟩
      cases hq.symm.trans hq'
      exact hr
    · exact fun hr => ⟨q, hq, hr⟩

/-- The rows of a change. -/
def Change.Covers (c : Change) (r : RowKey) : Prop :=
  r.scope = c.scope ∧ r.path = c.channel.templatePath c.templateType

theorem covers_rowKey (m : Mutation) : m.change.Covers m.rowKey := by
  obtain ⟨locale, hk⟩ := rowKey_eq m
  rw [hk]
  exact ⟨rfl, rfl⟩

theorem owns_templatePath {c d : Channel} {a : String} :
    d.owns (c.templatePath a) = (d = c : Bool) := by
  rw [Channel.owns, toList_templatePath, after?_basePath]
  by_cases hd : d = c <;> simp [hd]

/-- A path tells its change, if it is the path of a type. -/
theorem ofPath_templatePath {scope : Scope} {c : Channel} {a : String} (ha : IsSegment a) :
    Change.ofPath scope (c.templatePath a) = .ok ⟨scope, c, a⟩ := by
  have hc : Channel.ofPath (c.templatePath a) = .ok c := by
    have hf : Channel.ofPath? (c.templatePath a) = some c := by
      cases c <;> simp [Channel.ofPath?, Channel.all, owns_templatePath]
    rw [Channel.ofPath, hf]
  have hb : c.below? (c.templatePath a) = some a := by
    simp [Channel.below?, toList_templatePath]
  simp [Change.ofPath, hc, hb, ha.1, ha.2, bind, Except.bind, pure, Except.pure]

theorem ofPath_change {s : Store} {m : Mutation} (hs : s.Sound) (h : m.apply s ≠ s) :
    Change.ofPath m.change.scope m.rowKey.path = .ok m.change := by
  obtain ⟨t, hv, ht⟩ := exists_valid hs h
  obtain ⟨locale, hk⟩ := rowKey_eq m
  rw [hk]
  have hd : t.defect? = none := by simpa [Template.valid] using hv
  exact ofPath_templatePath (ht ▸ isSegment_of_valid hd)

/-- The scopes that a search looks into. -/
theorem scope_of_involves {key : TemplateKey} {q : Request} {r : RowKey} (hq : key.Involves q)
    (hr : q.Covers r) :
    r.scope = .tenant key.tenant ∨
      (∃ a, key.application = some a ∧ r.scope = .application key.tenant a) ∨
        ∃ o a, r.scope = .organization o a := by
  cases q with
  | getTemplate scope path locale =>
    cases hr
    exact .inl hq.1
  | listTemplates scope path =>
    obtain ⟨-, ⟨a, ha, hs⟩ | ⟨o, a, hs⟩⟩ := hq
    · exact .inr (.inl ⟨a, ha, hr.1.trans hs⟩)
    · exact .inr (.inr ⟨o, a, hr.1.trans hs⟩)
  | listTemplateTypes path tenant => exact hq.elim
  | _ => exact hr.elim

/-- The keys that go by a row of a change are removed for it. -/
theorem targets_cover {c : Change} {r : RowKey} {t : Tier} {k : t.Key} (hc : c.Covers r)
    (hr : t.Reads k r) : ∃ g ∈ c.targets, g.covers t k = true := by
  obtain ⟨scope, channel, templateType⟩ := c
  obtain ⟨hscope, hpath⟩ := hc
  have below {d : Channel} (hb : isBelow d.basePath r.path = true) : d = channel := by
    rw [hpath] at hb
    exact (isBelow_templatePath.1 hb).1
  cases t with
  | types =>
    obtain ⟨q, hq, hr⟩ := hr
    cases hq
    have hs : scope = .tenant k.tenant := hscope.symm.trans hr.1
    subst hs
    cases below hr.2
    exact ⟨_, List.mem_cons_self, decide_eq_true rfl⟩
  | apps =>
    obtain ⟨q, hq, hr⟩ := hr
    cases hq
    have hs : scope = k.scope := hscope.symm.trans hr.1
    subst hs
    cases below hr.2
    exact ⟨_, List.mem_cons_self, decide_eq_true rfl⟩
  | orgs =>
    obtain ⟨q, hq, hr⟩ := hr
    cases hq
    have hs : scope = k.scope := hscope.symm.trans hr.1
    subst hs
    cases below hr.2
    exact ⟨_, List.mem_cons_self, decide_eq_true rfl⟩
  | resolved =>
    obtain ⟨hp, q, hq, hr⟩ := hr
    obtain ⟨hchannel, htype⟩ := templatePath_inj (hp.symm.trans hpath)
    rcases scope_of_involves hq hr with hs | ⟨a, ha, hs⟩ | ⟨o, a, hs⟩
    · cases hscope.symm.trans hs
      refine ⟨_, List.mem_cons_of_mem _ List.mem_cons_self, ?_⟩
      simp [Target.covers, Target.resolved, hchannel, htype]
    · cases hscope.symm.trans hs
      refine ⟨_, List.mem_cons_of_mem _ List.mem_cons_self, ?_⟩
      simp [Target.covers, Target.resolved, hchannel, htype, ha]
    · cases hscope.symm.trans hs
      refine ⟨_, List.mem_cons_of_mem _ List.mem_cons_self, ?_⟩
      simp [Target.covers, Target.resolved, hchannel, htype]

section

variable {h h' : Host} {key : TemplateKey} {locales : List String}

theorem probesIn_involved {first : Bool} {locale : String} {p : Probe}
    (hp : p ∈ h.probesIn key first locale) : key.Involves (p.request key) := by
  simp only [Host.probesIn, List.mem_append, List.mem_singleton, Option.mem_toList,
    Option.map_eq_some_iff] at hp
  rcases hp with ((rfl | ⟨a, ha, rfl⟩) | hm) | hl
  · exact ⟨rfl, rfl⟩
  · exact ⟨rfl, .inl ⟨a, ha, rfl⟩⟩
  · split at hm
    · cases List.mem_singleton.1 hm
      rfl
    · cases hm
  · unfold TemplateKey.listsOf at hl
    split at hl
    · cases hl
    · simp only [List.mem_append, List.mem_singleton, Option.mem_toList,
        Option.map_eq_some_iff] at hl
      rcases hl with ⟨a, -, rfl⟩ | rfl
      · exact ⟨rfl, .inr ⟨_, _, rfl⟩⟩
      · exact ⟨rfl, .inr ⟨_, _, rfl⟩⟩

theorem probes_involved {p : Probe} (hp : p ∈ h.probes key locales) :
    key.Involves (p.request key) := by
  cases locales with
  | nil => cases hp
  | cons locale more =>
    rcases List.mem_append.1 hp with hp | hp
    · exact probesIn_involved hp
    · obtain ⟨locale, -, hp⟩ := List.mem_flatMap.1 hp
      exact probesIn_involved hp

theorem decided_congr {ps : List Probe} (hl : ∀ p ∈ ps, h.look key p = h'.look key p) :
    h.decided key ps = h'.decided key ps := by
  induction ps with
  | nil => rfl
  | cons p ps ih =>
    have ih : ps.findSome? _ = ps.findSome? _ := ih fun q hq => hl q (List.mem_cons_of_mem _ hq)
    rw [Host.decided, Host.decided, List.findSome?_cons, List.findSome?_cons,
      hl p List.mem_cons_self, ih]

theorem outcome_congr (ho : h.organization? key.tenant = h'.organization? key.tenant)
    (hl : ∀ p, key.Involves (p.request key) → h.look key p = h'.look key p) :
    h.outcome key locales = h'.outcome key locales := by
  have hp : h.probes key locales = h'.probes key locales := by
    have hin (first : Bool) : h.probesIn key first = h'.probesIn key first := by
      funext locale
      simp only [Host.probesIn, ho]
    cases locales with
    | nil => rfl
    | cons locale more => rw [Host.probes, Host.probes, hin, hin]
  have hd : h.decided key (h'.probes key locales) = h'.decided key (h'.probes key locales) :=
    decided_congr fun p hp => hl p (probes_involved hp)
  rw [Host.outcome, Host.outcome, hp, hd]

end

/-- The rows of a type tell what a search in a list finds. -/
theorem sameFor_listTemplates {s s' : Store} (hs : s.Sound) (hs' : s'.Sound) {scope : Scope}
    {c : Channel} {templateType : String}
    (hr : ∀ locale, templateType ≠ "" → s.getTemplate scope (c.templatePath templateType) locale =
      s'.getTemplate scope (c.templatePath templateType) locale) :
    SameFor templateType (s.listTemplates scope c.basePath)
      (s'.listTemplates scope c.basePath) := by
  intro locale
  rw [find?_listTemplates hs, find?_listTemplates hs']
  by_cases ht : templateType = ""
  · rw [ht, hs.getTemplate_empty, hs'.getTemplate_empty]
  · exact hr locale ht

/-- The tenant whose organization matters for a key. -/
def Tier.member? : (t : Tier) → t.Key → Option String
  | .resolved, k => some k.tenant
  | _, _ => none

/-- No other rows tell what a key stands for. -/
theorem value_congr {s s' : Store} {d d' : Directory} {locales : Locales} {t : Tier} {k : t.Key}
    (hs : s.Sound) (hs' : s'.Sound)
    (hr : ∀ r, t.Reads k r → s.rows.get? r = s'.rows.get? r)
    (hd : ∀ tenant, t.member? k = some tenant →
      d.organizationOf tenant = d'.organizationOf tenant) :
    (Host.of s d).value locales t k = (Host.of s' d').value locales t k := by
  have same {scope : Scope} {c : Channel} (h : ∀ a l, a ≠ "" →
      s.rows.get? ⟨scope, c.templatePath a, l⟩ = s'.rows.get? ⟨scope, c.templatePath a, l⟩) :
      Store.SameAt scope c s s' := by
    intro a l
    by_cases ha : a = ""
    · rw [ha, hs.getTemplate_empty, hs'.getTemplate_empty]
    · exact h a l ha
  cases t with
  | types =>
    have hl := listTemplateTypes_congr hs hs' (same fun a l ha =>
      hr _ ⟨_, rfl, rfl, isBelow_templatePath.2 ⟨rfl, ha⟩⟩)
    exact congrArg (fun l => Except.mapError EngineError.store (.ok l)) hl
  | apps =>
    have hl := listTemplates_congr hs hs' (same fun a l ha =>
      hr _ ⟨_, rfl, rfl, isBelow_templatePath.2 ⟨rfl, ha⟩⟩)
    exact congrArg (fun l => Except.mapError EngineError.store (.ok l)) hl
  | orgs =>
    have hl := listTemplates_congr hs hs' (same fun a l ha =>
      hr _ ⟨_, rfl, rfl, isBelow_templatePath.2 ⟨rfl, ha⟩⟩)
    exact congrArg (fun l => Except.mapError EngineError.store (.ok l)) hl
  | resolved =>
    refine outcome_congr ?_ fun p hp => ?_
    · simp only [Host.organization?, Host.of, hd k.tenant rfl]
    · cases p with
      | row scope l =>
        have hg : s.getTemplate scope k.path l = s'.getTemplate scope k.path l :=
          hr ⟨scope, k.path, l⟩ ⟨rfl, _, hp, rfl⟩
        exact congrArg (fun x => Except.mapError EngineError.store (.ok x)) hg
      | listed scope l =>
        have hf := sameFor_listTemplates (c := k.channel) hs hs' (fun l ht =>
          hr ⟨scope, k.path, l⟩ ⟨rfl, _, hp, rfl, isBelow_templatePath.2 ⟨rfl, ht⟩⟩) l
        exact congrArg Except.ok hf
      | membership =>
        simp only [Host.look, Host.of]
        rfl

end Herald
