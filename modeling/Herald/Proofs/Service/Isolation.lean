import Herald.Proofs.Service.Told
import Herald.Proofs.Store.Catalogue

/-!
# Herald.Proofs.Service.Isolation

What a tenant is handed out.

* `Memory`: a store of this library, and any registry of tenants; `Deed`: what changes them.
* `Grants`: the scopes whose templates a tenant may be handed out.
* `tenant_isolation`: whatever a call is answered with stood at some moment where it belongs.
-/

namespace Herald

open Resolution

structure Registry where
  tenantId : String → Except EngineError (Option String)
  organizationOf : String → Except EngineError (Option String)

/-- A store of this library beside a registry. -/
structure Memory where
  store : Store
  registry : Registry

inductive Deed where
  | write (m : Mutation)
  | register (r : Registry)

namespace Memory

def host (x : Memory) : Host where
  getTemplate scope path locale := .ok (x.store.getTemplate scope path locale)
  listTemplates scope path := .ok (x.store.listTemplates scope path)
  listTemplateTypes path tenant := .ok (x.store.listTemplateTypes path tenant)
  tenantId := x.registry.tenantId
  organizationOf := x.registry.organizationOf

def act : Deed → Memory → Memory
  | .write m, x => { x with store := m.apply x.store }
  | .register r, x => { x with registry := r }

def outside : Outside Memory Deed := ⟨host, act⟩

end Memory

/-- The scopes whose templates a tenant may be handed out; `member` tells its organizations. -/
inductive Grants (tenant : String) (application : Option String) (member : String → Prop) :
    Scope → Prop where
  | tenant : Grants tenant application member (.tenant tenant)
  | application {a : String} (ha : application = some a) :
    Grants tenant application member (.application tenant a)
  | organization {o : String} (ho : member o) :
    Grants tenant application member (.organization o none)
  | both {o a : String} (ho : member o) (ha : application = some a) :
    Grants tenant application member (.organization o (some a))

theorem Grants.of_reaches {key : TemplateKey} {member : String → Prop} {scope : Scope}
    (h : key.Reaches member scope) : Grants key.tenant key.application member scope := by
  cases h with
  | application ha => exact .application ha
  | @organization o a ho ha =>
    cases a with
    | none => exact .organization ho
    | some a => exact .both ho (ha.resolve_left nofun).symm

/-- A template stands where its type and its locale say. -/
theorem Store.Sound.type_locale {s : Store} (hs : s.Sound) {scope : Scope} {channel : Channel}
    {templateType locale : String} {t : Template}
    (h : s.getTemplate scope (channel.templatePath templateType) locale = some t) :
    t.templateType = templateType ∧ t.locale = locale := by
  obtain ⟨-, c, hk⟩ := hs _ t h
  have hp : channel.templatePath templateType = c.templatePath t.templateType :=
    congrArg RowKey.path hk
  have hl : locale = t.locale := congrArg RowKey.locale hk
  exact ⟨(templatePath_inj hp).2.symm, hl.symm⟩

namespace Service

variable (locales : Locales) (sh : Sharding) (first : Service Memory) (moves : List (Move Deed))

/-- At some moment of a run, a template stood in a scope and a channel. -/
def Stood (scope : Scope) (channel : Channel) (t : Template) : Prop :=
  first.Once Memory.outside locales sh moves fun x =>
    x.store.getTemplate scope (channel.templatePath t.templateType) t.locale = some t

/-- At some moment of a run, a tenant was a member of an organization. -/
def Member (tenant organization : String) : Prop :=
  first.Once Memory.outside locales sh moves fun x =>
    x.registry.organizationOf tenant = .ok (some organization)

variable {locales sh first moves}

theorem sound_run (h : first.outside.store.Sound) (before : List (Move Deed)) :
    (first.run Memory.outside locales sh before).outside.store.Sound := by
  refine run_outside (P := fun x : Memory => x.store.Sound) (fun m x hx => ?_) h before
  cases m with
  | write m => exact hx.apply m
  | register r => exact hx

theorem stood_of_row (h : first.outside.store.Sound) {scope : Scope} {channel : Channel}
    {templateType locale : String} {t : Template}
    (hr : (first.sources Memory.outside locales sh moves).row scope
      (channel.templatePath templateType) locale t) :
    t.templateType = templateType ∧ t.locale = locale ∧
      Stood locales sh first moves scope channel t := by
  obtain ⟨before, hb, hr⟩ := hr
  have hr := Except.ok.inj hr
  obtain ⟨rfl, rfl⟩ := (sound_run h before).type_locale hr
  exact ⟨rfl, rfl, before, hb, hr⟩

theorem stood_of_list (h : first.outside.store.Sound) {scope : Scope} {channel : Channel}
    {v : List Template}
    (hv : (first.sources Memory.outside locales sh moves).list scope channel.basePath v)
    {t : Template} (ht : t ∈ v) : Stood locales sh first moves scope channel t := by
  obtain ⟨before, hb, hv⟩ := hv
  obtain rfl := Except.ok.inj hv
  exact ⟨before, hb, (mem_listTemplates (sound_run h before)).1 ht⟩

/-- What is found for a key stood where the key may look. -/
theorem stood_of_offers (h : first.outside.store.Sound) {key : TemplateKey} {t : Template}
    (ho : (first.sources Memory.outside locales sh moves).Offers locales key t) :
    t.templateType = key.templateType ∧ t.locale ∈ localesFor locales key ∧
      ∃ scope, Grants key.tenant key.application (Member locales sh first moves key.tenant) scope ∧
        Stood locales sh first moves scope key.channel t := by
  cases ho with
  | row hl hr =>
    obtain ⟨htype, rfl, hs⟩ := stood_of_row h hr
    exact ⟨htype, hl, _, .tenant, hs⟩
  | listed hl hs hv ht =>
    have hm := List.mem_of_find?_eq_some ht
    obtain ⟨htype, rfl⟩ : t.templateType = key.templateType ∧ t.locale = _ := by
      simpa using List.find?_some ht
    exact ⟨htype, hl, _, .of_reaches hs, stood_of_list h hv hm⟩

end Service

/-- Whatever entries are stale and whichever writes are never reported: what a call is answered with
stood, at some moment of the run, in the channel that was asked for and in a scope of the tenant, of
the application, or of an organization of which the tenant was a member at some moment. A run may
end as soon as there is the answer, so no moment is later than that. -/
theorem tenant_isolation {memory : Memory} (hstart : memory.store.Seeded) (locales : Locales)
    (sh : Sharding) (enabled : Bool) (lifetime : Option Nat) (moves : List (Service.Move Deed)) :
    let first := Service.start memory enabled lifetime
    let s := first.run Memory.outside locales sh moves
    let Stood := Service.Stood locales sh first moves
    let Member := Service.Member locales sh first moves
    (∀ tenant application channel templateType raw v,
      s.Answers (.call (.resolve tenant application channel templateType raw)) v →
        ∃ t scope, v = t.normalized ∧ t.templateType = templateType ∧
          (t.locale = locales.normalize raw ∨ t.locale = locales.default) ∧
          Grants tenant application (Member tenant) scope ∧ Stood scope channel t) ∧
    (∀ tenant channel v, s.Answers (.call (.templateTypes tenant channel)) v →
      ∀ templateType ∈ v, ∃ t : Template, t.templateType = templateType ∧
        Stood (.tenant tenant) channel t) ∧
    (∀ tenant application channel v,
      s.Answers (.applicationTemplateTypes tenant application channel) v →
        ∀ templateType ∈ v, ∃ t : Template, t.templateType = templateType ∧
          Stood (.application tenant application) channel t) ∧
    (∀ tenant application channel v,
      s.Answers (.call (.applicationTemplates tenant application channel)) v →
        ∀ t ∈ v, Stood (.application tenant application) channel t) ∧
    ∀ organization application channel v,
      s.Answers (.call (.organizationTemplates organization application channel)) v →
        ∀ t ∈ v, Stood (.organization organization application) channel t := by
  intro first s Stood Member
  have hs : first.outside.store.Sound := hstart.sound
  have ht := Service.told_run Memory.outside locales sh memory enabled lifetime moves
  refine ⟨fun tenant application channel templateType raw v ha => ?_,
    fun tenant channel v ha => ?_, fun tenant application channel v ha => ?_,
    fun tenant application channel v ha => ?_, fun organization application channel v ha => ?_⟩
  · obtain ⟨t, ho, hv⟩ := ht.borne ha
    obtain ⟨htype, hl, scope, hg, hstood⟩ := Service.stood_of_offers hs ho
    exact ⟨t, scope, (accepted_eq_ok.1 hv).2, htype, mem_localesFor hl, hg, hstood⟩
  · intro templateType htype
    obtain ⟨before, hb, hv⟩ := ht.borne ha
    obtain rfl := Except.ok.inj hv
    obtain ⟨t, hlisted, rfl⟩ := mem_listTemplateTypes.1 htype
    exact ⟨t, rfl, before, hb, (mem_listTemplates (Service.sound_run hs before)).1 hlisted⟩
  · intro templateType htype
    obtain ⟨listed, hlisted, rfl⟩ := ht.borne ha
    obtain ⟨t, htl, rfl⟩ := List.mem_map.1 (Ordered.mem_distinct.1 htype)
    exact ⟨t, rfl, Service.stood_of_list hs hlisted htl⟩
  · exact fun t htv => Service.stood_of_list hs (ht.borne ha) htv
  · exact fun t htv => Service.stood_of_list hs (ht.borne ha) htv

namespace isolation

def welcome : Template := { templateType := "welcome", locale := "en_US", body := "Hello" }

def root : Scope := .organization "root" none

def lookup : Inquiry := .call (.resolve "acme" none .email "welcome" "en-us")

/-- A template of the organization is looked up. Then it is removed, nobody is a member any more,
and nothing of this is reported before it is looked up again. -/
def moves : List (Service.Move Deed) :=
  [.outside (.write (.create root .email welcome)), .begin lookup] ++
    List.replicate 30 (.proceed 0) ++
    [.outside (.write (.remove root .email "welcome" "en_US")),
      .outside (.register ⟨fun _ => .ok none, fun _ => .ok none⟩), .begin lookup] ++
    List.replicate 30 (.proceed 1)

def memory : Memory where
  store := .empty
  registry := ⟨fun _ => .ok none, fun tenant => .ok (if tenant = "acme" then some "root" else none)⟩

def first : Service Memory := .start memory true none

def last : Service Memory := first.run Memory.outside ⟨"en_US"⟩ .single moves

end isolation

/-- What is found in the cache stood where the tenant may look, as long as it was a member. -/
theorem tenant_isolation_stale :
    (isolation.last.outside.store.getTemplate isolation.root "/identity/email/welcome" "en_US" =
        none ∧
      isolation.last.outside.registry.organizationOf "acme" = .ok none) ∧
      ∃ v, isolation.last.Answers isolation.lookup v ∧ v.body = "Hello" ∧ ∃ t scope,
        v = t.normalized ∧ t.templateType = "welcome" ∧
          Grants "acme" none
            (Service.Member ⟨"en_US"⟩ .single isolation.first isolation.moves "acme") scope ∧
          Service.Stood ⟨"en_US"⟩ .single isolation.first isolation.moves scope .email t := by
  have hrow : isolation.last.outside.store.getTemplate isolation.root "/identity/email/welcome"
      "en_US" = none := by
    decide +kernel
  have hmember : isolation.last.outside.registry.organizationOf "acme" = .ok none := by
    decide +kernel
  have hanswer : isolation.last.errands[1]?.bind Errand.settled? =
      some (⟨"acme", none, .email, "welcome", "en-us"⟩, .ok isolation.welcome.normalized) := by
    decide +kernel
  have ha := Service.answers_of_settled hanswer
  have hseeded : isolation.memory.store.Seeded := .inl rfl
  have hs := tenant_isolation hseeded ⟨"en_US"⟩ .single true none isolation.moves
  obtain ⟨t, scope, hv, htype, -, hg, hstood⟩ := hs.1 _ _ _ _ _ _ ha
  exact ⟨⟨hrow, hmember⟩, _, ha, rfl, t, scope, hv, htype, hg, hstood⟩

end Herald
