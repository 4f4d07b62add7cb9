import Herald.Proofs.Resolution.Search

/-!
# Herald.Proofs.Resolution.Sources

What a lookup has to go by when the answers of its store change while it runs.

* `Sources`: what was told, by anyone at any time. `Log.sources`: what the exchanges tell.
* `Sources.Offers`: where a template may have been found for a key; `Sources.Backs`: what bears out
  the value of a key.
* `Log.met?`: the template that a search came upon last.
* `Grounded`: a lookup fills in only what its exchanges bear out. The lemmas named `grounded_` say
  so of each lookup.
-/

namespace Herald

open Resolution Lookup

theorem accepted_eq_ok {t v : Template} {key : TemplateKey} :
    t.accepted key = .ok v ↔ t.valid = true ∧ v = t.normalized := by
  unfold Template.accepted Template.valid
  cases t.defect? with
  | none => simp [eq_comm]
  | some d => simp

/-- What a store and a directory told. -/
structure Sources where
  row : Scope → String → String → Template → Prop
  list : Scope → String → List Template → Prop
  types : String → String → List String → Prop
  member : String → String → Prop

/-- The scopes beside the tenant's own in which a template may be found, where `member` tells the
organizations of the tenant. -/
inductive TemplateKey.Reaches (key : TemplateKey) (member : String → Prop) : Scope → Prop where
  | application {a : String} (ha : key.application = some a) :
    key.Reaches member (.application key.tenant a)
  | organization {o : String} {a : Option String} (ho : member o)
    (ha : a = none ∨ a = key.application) : key.Reaches member (.organization o a)

theorem TemplateKey.Reaches.imp {key : TemplateKey} {member member' : String → Prop} {scope : Scope}
    (h : key.Reaches member scope) (hm : ∀ o, member o → member' o) :
    key.Reaches member' scope := by
  cases h with
  | application ha => exact .application ha
  | organization ho ha => exact .organization (hm _ ho) ha

namespace Sources

variable {S S' : Sources} {locales : Locales} {key : TemplateKey} {t : Template}

/-- Where a template may have been found for a key. -/
inductive Offers (S : Sources) (locales : Locales) (key : TemplateKey) : Template → Prop where
  | row {locale : String} {t : Template} (hl : locale ∈ localesFor locales key)
    (hr : S.row (.tenant key.tenant) key.path locale t) : S.Offers locales key t
  | listed {scope : Scope} {v : List Template} {locale : String} {t : Template}
    (hl : locale ∈ localesFor locales key) (hs : key.Reaches (S.member key.tenant) scope)
    (hv : S.list scope key.channel.basePath v)
    (ht : find? v key.templateType locale = some t) : S.Offers locales key t

def Backs (S : Sources) (locales : Locales) : (t : Tier) → t.Key → t.Value → Prop
  | .types, k, v => S.types k.channel.basePath k.tenant v
  | .apps, k, v => S.list k.scope k.channel.basePath v
  | .orgs, k, v => S.list k.scope k.channel.basePath v
  | .resolved, k, v => ∃ t, S.Offers locales k t ∧ t.accepted k = .ok v

structure Within (S S' : Sources) : Prop where
  row : ∀ scope path locale t, S.row scope path locale t → S'.row scope path locale t
  list : ∀ scope path v, S.list scope path v → S'.list scope path v
  types : ∀ path tenant v, S.types path tenant v → S'.types path tenant v
  member : ∀ tenant o, S.member tenant o → S'.member tenant o

theorem Offers.within (h : S.Offers locales key t) (hw : S.Within S') :
    S'.Offers locales key t := by
  cases h with
  | row hl hr => exact .row hl (hw.row _ _ _ _ hr)
  | listed hl hs hv ht => exact .listed hl (hs.imp (hw.member _)) (hw.list _ _ _ hv) ht

theorem Backs.within {t : Tier} {k : t.Key} {v : t.Value} (h : S.Backs locales t k v)
    (hw : S.Within S') : S'.Backs locales t k v := by
  cases t with
  | types => exact hw.types _ _ _ h
  | apps => exact hw.list _ _ _ h
  | orgs => exact hw.list _ _ _ h
  | resolved =>
    obtain ⟨t, ho, ha⟩ := h
    exact ⟨t, ho.within hw, ha⟩

end Sources

variable {β : Type} {locales : Locales} {key : TemplateKey} {log log' : Log β}

namespace Exchange

/-- The list of a scope that was learned, from the store or from a cache. -/
def list? : Exchange β → Option (Scope × String × List Template)
  | ⟨.listTemplates scope path, .ok v, _⟩ => some (scope, path, v)
  | ⟨.lookup .apps k, some v, _⟩ => some (k.scope, k.channel.basePath, v)
  | ⟨.lookup .orgs k, some v, _⟩ => some (k.scope, k.channel.basePath, v)
  | _ => none

def row? : Exchange β → Option Template
  | ⟨.getTemplate .., .ok found, _⟩ => found
  | _ => none

/-- The template that a search for a key comes upon, while it looks in a locale. -/
def shows? (key : TemplateKey) (locale : Option String) (x : Exchange β) : Option Template :=
  match x.list? with
  | some (_, _, v) => locale.bind (find? v key.templateType ·)
  | none => x.row?

/-- Sources tell what an exchange says. -/
def Told (S : Sources) (locales : Locales) : Exchange β → Prop
  | ⟨.getTemplate scope path locale, .ok (some t), _⟩ => S.row scope path locale t
  | ⟨.listTemplates scope path, .ok v, _⟩ => S.list scope path v
  | ⟨.listTemplateTypes path tenant, .ok v, _⟩ => S.types path tenant v
  | ⟨.organizationOf tenant, .ok (some o), _⟩ => S.member tenant o
  | ⟨.lookup t k, some v, _⟩ => S.Backs locales t k v
  | _ => True

theorem Told.list {S : Sources} {x : Exchange β} (h : x.Told S locales) {scope : Scope}
    {path : String} {v : List Template} (hx : x.list? = some (scope, path, v)) :
    S.list scope path v := by
  obtain ⟨r, a, b⟩ := x
  cases r with
  | listTemplates scope' path' =>
    cases a with
    | error e => cases hx
    | ok w =>
      cases hx
      exact h
  | lookup t k =>
    cases a with
    | none => cases t <;> cases hx
    | some w =>
      cases t with
      | apps =>
        cases hx
        exact h
      | orgs =>
        cases hx
        exact h
      | types => cases hx
      | resolved => cases hx
  | _ => cases hx

theorem shows?_list {x : Exchange β} {scope : Scope} {path locale : String} {v : List Template}
    (hx : x.list? = some (scope, path, v)) :
    x.shows? key (some locale) = find? v key.templateType locale := by
  simp [shows?, hx]

@[simp] theorem shows?_generation (locale : Option String) (t : Tier) (g : Nat) (b : β) :
    (⟨.generation t, g, b⟩ : Exchange β).shows? key locale = none := rfl

@[simp] theorem shows?_miss (locale : Option String) (t : Tier) (k : t.Key) (b : β) :
    (⟨.lookup t k, none, b⟩ : Exchange β).shows? key locale = none := by
  cases t <;> rfl

@[simp] theorem shows?_fill (locale : Option String) (t : Tier) (k : t.Key) (v : t.Value) (g : Nat)
    (written : Bool) (b : β) :
    (⟨.fill t k v g, written, b⟩ : Exchange β).shows? key locale = none := rfl

@[simp] theorem shows?_organizationOf (locale : Option String) (tenant : String)
    (x : Except EngineError (Option String)) (b : β) :
    (⟨.organizationOf tenant, x, b⟩ : Exchange β).shows? key locale = none := rfl

end Exchange

namespace Log

/-- What exchanges tell. -/
def sources (log : Log β) : Sources where
  row scope path locale t := ∃ b, ⟨.getTemplate scope path locale, .ok (some t), b⟩ ∈ log
  list scope path v := ∃ x ∈ log, x.list? = some (scope, path, v)
  types path tenant v := ∃ b, ⟨.listTemplateTypes path tenant, .ok v, b⟩ ∈ log
  member tenant o := ∃ b, ⟨.organizationOf tenant, .ok (some o), b⟩ ∈ log

/-- The locale that a search looks in: it asks for the row of the tenant first. -/
def passing : Log β → Option String
  | [] => none
  | ⟨.getTemplate _ _ locale, _, _⟩ :: _ => some locale
  | _ :: log => passing log

/-- The template that a search for a key came upon last. -/
def met? (key : TemplateKey) : Log β → Option Template
  | [] => none
  | x :: log => (x.shows? key (passing (x :: log))).or (met? key log)

theorem sources_within {S : Sources} (h : ∀ x ∈ log, x.Told S locales) : log.sources.Within S where
  row _ _ _ _ := fun ⟨_, hb⟩ => h _ hb
  list _ _ _ := fun ⟨_, hx, hl⟩ => (h _ hx).list hl
  types _ _ _ := fun ⟨_, hb⟩ => h _ hb
  member _ _ := fun ⟨_, hb⟩ => h _ hb

theorem sources_suffix (h : log <:+ log') : log.sources.Within log'.sources where
  row _ _ _ _ := fun ⟨b, hb⟩ => ⟨b, h.subset hb⟩
  list _ _ _ := fun ⟨x, hx, hl⟩ => ⟨x, h.subset hx, hl⟩
  types _ _ _ := fun ⟨b, hb⟩ => ⟨b, h.subset hb⟩
  member _ _ := fun ⟨b, hb⟩ => ⟨b, h.subset hb⟩

end Log

/-- What a lookup may ask after some exchanges. It fills in what they bear out, and looks for a
resolved lookup only before it has one. -/
def Grounded (locales : Locales) (log : Log β) : Request → Prop
  | .lookup t _ => t = .resolved → ∀ x ∈ log, x.closes .resolved = false
  | .fill t k v _ => log.sources.Backs locales t k v
  | _ => True

theorem grounded_note (log : Log β) (o : Observation) : Grounded locales log (.note o) := trivial

/-! ## Lists -/

section

variable [Nonempty β]

theorem grounded_templateTypes {tenant : String} {channel : Channel} :
    (templateTypes tenant channel).run.Follows (Grounded locales)
      (ReadThrough .types ⟨tenant, channel⟩
        (fun x b => ⟨.listTemplateTypes channel.basePath tenant, x, b⟩) log) log :=
  follows_cached grounded_note (fun _ _ h => ⟨trivial, h⟩) trivial (fun _ _ => nofun)
    fun _ _ _ _ c => ⟨c, List.mem_cons_self⟩

theorem grounded_applicationTemplates {tenant application : String} {channel : Channel} :
    (applicationTemplates tenant application channel).run.Follows (Grounded locales)
      (ReadThrough .apps ⟨tenant, application, channel⟩
        (fun x b => ⟨.listTemplates (.application tenant application) channel.basePath, x, b⟩)
        log) log :=
  follows_cached grounded_note (fun _ _ h => ⟨trivial, h⟩) trivial (fun _ _ => nofun)
    fun _ _ _ _ _ => ⟨_, List.mem_cons_self, rfl⟩

theorem grounded_organizationTemplates {organization : String} {application : Option String}
    {channel : Channel} :
    (organizationTemplates organization application channel).run.Follows (Grounded locales)
      (ReadThrough .orgs ⟨organization, application, channel⟩
        (fun x b => ⟨.listTemplates (.organization organization application) channel.basePath, x,
          b⟩) log) log :=
  follows_cached grounded_note (fun _ _ h => ⟨trivial, h⟩) trivial (fun _ _ => nofun)
    fun _ _ _ _ _ => ⟨_, List.mem_cons_self, rfl⟩

end

end Herald
