import Herald.Proofs.Program.Follows
import Herald.Proofs.Resolution.Outcome

/-!
# Herald.Proofs.Resolution.Window

What a lookup has to go by when it fills a cache.

* `window t log`: what was exchanged since the generation of tier `t` was looked at, up to a hit in
  `t` or its filling. It ends with either.
* `Exchange.Fits`: an exchange says nothing that a host would not say.
* `Supports`: a window bears out the value that is filled in at its end.
* `Allowed`: a lookup fills a cache only with the generation of an open window that supports the
  value, looks into the lists only one tier at a time, and into the resolved lookups only before it
  has its answer.
-/

namespace Herald

open Resolution

variable {β : Type}

/-- What was exchanged since a generation was looked at. -/
structure Window (β : Type) where
  generation : Nat
  exchanges : Log β

/-- One more exchange. -/
def Window.add (w : Window β) (x : Exchange β) : Window β :=
  { w with exchanges := x :: w.exchanges }

/-- The call whose answers a tier holds, if it holds those of one call. -/
def Tier.source? : (t : Tier) → t.Key → Option Request
  | .types, k => some (.listTemplateTypes k.channel.basePath k.tenant)
  | .apps, k => some (.listTemplates k.scope k.channel.basePath)
  | .orgs, k => some (.listTemplates k.scope k.channel.basePath)
  | .resolved, _ => none

namespace Exchange

/-- The generation of tier `t`, where it is looked at. -/
def opens? (t : Tier) : Exchange β → Option Nat
  | ⟨.generation u, g, _⟩ => if u = t then some g else none
  | _ => none

/-- Whether tier `t` had what was looked for, or was filled. -/
def closes (t : Tier) : Exchange β → Bool
  | ⟨.lookup u _, some _, _⟩ => u = t
  | ⟨.fill u .., _, _⟩ => u = t
  | _ => false

/-- Whether a resolved lookup was had from the cache. -/
def recalls : Exchange β → Bool
  | ⟨.lookup t _, some _, _⟩ => t = .resolved
  | _ => false

/-- The fault that was answered, if it was one. -/
def failure? : Exchange β → Option EngineError
  | ⟨.getTemplate .., .error e, _⟩ => some (.store e)
  | ⟨.listTemplates .., .error e, _⟩ => some (.store e)
  | ⟨.listTemplateTypes .., .error e, _⟩ => some (.store e)
  | ⟨.tenantId _, .error e, _⟩ => some e
  | ⟨.organizationOf _, .error e, _⟩ => some e
  | _ => none

/-- Whether something of the store was learned: from the store itself, or from a cache. -/
def tells : Exchange β → Bool
  | ⟨.getTemplate .., _, _⟩ => true
  | ⟨.listTemplates .., _, _⟩ => true
  | ⟨.listTemplateTypes .., _, _⟩ => true
  | ⟨.lookup _ _, some _, _⟩ => true
  | _ => false

/-- What was consulted: a call, or the call whose answer a cache had. -/
def consults? : Exchange β → Option Request
  | ⟨.getTemplate scope path locale, _, _⟩ => some (.getTemplate scope path locale)
  | ⟨.listTemplates scope path, _, _⟩ => some (.listTemplates scope path)
  | ⟨.listTemplateTypes path tenant, _, _⟩ => some (.listTemplateTypes path tenant)
  | ⟨.tenantId domain, _, _⟩ => some (.tenantId domain)
  | ⟨.organizationOf tenant, _, _⟩ => some (.organizationOf tenant)
  | ⟨.lookup t k, some _, _⟩ => t.source? k
  | _ => none

/-- A host answers a call for a list with a list like the one answered. -/
def ListFits (like : List Template → List Template → Prop) :
    Except StoreError (List Template) → Except StoreError (List Template) → Prop
  | .ok a, .ok b => like a b
  | .error e, .error e' => e = e'
  | _, _ => False

/-- An exchange says nothing that a host would not say, where lists are compared by `like`. -/
def Fits (like : List Template → List Template → Prop) (locales : Locales) (h : Host) :
    Exchange β → Prop
  | ⟨.getTemplate scope path locale, x, _⟩ => h.getTemplate scope path locale = x
  | ⟨.listTemplates scope path, x, _⟩ => ListFits like (h.listTemplates scope path) x
  | ⟨.listTemplateTypes path tenant, x, _⟩ => h.listTemplateTypes path tenant = x
  | ⟨.tenantId domain, x, _⟩ => h.tenantId domain = x
  | ⟨.organizationOf tenant, x, _⟩ => h.organizationOf tenant = x
  | ⟨.lookup .apps k, some v, _⟩ =>
    ListFits like (h.listTemplates k.scope k.channel.basePath) (.ok v)
  | ⟨.lookup .orgs k, some v, _⟩ =>
    ListFits like (h.listTemplates k.scope k.channel.basePath) (.ok v)
  | ⟨.lookup .types k, some v, _⟩ => h.value locales .types k = .ok v
  | ⟨.lookup .resolved k, some v, _⟩ => h.value locales .resolved k = .ok v
  | _ => True

theorem consults?_generation (t : Tier) (g : Nat) (b : β) :
    (⟨.generation t, g, b⟩ : Exchange β).consults? = none := rfl

theorem consults?_miss (t : Tier) (k : t.Key) (b : β) :
    (⟨.lookup t k, none, b⟩ : Exchange β).consults? = none := rfl

theorem consults?_fill (t : Tier) (k : t.Key) (v : t.Value) (g : Nat) (written : Bool) (b : β) :
    (⟨.fill t k v g, written, b⟩ : Exchange β).consults? = none := rfl

theorem consults?_listTemplates (scope : Scope) (path : String)
    (x : Except StoreError (List Template)) (b : β) :
    (⟨.listTemplates scope path, x, b⟩ : Exchange β).consults? =
      some (.listTemplates scope path) := rfl

theorem failure?_generation (t : Tier) (g : Nat) (b : β) :
    (⟨.generation t, g, b⟩ : Exchange β).failure? = none := rfl

theorem failure?_lookup (t : Tier) (k : t.Key) (v : Option t.Value) (b : β) :
    (⟨.lookup t k, v, b⟩ : Exchange β).failure? = none := rfl

theorem failure?_fill (t : Tier) (k : t.Key) (v : t.Value) (g : Nat) (written : Bool) (b : β) :
    (⟨.fill t k v g, written, b⟩ : Exchange β).failure? = none := rfl

theorem failure?_listTemplateTypes (path tenant : String)
    (x : Except StoreError (List String)) (b : β) (e : EngineError) :
    (⟨.listTemplateTypes path tenant, x, b⟩ : Exchange β).failure? = some e ↔
      x.mapError .store = .error e := by
  cases x <;> simp [failure?]

theorem failure?_listTemplates (scope : Scope) (path : String)
    (x : Except StoreError (List Template)) (b : β) (e : EngineError) :
    (⟨.listTemplates scope path, x, b⟩ : Exchange β).failure? = some e ↔
      x.mapError .store = .error e := by
  cases x <;> simp [failure?]

end Exchange

/-- What was exchanged since the generation of a tier was looked at. -/
def window (t : Tier) : Log β → Option (Window β)
  | [] => none
  | x :: log =>
    match x.opens? t with
    | some g => some ⟨g, []⟩
    | none =>
      if x.closes t then none
      else (window t log).map (·.add x)

section

variable {t : Tier} {x : Exchange β} {log : Log β}

theorem window_opens {g : Nat} (h : x.opens? t = some g) : window t (x :: log) = some ⟨g, []⟩ := by
  simp only [window, h]

theorem window_closes (ho : x.opens? t = none) (hc : x.closes t = true) :
    window t (x :: log) = none := by
  simp only [window, ho, hc, if_pos]

theorem window_adds (ho : x.opens? t = none) (hc : x.closes t = false) :
    window t (x :: log) = (window t log).map (·.add x) := by
  simp only [window, ho, hc, Bool.false_eq_true, if_false]

theorem mem_of_window {w : Window β} (h : window t log = some w) : ∀ x ∈ w.exchanges, x ∈ log := by
  induction log generalizing w with
  | nil => cases h
  | cons y log ih =>
    cases ho : y.opens? t with
    | some g =>
      rw [window_opens ho] at h
      cases h
      intro x hx
      cases hx
    | none =>
      cases hc : y.closes t with
      | true =>
        rw [window_closes ho hc] at h
        cases h
      | false =>
        rw [window_adds ho hc] at h
        obtain ⟨w, hw, rfl⟩ := Option.map_eq_some_iff.1 h
        intro x hx
        rcases List.mem_cons.1 hx with rfl | hx
        · exact List.mem_cons_self
        · exact List.mem_cons_of_mem _ (ih hw x hx)

theorem closes_of_window {w : Window β} (h : window t log = some w) :
    ∀ x ∈ w.exchanges, x.closes t = false := by
  induction log generalizing w with
  | nil => cases h
  | cons y log ih =>
    cases ho : y.opens? t with
    | some g =>
      rw [window_opens ho] at h
      cases h
      exact List.forall_mem_nil _
    | none =>
      cases hc : y.closes t with
      | true =>
        rw [window_closes ho hc] at h
        cases h
      | false =>
        rw [window_adds ho hc] at h
        obtain ⟨w, hw, rfl⟩ := Option.map_eq_some_iff.1 h
        exact List.forall_mem_cons.2 ⟨hc, ih hw⟩

theorem mem_record {r : Request} {a : r.Answer} {b : β} (h : x ∈ log.record r a b) :
    x = ⟨r, a, b⟩ ∨ x ∈ log := by
  cases r with
  | note o => exact .inr h
  | _ => exact List.mem_cons.1 h

/-- A window after one more exchange: it has just been opened, or it was open before. -/
theorem window_record {r : Request} {a : r.Answer} {b : β} {w : Window β}
    (h : window t (log.record r a b) = some w) :
    (∃ g, (⟨r, a, b⟩ : Exchange β).opens? t = some g ∧ w = ⟨g, []⟩) ∨
      ∃ w₀, window t log = some w₀ ∧ w.generation = w₀.generation ∧ ∀ x ∈ w.exchanges,
        x ∈ w₀.exchanges ∨ x = ⟨r, a, b⟩ ∧ (⟨r, a, b⟩ : Exchange β).closes t = false := by
  have cons (h : window t (⟨r, a, b⟩ :: log) = some w) :
      (∃ g, (⟨r, a, b⟩ : Exchange β).opens? t = some g ∧ w = ⟨g, []⟩) ∨
        ∃ w₀, window t log = some w₀ ∧ w.generation = w₀.generation ∧ ∀ x ∈ w.exchanges,
          x ∈ w₀.exchanges ∨ x = ⟨r, a, b⟩ ∧ (⟨r, a, b⟩ : Exchange β).closes t = false := by
    cases ho : (⟨r, a, b⟩ : Exchange β).opens? t with
    | some g =>
      rw [window_opens ho] at h
      exact .inl ⟨g, rfl, (Option.some.inj h).symm⟩
    | none =>
      cases hc : (⟨r, a, b⟩ : Exchange β).closes t with
      | true =>
        rw [window_closes ho hc] at h
        cases h
      | false =>
        rw [window_adds ho hc] at h
        obtain ⟨w₀, hw, rfl⟩ := Option.map_eq_some_iff.1 h
        refine .inr ⟨w₀, hw, rfl, fun x hx => ?_⟩
        rcases List.mem_cons.1 hx with rfl | hx
        · exact .inr ⟨rfl, rfl⟩
        · exact .inl hx
  cases r with
  | note o => exact .inr ⟨w, h, rfl, fun x hx => .inl hx⟩
  | _ => exact cons h

end

/-- A host says all that was exchanged. -/
def Agrees (like : List Template → List Template → Prop) (locales : Locales) (h : Host)
    (log : Log β) : Prop := ∀ x ∈ log, x.Fits like locales h

/-- Lists that a search for a type cannot tell apart. -/
def SameFor (templateType : String) (a b : List Template) : Prop :=
  ∀ locale, find? a templateType locale = find? b templateType locale

/-- Who says the same lists says lists that no search can tell apart. -/
theorem Agrees.same {locales : Locales} {h : Host} {log : Log β} {templateType : String}
    (ha : Agrees (· = ·) locales h log) : Agrees (SameFor templateType) locales h log := by
  have same {a b : Except StoreError (List Template)} (hf : Exchange.ListFits (· = ·) a b) :
      Exchange.ListFits (SameFor templateType) a b := by
    cases a with
    | error e => cases b <;> exact hf
    | ok l =>
      cases b with
      | error e => exact hf
      | ok m => exact fun locale => by rw [show l = m from hf]
  intro ⟨r, x, b⟩ hx
  have hf := ha _ hx
  cases r with
  | listTemplates scope path => exact same hf
  | lookup t k =>
    cases x with
    | none => cases t <;> trivial
    | some v =>
      cases t with
      | apps => exact same (b := .ok v) hf
      | orgs => exact same (b := .ok v) hf
      | types => exact hf
      | resolved => exact hf
  | _ => exact hf

/-- Whether a request belongs to the search for a key. -/
def TemplateKey.Involves (k : TemplateKey) : Request → Prop
  | .getTemplate scope path _ => scope = .tenant k.tenant ∧ path = k.path
  | .listTemplates scope path =>
    path = k.channel.basePath ∧
      ((∃ a, k.application = some a ∧ scope = .application k.tenant a) ∨
        ∃ o a, scope = .organization o a)
  | .lookup .apps l =>
    l.tenant = k.tenant ∧ k.application = some l.application ∧ l.channel = k.channel
  | .lookup .orgs l => l.channel = k.channel
  | .lookup .resolved l => l = k
  | .organizationOf tenant => tenant = k.tenant
  | .generation _ => True
  | .fill .. => True
  | _ => False

/-- What is exchanged bears out the value that is filled in for a key: for a list, it is the one
answer that was got; for a resolved lookup, it is what every host gives that says the same. -/
def Supports (locales : Locales) : (t : Tier) → t.Key → t.Value → Log β → Prop
  | .types, k, v, log => ∃ b, log.filter Exchange.tells =
    [⟨.listTemplateTypes k.channel.basePath k.tenant, .ok v, b⟩]
  | .apps, k, v, log => ∃ b, log.filter Exchange.tells =
    [⟨.listTemplates k.scope k.channel.basePath, .ok v, b⟩]
  | .orgs, k, v, log => ∃ b, log.filter Exchange.tells =
    [⟨.listTemplates k.scope k.channel.basePath, .ok v, b⟩]
  | .resolved, k, v, log => (∀ x ∈ log, k.Involves x.request) ∧ (∀ x ∈ log, x.failure? = none) ∧
    ∀ h, Agrees (SameFor k.templateType) locales h log → h.value locales .resolved k = .ok v

/-- What a lookup may ask after some exchanges. -/
def Allowed (locales : Locales) (log : Log β) : Request → Prop
  | .lookup t _ => (∀ u, u ≠ t → u ≠ .resolved → window u log = none) ∧
    (t = .resolved → ∀ x ∈ log, x.closes t = false)
  | .fill t k v g => ∃ w, window t log = some w ∧ w.generation = g ∧
    Supports locales t k v w.exchanges
  | _ => True

theorem mapError_store_eq_ok {α : Type} {x : Except StoreError α} {v : α} :
    x.mapError EngineError.store = .ok v ↔ x = .ok v := by
  cases x with
  | error e => simp
  | ok a => simp

theorem listFits_eq {a b : Except StoreError (List Template)} :
    Exchange.ListFits (· = ·) a b ↔ a = b := by
  cases a with
  | error e => cases b <;> simp [Exchange.ListFits]
  | ok l => cases b <;> simp [Exchange.ListFits]

/-- A host says what was had from a cache if it is what the key stands for. -/
theorem fits_hit {locales : Locales} {h : Host} {t : Tier} {k : t.Key} {v : t.Value} {b : β} :
    (⟨.lookup t k, some v, b⟩ : Exchange β).Fits (· = ·) locales h ↔
      h.value locales t k = .ok v := by
  cases t with
  | types => exact Iff.rfl
  | resolved => exact Iff.rfl
  | apps => exact listFits_eq.trans mapError_store_eq_ok.symm
  | orgs => exact listFits_eq.trans mapError_store_eq_ok.symm

/-- A list that is filled in is the one answer of its call. -/
theorem Supports.called {locales : Locales} {t : Tier} {k : t.Key} {v : t.Value} {log : Log β}
    {q : Request} (hs : Supports locales t k v log) (hq : t.source? k = some q) :
    ∃ x, log.filter Exchange.tells = [x] ∧ x.consults? = some q ∧ x.failure? = none ∧
      x.recalls = false ∧ ∀ h, x.Fits (· = ·) locales h → h.value locales t k = .ok v := by
  cases t with
  | types =>
    obtain ⟨b, hb⟩ := hs
    exact ⟨_, hb, hq, rfl, rfl, fun h hf => mapError_store_eq_ok.2 hf⟩
  | apps =>
    obtain ⟨b, hb⟩ := hs
    exact ⟨_, hb, hq, rfl, rfl, fun h hf => mapError_store_eq_ok.2 (listFits_eq.1 hf)⟩
  | orgs =>
    obtain ⟨b, hb⟩ := hs
    exact ⟨_, hb, hq, rfl, rfl, fun h hf => mapError_store_eq_ok.2 (listFits_eq.1 hf)⟩
  | resolved => cases hq

/-- What is borne out by exchanges that a host says, as far as they are no faults, is what the key
stands for. -/
theorem Supports.value {locales : Locales} {t : Tier} {k : t.Key} {v : t.Value} {log : Log β}
    {h : Host} (hs : Supports locales t k v log)
    (ha : ∀ x ∈ log, x.failure? = none → x.Fits (· = ·) locales h) :
    h.value locales t k = .ok v := by
  cases hq : t.source? k with
  | some q =>
    obtain ⟨x, hx, -, hf, -, hv⟩ := hs.called hq
    have hm : x ∈ log.filter Exchange.tells := hx ▸ List.mem_singleton_self x
    exact hv h (ha x (List.mem_filter.1 hm).1 hf)
  | none =>
    cases t with
    | resolved => exact hs.2.2 h (Agrees.same fun x hx => ha x hx (hs.2.1 x hx))
    | _ => cases hq

end Herald
