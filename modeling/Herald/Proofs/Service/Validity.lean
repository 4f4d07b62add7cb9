import Herald.Proofs.Resolution.Order
import Herald.Proofs.Resolution.Retry
import Herald.Proofs.Service.Told

/-!
# Herald.Proofs.Service.Validity

What becomes of rows that are not valid.

A host may answer with any rows and any lists, and with others each time. A lookup checks the one
template that it comes upon. A list is kept as it was answered.

* `invalid_never_resolved`: a template that is not valid is never handed out, nor kept as what a
  lookup resolved to.
* `invalid_listed`: but it is kept in a list, and the store is not asked for it again.
-/

namespace Herald

open Resolution

/-- A host that is another one at every move. -/
def Host.outside : Outside Host Host := ⟨id, fun h _ => h⟩

theorem valid_normalized (t : Template) : t.normalized.valid = t.valid := rfl

theorem valid_of_backs {S : Sources} {locales : Locales} {key : TemplateKey} {v : Template}
    (h : S.Backs locales .resolved key v) : v.valid = true := by
  obtain ⟨t, -, ha⟩ := h
  obtain ⟨hv, rfl⟩ := accepted_eq_ok.1 ha
  rw [valid_normalized]
  exact hv

def TemplateKey.corrupt (key : TemplateKey) (d : Template.Defect) : EngineError :=
  .store (.corrupt key.path (EngineError.invalidTemplate d.message).message)

theorem accepted_of_defect {key : TemplateKey} {t : Template} {d : Template.Defect}
    (h : t.defect? = some d) : t.accepted key = .error (key.corrupt d) := by
  rw [Template.accepted, h]
  rfl

/-- A lookup that comes upon a template that is not valid tells so, and fills in nothing. -/
theorem Concludes.corrupt {β : Type} {locales : Locales} {key : TemplateKey} {log : Log β}
    {r : Except EngineError Template} (h : Concludes locales key log r) {t : Template}
    {d : Template.Defect} (ht : log.met? key = some t) (hd : t.defect? = some d) :
    r = .error (key.corrupt d) ∧ ∀ x ∈ log, x.closes .resolved = false := by
  cases h with
  | recalled hx hmet =>
    rw [hmet] at ht
    cases ht
  | searched hmissed hrow hmet hempty hfaulty =>
    have hr := (hmet t ht).2.trans (accepted_of_defect hd)
    exact ⟨hr, hfaulty _ hr⟩

/-- Whatever a host answers: no template that is not valid is handed out by a lookup, or kept as
what a lookup resolved to. A lookup that comes upon one fails and fills nothing in, and the next
lookup of its key asks for the row of the tenant again. The lists of applications and of
organizations are kept just as they were answered. -/
theorem invalid_never_resolved (host : Host) (locales : Locales) (sh : Sharding) (enabled : Bool)
    (lifetime : Option Nat) (moves : List (Service.Move Host)) :
    let first := Service.start host enabled lifetime
    let s := first.run Host.outside locales sh moves
    let Listed (scope : Scope) (channel : Channel) (v : List Template) : Prop :=
      first.Once Host.outside locales sh moves fun h =>
        h.listTemplates scope channel.basePath = .ok v
    (∀ k e, (s.caches.tier .resolved).entries.get? k = some e → e.value.valid = true) ∧
    (∀ k e, (s.caches.tier .apps).entries.get? k = some e → Listed k.scope k.channel e.value) ∧
    (∀ k e, (s.caches.tier .orgs).entries.get? k = some e → Listed k.scope k.channel e.value) ∧
    (∀ tenant application channel templateType raw r log,
      ⟨.call (.resolve tenant application channel templateType raw), .done r, log⟩ ∈ s.errands →
        let key := keyFor locales tenant application channel templateType raw
        (∀ v, r = .ok v → v.valid = true) ∧
        ∀ t d, log.met? key = some t → t.defect? = some d →
          r = .error (key.corrupt d) ∧ ∀ x ∈ log, x.closes .resolved = false) ∧
    ∀ (scene : Scene) tenant application channel templateType raw e,
      let lookup := resolve locales tenant application channel templateType raw
      (scene.perform lookup).answer = .error e → ∀ (host : Nat → Host) (time : Nat → Nat),
        .getTemplate (.tenant tenant) (channel.templatePath templateType) (locales.normalize raw) ∈
          (((scene.perform lookup).state.later host time).perform lookup).state.calls := by
  intro first s Listed
  have ht := Service.told_run Host.outside locales sh host enabled lifetime moves
  refine ⟨fun k e he => valid_of_backs (ht.caches .resolved k e he),
    fun k e he => ht.caches .apps k e he, fun k e he => ht.caches .orgs k e he, ?_, ?_⟩
  · intro tenant application channel templateType raw r log hm key
    have hended := (ht.errands _ hm).follows
    refine ⟨fun v hv => ?_, fun t d => Concludes.corrupt hended⟩
    subst hv
    exact valid_of_backs (ht.borne ⟨log, hm⟩)
  · intro scene tenant application channel templateType raw e lookup he host time
    subst lookup
    exact Scene.asks_again he host time

namespace invalid

def row : Template := { templateType := "welcome", locale := "en_US", body := " " }

def fault : EngineError :=
  (keyFor ⟨"en_US"⟩ "acme" (some "portal") .email "welcome" "en_US").corrupt
    (.emptyBody "welcome" "en_US")

/-- A host that has it in one scope. -/
def host (scope : Scope) : Host where
  getTemplate s _ _ := .ok (if s = scope then some row else none)
  listTemplates s _ := .ok (if s = scope then [row] else [])
  listTemplateTypes _ _ := .ok []
  tenantId _ := .ok none
  organizationOf _ := .ok none

def lookup : Inquiry := .call (.resolve "acme" (some "portal") .email "welcome" "en_US")

def key : TemplateKey := ⟨"acme", some "portal", .email, "welcome", "en_US"⟩

/-- Two lookups, one after the other. -/
def moves : List (Service.Move Host) :=
  [.begin lookup] ++ List.replicate 30 (.proceed 0) ++ [.begin lookup] ++
    List.replicate 30 (.proceed 1)

def last (scope : Scope) : Service Host :=
  (Service.start (host scope) true none).run Host.outside ⟨"en_US"⟩ .single moves

end invalid

/-- The row of the tenant is not valid. The second lookup comes upon it as the first one did. -/
theorem invalid_never_resolved_row :
    ∃ log : Log Unit, ⟨invalid.lookup, .done (.error invalid.fault), log⟩ ∈
        (invalid.last (.tenant "acme")).errands ∧
      log.met? invalid.key = some invalid.row ∧ invalid.row.valid = false ∧
        ∀ x ∈ log, x.closes .resolved = false := by
  have h : ((invalid.last (.tenant "acme")).errands[1]?).map (fun e =>
      (e.settled?, e.log.met? invalid.key)) =
        some (some (invalid.key, .error invalid.fault), some invalid.row) := by
    decide +kernel
  obtain ⟨e, he, hs⟩ := Option.map_eq_some_iff.1 h
  obtain ⟨hsettled, hmet⟩ := Prod.mk.inj hs
  have hm := List.mem_of_getElem? he
  rw [Errand.eq_of_settled hsettled] at hm
  have hv := invalid_never_resolved (invalid.host (.tenant "acme")) ⟨"en_US"⟩ .single true none
    invalid.moves
  obtain ⟨-, hcloses⟩ := (hv.2.2.2.1 _ _ _ _ _ _ _ hm).2 invalid.row
    (.emptyBody "welcome" "en_US") hmet (by decide)
  exact ⟨e.log, hm, hmet, by decide, hcloses⟩

/-- The only row is in the list of an application, and is not valid. The list is kept, and the
second lookup fails without asking for it. -/
theorem invalid_listed :
    let s := invalid.last (.application "acme" "portal")
    s.errands.map Errand.settled? =
        [some (invalid.key, .error invalid.fault), some (invalid.key, .error invalid.fault)] ∧
      s.errands.map (·.log.any (·.request.lists)) = [true, false] ∧
      ((s.caches.tier .apps).entries.get? ⟨"acme", "portal", .email⟩).map (·.value) =
        some [invalid.row] ∧ invalid.row.valid = false := by
  decide +kernel

end Herald
