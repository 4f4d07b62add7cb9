import Herald.Proofs.Resolution.Recall
import Herald.Proofs.Service.Isolation
import Herald.Proofs.Transparency

/-!
# Herald.Proofs.Service.Sequential

A service that answers one call after another.

* `Site`: the caches, and what lies outside.
* `Turn`: a call from its beginning to its end, or what happens between two calls. `Site.turn`,
  `Site.turns`: what a turn and what several of them come to.
* `Site.Has`: what the caches have for a key of the resolved lookups. `Has.kept`, `Has.missing`: the
  turns that do not touch it.
* `resolution_persists`: what was resolved once stays resolved, until it is invalidated.
-/

namespace Herald

open Resolution Lookup

structure Site (η : Type) where
  outside : η
  caches : Caches

/-- What happens next. While a call is answered time goes by, and some of its own calls may fail. -/
inductive Turn (μ : Type) where
  | ask (q : Inquiry) (time : Nat → Nat) (faults : Faults)
  /-- The types that the tenant of a domain has are asked for. -/
  | askDomain (channel : Channel) (domain : String) (time : Nat → Nat) (faults : Faults)
  /-- Something changes outside, and nobody reports it. -/
  | outside (m : μ)
  /-- Something is reported, a tenant is invalidated, or everything is. -/
  | drop (cause : Cause)

/-- The resolved lookup that an inquiry is about, if it is about one. -/
def Inquiry.key? (locales : Locales) : Inquiry → Option TemplateKey
  | call (.resolve tenant application channel templateType raw) =>
    some (keyFor locales tenant application channel templateType raw)
  | _ => none

namespace Turn

variable {μ : Type}

def key? (locales : Locales) : Turn μ → Option TemplateKey
  | ask q _ _ => q.key? locales
  | _ => none

/-- A turn that is no removal, or one that does not concern a key. -/
def Spares (key : TemplateKey) : Turn μ → Prop
  | drop cause => ¬ cause.Concerns .resolved key
  | _ => True

end Turn

namespace Site

variable {η μ : Type} (out : Outside η μ) (locales : Locales)

/-- The surroundings of a call. -/
def scene (s : Site η) (time : Nat → Nat) (faults : Faults) : Scene where
  host i := (out.host s.outside).faulty (faults.store i) (faults.directory i)
  time := time
  caches := s.caches

def turn (s : Site η) : Turn μ → Site η
  | .ask q time faults =>
    { s with caches := ((s.scene out time faults).perform (q.lookup locales)).state.caches }
  | .askDomain channel domain time faults =>
    { s with
      caches :=
        ((s.scene out time faults).perform (Engine.listTemplateTypes channel domain)).state.caches }
  | .outside m => { s with outside := out.act m s.outside }
  | .drop cause => { s with caches := (s.caches.drop cause).state }

def turns (s : Site η) (ts : List (Turn μ)) : Site η := ts.foldl (turn out locales) s

end Site

/-! ## Steps -/

theorem Inquiry.lookup_resolve {locales : Locales} {tenant : String} {application : Option String}
    {channel : Channel} {templateType raw : String} :
    (call (.resolve tenant application channel templateType raw)).lookup locales =
      resolve locales tenant application channel templateType raw := rfl

theorem Inquiry.fillsGaps (locales : Locales) (q : Inquiry) :
    (q.lookup locales).FillsGaps (q.key? locales) := by
  cases q with
  | call c =>
    cases c with
    | resolve => exact fillsGaps_resolve
    | templateTypes => exact fillsGaps_templateTypes
    | applicationTemplates => exact fillsGaps_applicationTemplates
    | organizationTemplates => exact fillsGaps_organizationTemplates
  | applicationTemplateTypes =>
    exact fillsGaps_applicationTemplates.bind fun _ => fillsGaps_pure

theorem fillsGaps_listTemplateTypes {key : Option TemplateKey} {channel : Channel}
    {domain : String} : (Engine.listTemplateTypes channel domain).FillsGaps key := by
  have asked : (ofExcept (.request (.tenantId domain))).FillsGaps key :=
    fun _ => ⟨trivial, fun _ _ => trivial⟩
  refine asked.bind fun found => ?_
  cases found with
  | none => exact fun _ => trivial
  | some tenant => exact fillsGaps_templateTypes

namespace Caches

variable {c : Caches} {cause : Cause} {t : Tier} {k : t.Key}

theorem Lasting.drop (h : c.Lasting) (cause : Cause) : (c.drop cause).state.Lasting := by
  intro t
  rw [drop_state]
  have hm := c.sweep_make cause.targets t
  exact ⟨hm.enabled.trans (h t).1, hm.lifetime.trans (h t).2⟩

theorem value?_drop (c : Caches) (cause : Cause) (t : Tier) (k : t.Key) :
    (c.drop cause).state.value? t k =
      if cause.targets.any (·.covers t k) then none else c.value? t k := by
  rw [drop_state]
  show (((c.sweep cause.targets).state.tier t).entries.get? k).map _ = _
  rw [sweep_get?]
  split <;> rfl

theorem value?_dropped (h : cause.Concerns t k) : (c.drop cause).state.value? t k = none := by
  rw [value?_drop, if_pos h.covered]

theorem value?_spared (h : ¬ cause.Concerns t k) :
    (c.drop cause).state.value? t k = c.value? t k := by
  rw [value?_drop, if_neg fun hc => h (Cause.concerns_of_covered hc)]

end Caches

namespace Site

variable {η μ : Type} {out : Outside η μ} {locales : Locales} {s : Site η} {key : TemplateKey}
  {v : Template}

theorem turn_ask (q : Inquiry) (time : Nat → Nat) (faults : Faults) :
    (s.turn out locales (.ask q time faults)).caches =
      ((s.scene out time faults).perform (q.lookup locales)).state.caches := rfl

/-- A turn fills gaps, unless it is a removal. -/
theorem turn_cases (hs : s.caches.Lasting) (t : Turn μ) :
    (∃ cause, t = .drop cause) ∨
      s.caches.Filled (t.key? locales) (s.turn out locales t).caches := by
  cases t with
  | ask q time faults =>
    exact .inr (Scene.filled_perform (s := s.scene out time faults) (q.fillsGaps locales) hs)
  | askDomain channel domain time faults =>
    exact .inr (Scene.filled_perform (s := s.scene out time faults) fillsGaps_listTemplateTypes hs)
  | outside m => exact .inr (.refl hs)
  | drop cause => exact .inl ⟨cause, rfl⟩

theorem lasting_turn (hs : s.caches.Lasting) (t : Turn μ) :
    (s.turn out locales t).caches.Lasting := by
  rcases turn_cases hs t with ⟨cause, rfl⟩ | h
  · exact hs.drop cause
  · exact h.lasting

/-- What the caches have for a key, if they last. -/
structure Has (s : Site η) (key : TemplateKey) (x : Option Template) : Prop where
  lasting : s.caches.Lasting
  value : s.caches.value? .resolved key = x

theorem lasting_turns (hs : s.caches.Lasting) (ts : List (Turn μ)) :
    (s.turns out locales ts).caches.Lasting := by
  induction ts generalizing s with
  | nil => exact hs
  | cons t ts ih => exact ih (lasting_turn hs t)

namespace Has

theorem turn (h : s.Has key (some v)) {t : Turn μ} (ht : t.Spares key) :
    (s.turn out locales t).Has key (some v) := by
  refine ⟨lasting_turn h.lasting t, ?_⟩
  rcases turn_cases h.lasting t with ⟨cause, rfl⟩ | hf
  · exact (Caches.value?_spared ht).trans h.value
  · exact hf.kept h.value

/-- What is there stays there until a removal concerns it. -/
theorem kept (h : s.Has key (some v)) {ts : List (Turn μ)} (hts : ∀ t ∈ ts, t.Spares key) :
    (s.turns out locales ts).Has key (some v) := by
  induction ts generalizing s with
  | nil => exact h
  | cons t ts ih =>
    obtain ⟨ht, hts⟩ := List.forall_mem_cons.1 hts
    exact ih (h.turn ht) hts

theorem turn_missing (h : s.Has key none) {t : Turn μ} (ht : t.key? locales ≠ some key) :
    (s.turn out locales t).Has key none := by
  refine ⟨lasting_turn h.lasting t, ?_⟩
  rcases turn_cases h.lasting t with ⟨cause, rfl⟩ | hf
  · refine (Caches.value?_drop ..).trans ?_
    rw [h.value, ite_self]
  · rcases hf.value .resolved key with he | ⟨hw, -⟩
    · exact he.trans h.value
    · exact absurd hw ht

/-- What is missing stays missing until it is looked up. -/
theorem missing (h : s.Has key none) {ts : List (Turn μ)}
    (hts : ∀ t ∈ ts, t.key? locales ≠ some key) : (s.turns out locales ts).Has key none := by
  induction ts generalizing s with
  | nil => exact h
  | cons t ts ih =>
    obtain ⟨ht, hts⟩ := List.forall_mem_cons.1 hts
    exact ih (h.turn_missing ht) hts

end Has

section

variable {tenant : String} {application : Option String} {channel : Channel}
  {templateType raw : String} {time : Nat → Nat} {faults : Faults}

theorem turn_resolve : (s.turn out locales
    (.ask (.call (.resolve tenant application channel templateType raw)) time faults)).caches =
      ((s.scene out time faults).perform
        (resolve locales tenant application channel templateType raw)).state.caches := by
  rw [turn_ask, Inquiry.lookup_resolve]

/-- What a lookup hands out is there afterwards. -/
theorem has_of_resolve (hs : s.caches.Lasting)
    (h : ((s.scene out time faults).perform
      (resolve locales tenant application channel templateType raw)).answer = .ok v) :
    (s.turn out locales
      (.ask (.call (.resolve tenant application channel templateType raw)) time faults)).Has
        (keyFor locales tenant application channel templateType raw) (some v) where
  lasting := lasting_turn hs _
  value := by
    rw [turn_resolve]
    exact Scene.value?_of_resolve (s := s.scene out time faults) hs h

theorem Has.again
    (h : s.Has (keyFor locales tenant application channel templateType raw) (some v))
    (out : Outside η μ) (time : Nat → Nat) (faults : Faults) :
    let again := (s.scene out time faults).perform
      (resolve locales tenant application channel templateType raw)
    again.answer = .ok v ∧ again.state.calls = [] ∧ again.state.caches = s.caches :=
  Scene.resolve_recalls (s := s.scene out time faults) h.lasting h.value

theorem Has.asks (h : s.Has (keyFor locales tenant application channel templateType raw) none)
    (out : Outside η μ) (time : Nat → Nat) (faults : Faults) :
    .getTemplate (.tenant tenant) (channel.templatePath templateType) (locales.normalize raw) ∈
      ((s.scene out time faults).perform
        (resolve locales tenant application channel templateType raw)).state.calls :=
  Scene.asks_of_lacks (s := s.scene out time faults) (Caches.lacks_of_missed h.value)

end

end Site

/-- Caches are in use, and entries live until they are invalidated. Whatever was done before, once a
lookup has been answered with a template, the same lookup is answered with that template again, in
whatever form its locale is given. No call of the store or the directory is made for it, and the
caches stay as they are. Calls of any kind may lie between, that fail or not, and any change outside
that nobody reports, and any removal that does not concern the key. After a removal that does, the
next lookup of the key asks the store again. -/
theorem resolution_persists {η μ : Type} (out : Outside η μ) (locales : Locales)
    (config : CacheSettings) (henabled : config.enabled = true) (hlifetime : config.lifetime = none)
    (outside : η) (earlier : List (Turn μ)) (tenant : String) (application : Option String)
    (channel : Channel) (templateType raw : String) (time : Nat → Nat) (faults : Faults)
    (v : Template) :
    let lookup := resolve locales tenant application channel templateType
    let key := keyFor locales tenant application channel templateType raw
    let start := Site.turns out locales ⟨outside, config.caches⟩ earlier
    let first := start.turn out locales
      (.ask (.call (.resolve tenant application channel templateType raw)) time faults)
    ((start.scene out time faults).perform (lookup raw)).answer = .ok v →
    ∀ between raw' time' faults', locales.normalize raw' = locales.normalize raw →
      ((∀ t ∈ between, t.Spares key) →
        let s := first.turns out locales between
        let again := (s.scene out time' faults').perform (lookup raw')
        again.answer = .ok v ∧ again.state.calls = [] ∧ again.state.caches = s.caches) ∧
      ∀ cause after, cause.Concerns .resolved key → (∀ t ∈ after, t.key? locales ≠ some key) →
        let s := ((first.turns out locales between).turn out locales (.drop cause)).turns out
          locales after
        .getTemplate (.tenant tenant) (channel.templatePath templateType) key.locale ∈
          ((s.scene out time' faults').perform (lookup raw')).state.calls := by
  intro lookup key start first hv between raw' time' faults' hraw
  have hkey : keyFor locales tenant application channel templateType raw' = key := by
    show TemplateKey.mk .. = TemplateKey.mk ..
    rw [hraw]
  have hconfig : config.caches = .new true none := by rw [CacheSettings.caches, henabled, hlifetime]
  have hstart : start.caches.Lasting :=
    Site.lasting_turns (hconfig ▸ Caches.lasting_new) earlier
  have hfirst : first.Has key (some v) := Site.has_of_resolve hstart hv
  refine ⟨fun hspares => ?_, fun cause after hcause hafter => ?_⟩
  · intro s
    have hs : s.Has key (some v) := hfirst.kept hspares
    exact Site.Has.again (hkey ▸ hs) out time' faults'
  · intro s
    have hlasting : (first.turns out locales between).caches.Lasting :=
      Site.lasting_turns hfirst.lasting between
    have hdropped : ((first.turns out locales between).turn out locales (.drop cause)).Has key
        none := ⟨Site.lasting_turn hlasting _, Caches.value?_dropped hcause⟩
    have hs : s.Has key none := hdropped.missing hafter
    have hasks := Site.Has.asks (hkey ▸ hs) out time' faults'
    rw [hraw] at hasks
    exact hasks

namespace persistence

def welcome : Template := { templateType := "welcome", locale := "en_US", body := "Hello" }

def memory : Memory where
  store := (Mutation.create (.tenant "acme") .email welcome).apply .empty
  registry := ⟨fun _ => .ok none, fun _ => .ok none⟩

def first : Site Memory :=
  (Site.turns Memory.outside ⟨"en_US"⟩ ⟨memory, CacheSettings.caches {}⟩ []).turn Memory.outside
    ⟨"en_US"⟩ (.ask (.call (.resolve "acme" none .email "welcome" "en-us")) (fun i => i) {})

/-- The row is removed, and nobody reports it. Then others are invalidated, a list is read, and
another lookup finds nothing. -/
def between : List (Turn Deed) :=
  [.outside (.write (.remove (.tenant "acme") .email "welcome" "en_US")),
    .drop (.tenant "globex"),
    .drop (.change ⟨.tenant "acme", .sms, "welcome"⟩),
    .ask (.call (.templateTypes "acme" .email)) (fun i => i) {},
    .ask (.call (.resolve "acme" (some "shop") .email "welcome" "fr-fr")) (fun i => i) {}]

def last : Site Memory := first.turns Memory.outside ⟨"en_US"⟩ between

/-- Another lookup of the tenant. -/
def after : List (Turn Deed) :=
  [.ask (.call (.resolve "acme" none .sms "welcome" "en-us")) (fun i => i) {}]

def dropped : Site Memory :=
  (last.turn Memory.outside ⟨"en_US"⟩ (.drop (.tenant "acme"))).turns Memory.outside ⟨"en_US"⟩ after

/-- The lookup, in another form of its locale. -/
def again (s : Site Memory) : Reply Scene (Except EngineError Template) :=
  (s.scene Memory.outside (fun i => i) {}).perform
    (resolve ⟨"en_US"⟩ "acme" none .email "welcome" "EN_us")

end persistence

/-- A template that is gone is handed out until its tenant is invalidated. -/
theorem resolution_persists_unreported :
    persistence.last.outside.store.getTemplate (.tenant "acme") "/identity/email/welcome" "en_US" =
        none ∧
      ((persistence.again persistence.last).answer = .ok persistence.welcome.normalized ∧
        (persistence.again persistence.last).state.calls = [] ∧
        (persistence.again persistence.last).state.caches = persistence.last.caches) ∧
      .getTemplate (.tenant "acme") "/identity/email/welcome" "en_US" ∈
        (persistence.again persistence.dropped).state.calls := by
  have hrow : persistence.last.outside.store.getTemplate (.tenant "acme") "/identity/email/welcome"
      "en_US" = none := by
    decide +kernel
  have hfirst : (((Site.turns (μ := Deed) Memory.outside ⟨"en_US"⟩
      ⟨persistence.memory, CacheSettings.caches {}⟩ []).scene Memory.outside (fun i => i)
        {}).perform (resolve ⟨"en_US"⟩ "acme" none .email "welcome" "en-us")).answer =
          .ok persistence.welcome.normalized := by
    decide +kernel
  have hkey : Locales.normalize ⟨"en_US"⟩ "en-us" = "en_US" := by decide +kernel
  have hraw : Locales.normalize ⟨"en_US"⟩ "EN_us" = Locales.normalize ⟨"en_US"⟩ "en-us" := by
    decide +kernel
  have hspares : ∀ t ∈ persistence.between, t.Spares
      (keyFor ⟨"en_US"⟩ "acme" none .email "welcome" "en-us") := by
    simp only [persistence.between, List.forall_mem_cons, Turn.Spares, true_and]
    exact ⟨fun h => absurd h.covered (by decide +kernel),
      fun h => absurd h.covered (by decide +kernel), List.forall_mem_nil _⟩
  have hafter : ∀ t ∈ persistence.after, t.key? ⟨"en_US"⟩ ≠
      some (keyFor ⟨"en_US"⟩ "acme" none .email "welcome" "en-us") :=
    List.forall_mem_singleton.2 (by decide +kernel)
  obtain ⟨hkept, hdropped⟩ := resolution_persists Memory.outside ⟨"en_US"⟩ {} rfl rfl
    persistence.memory [] "acme" none .email "welcome" "en-us" (fun i => i) {} _ hfirst
    persistence.between "EN_us" (fun i => i) {} hraw
  have hasks : .getTemplate (.tenant "acme") "/identity/email/welcome"
      (Locales.normalize ⟨"en_US"⟩ "en-us") ∈
        (persistence.again persistence.dropped).state.calls :=
    hdropped (.tenant "acme") persistence.after (.tenantResolved ..) hafter
  rw [hkey] at hasks
  exact ⟨hrow, hkept hspares, hasks⟩

end Herald
