import Herald.Proofs.Resolution.Gaps
import Herald.Proofs.Resolution.Retry

/-!
# Herald.Proofs.Resolution.Recall

A lookup in caches that last.

* `Scene.after`: what a lookup comes to, and what the scene is then. The lemmas named `after_` put
  it together from its parts.
* `Scene.resolve_recalls`: an answer that is there is handed out again; nobody is asked, and
  nothing changes.
* `Scene.value?_of_resolve`: what a lookup hands out is there afterwards.
* `Caches.lacks_of_missed`: what is not there cannot be had.
-/

namespace Herald

open Resolution Lookup

variable {α β : Type}

theorem Program.run_andThen {σ : Type} (answer : (r : Request) → σ → Reply σ r.Answer)
    (p : Program β) (f : β → Program α) (s : σ) :
    (p.andThen f).run answer s =
      let first := p.run answer s
      let rest := (f first.answer).run answer first.state
      ⟨rest.answer, rest.state, first.notes ++ rest.notes⟩ := by
  induction p generalizing s with
  | done b => rfl
  | ask r next ih => simp only [andThen, run, ih, List.append_assoc]

namespace Scene

variable {s : Scene}

/-- What a lookup comes to, and the scene afterwards. -/
def after (s : Scene) (l : Lookup α) : Except EngineError α × Scene :=
  ((s.perform l).answer, (s.perform l).state)

theorem after_eq (l : Lookup α) :
    s.after l = ((l.run.run answer s).answer, (l.run.run answer s).state) := rfl

theorem after_of_answer {l : Lookup α} {r : Except EngineError α} (h : (s.perform l).answer = r) :
    s.after l = (r, (s.perform l).state) := by
  rw [after, h]

theorem after_note (o : Observation) : s.after (note o) = (.ok (), s) := rfl

theorem after_bind (l : Lookup β) (f : β → Lookup α) :
    s.after (l >>= f) =
      match s.after l with
      | (.ok b, s') => s'.after (f b)
      | (.error e, s') => (.error e, s') := by
  have h : (l >>= f).run = l.run.andThen (ExceptT.bindCont f) := rfl
  rw [after_eq, after_eq, h, Program.run_andThen]
  generalize l.run.run answer s = reply
  obtain ⟨x, s', os⟩ := reply
  cases x <;> rfl

theorem after_notes (os : List Observation) :
    s.after (ExceptT.lift (Program.notes os)) = (.ok (), s) := by
  induction os with
  | nil => rfl
  | cons o os ih =>
    have h : ExceptT.lift (Program.notes (o :: os)) =
        (note o >>= fun _ => ExceptT.lift (Program.notes os) : Lookup Unit) := rfl
    rw [h, after_bind, after_note]
    exact ih

/-- A lookup whose failure is told as an answer. -/
theorem after_lift_run (l : Lookup α) :
    s.after (ExceptT.lift l.run) = (.ok (s.after l).1, (s.after l).2) := by
  have h : (ExceptT.lift l.run : Lookup (Except EngineError α)).run =
      l.run.andThen fun r => .done (.ok r) := rfl
  rw [after_eq, h, Program.run_andThen]
  rfl

theorem after_inSpan (name : String) (l : Lookup α) : s.after (inSpan name l) = s.after l := by
  have h : inSpan name l = (do
    note (.spanOpened name)
    let result ← ExceptT.lift l.run
    note .spanClosed
    ofExcept (.done result)) := rfl
  rw [h, after_bind, after_note]
  show s.after (ExceptT.lift l.run >>= _) = _
  rw [after_bind, after_lift_run]
  rfl

theorem after_generation (t : Tier) : s.after (request (.generation t)) =
    (.ok (s.caches.tier t).generation, { s with asked := s.asked + 1 }) := rfl

/-- In caches that last, looking up changes nothing. -/
theorem after_lookup (hs : s.caches.Lasting) (t : Tier) (k : t.Key) :
    s.after (request (.lookup t k)) =
      (.ok (s.caches.value? t k), { s with asked := s.asked + 1 }) := by
  obtain ⟨ha, hc⟩ := hs.get t k (s.time s.asked)
  have h : s.after (request (.lookup t k)) =
      (.ok (s.caches.onTier t (·.get (s.time s.asked) k)).answer,
        { s with
          asked := s.asked + 1
          caches := (s.caches.onTier t (·.get (s.time s.asked) k)).state }) := rfl
  rw [h, ha, hc]

section

variable {locales : Locales} {key : TemplateKey}

/-- A lookup comes to what its key comes to. -/
theorem after_resolve (s : Scene) (tenant : String) (application : Option String)
    (channel : Channel) (templateType raw : String) :
    s.after (resolve locales tenant application channel templateType raw) =
      s.after (resolveKey locales
        (keyFor locales tenant application channel templateType raw)) := by
  rw [resolve, after_inSpan, after_bind, after_notes]

theorem after_resolveKey (hs : s.caches.Lasting) :
    s.after (resolveKey locales key) =
      let s' := { s with asked := s.asked + 2 }
      match s.caches.value? .resolved key with
      | some v => (.ok v, s')
      | none =>
        let searched := s'.after (search key none (probes locales key))
        searched.2.after (conclude key (s.caches.tier .resolved).generation searched.1) := by
  have hl := after_lookup (s := { s with asked := s.asked + 1 }) hs .resolved key
  rw [resolveKey, after_bind, after_generation]
  simp only [after_bind, hl]
  cases s.caches.value? .resolved key with
  | some v => rfl
  | none => simp only [after_bind, after_lift_run]

variable {tenant : String} {application : Option String} {channel : Channel}
  {templateType raw : String} {v : Template}

/-- An answer that is there is handed out again. Nobody is asked, and nothing changes. -/
theorem resolve_recalls (hs : s.caches.Lasting)
    (hv : s.caches.value? .resolved
      (keyFor locales tenant application channel templateType raw) = some v) :
    let again := s.perform (resolve locales tenant application channel templateType raw)
    again.answer = .ok v ∧ again.state.calls = s.calls ∧ again.state.caches = s.caches := by
  have h : s.after (resolve locales tenant application channel templateType raw) =
      (.ok v, { s with asked := s.asked + 2 }) := by
    rw [after_resolve, after_resolveKey hs, hv]
  obtain ⟨ha, hs'⟩ := Prod.mk.inj h
  exact ⟨ha, (congrArg calls hs' :), (congrArg caches hs' :)⟩

/-- No generation changes while a search goes on, so what it hands out may be filled in. -/
theorem value?_of_conclude {l : Lookup (Option Template)} {s' : Scene}
    (hl : l.FillsGaps (some key)) (hs : s.caches.Lasting)
    (h : (s.after l).2.after (conclude key (s.caches.tier .resolved).generation (s.after l).1) =
      (.ok v, s')) : s'.caches.value? .resolved key = some v := by
  have hf : s.caches.Filled (some key) (s.after l).2.caches := filled_perform hl hs
  generalize s.after l = searched at h hf
  obtain ⟨found, s₁⟩ := searched
  cases found with
  | error e => cases h
  | ok found =>
    cases found with
    | none => cases h
    | some t =>
      cases h
      exact hf.lasting.value?_fill (hf.generation .resolved).symm

/-- What a lookup hands out is there afterwards. -/
theorem value?_of_resolve (hs : s.caches.Lasting) :
    let first := s.perform (resolve locales tenant application channel templateType raw)
    first.answer = .ok v → first.state.caches.value? .resolved
      (keyFor locales tenant application channel templateType raw) = some v := by
  suffices h : ∀ s', s.after (resolve locales tenant application channel templateType raw) =
      (.ok v, s') → s'.caches.value? .resolved
        (keyFor locales tenant application channel templateType raw) = some v from
    fun hv => h _ (after_of_answer hv)
  intro s' h
  rw [after_resolve, after_resolveKey hs] at h
  generalize keyFor locales tenant application channel templateType raw = key at h ⊢
  cases hk : s.caches.value? .resolved key with
  | some w =>
    rw [hk] at h
    cases h
    exact hk
  | none =>
    rw [hk] at h
    -- kept shut, so that nobody computes the search
    have hl : (search key none (probes locales key)).FillsGaps (some key) := fillsGaps_search
    generalize search key none (probes locales key) = l at h hl
    exact value?_of_conclude (s := { s with asked := s.asked + 2 }) hl hs h

end

end Scene

/-- What is not there cannot be had. -/
theorem Caches.lacks_of_missed {c : Caches} {key : TemplateKey}
    (h : c.value? .resolved key = none) : c.Lacks key := by
  refine .inr fun k e he => ?_
  rintro rfl
  have hv : c.value? .resolved k = some e.value := by
    show ((c.tier .resolved).entries.get? k).map _ = _
    rw [he]
    rfl
  rw [h] at hv
  cases hv

end Herald
