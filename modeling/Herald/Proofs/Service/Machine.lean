import Herald.Proofs.Coherence.Traced
import Herald.Proofs.Resolution.Findings

/-!
# Herald.Proofs.Service.Machine

A service and what lies outside it, interleaved step by step.

* `Outside`: a store and a directory that change by moves of their own, or of anyone.
* `Inquiry`: a call of a resolver; `Inquiry.Ends`: what is known of it at its end.
* `Service`: the caches, the inquiries and the removals that are under way. `answer_of_world`: it
  answers as a world does.
* `Move`, `Service.step`, `Service.run`: a step of anyone, and what steps in any order come to.
  `Service.step_cases`: only an inquiry fills the caches.
* `Service.Once`: what was so outside at some moment of a run.
-/

namespace Herald

open Resolution Lookup

/-- A store and a directory, as they answer, with what changes them. -/
structure Outside (η μ : Type) where
  host : η → Host
  act : μ → η → η

inductive Inquiry where
  | call (c : Call)
  | applicationTemplateTypes (tenant application : String) (channel : Channel)

namespace Inquiry

abbrev Answer : Inquiry → Type
  | call c => c.Answer
  | applicationTemplateTypes .. => List String

def lookup (locales : Locales) : (q : Inquiry) → Lookup q.Answer
  | call c => c.lookup locales
  | applicationTemplateTypes tenant application channel =>
    Resolution.applicationTemplateTypes tenant application channel

/-- What is known of a call at its end. -/
def Ends (locales : Locales) (log : Log Unit) :
    (q : Inquiry) → Except EngineError q.Answer → Prop
  | call (.resolve tenant application channel templateType locale), r =>
    Concludes locales (keyFor locales tenant application channel templateType locale) log r
  | call (.templateTypes tenant channel), r =>
    ReadThrough .types ⟨tenant, channel⟩
      (fun x b => ⟨.listTemplateTypes channel.basePath tenant, x, b⟩) [] log r
  | call (.applicationTemplates tenant application channel), r =>
    ReadThrough .apps ⟨tenant, application, channel⟩
      (fun x b => ⟨.listTemplates (.application tenant application) channel.basePath, x, b⟩) []
      log r
  | call (.organizationTemplates organization application channel), r =>
    ReadThrough .orgs ⟨organization, application, channel⟩
      (fun x b => ⟨.listTemplates (.organization organization application) channel.basePath, x, b⟩)
      [] log r
  | applicationTemplateTypes tenant application channel, r =>
    ∃ listed, ReadThrough .apps ⟨tenant, application, channel⟩
      (fun x b => ⟨.listTemplates (.application tenant application) channel.basePath, x, b⟩) []
      log listed ∧ r = listed.map fun v => Ordered.distinct (v.map Template.templateType)

theorem follows (locales : Locales) (q : Inquiry) :
    (q.lookup locales).run.Follows (Grounded locales) (fun log r => q.Ends locales log r) [] := by
  cases q with
  | call c =>
    cases c with
    | resolve => exact grounded_resolve
    | templateTypes => exact grounded_templateTypes
    | applicationTemplates => exact grounded_applicationTemplates
    | organizationTemplates => exact grounded_organizationTemplates
  | applicationTemplateTypes tenant application channel =>
    refine follows_bind.2 (grounded_applicationTemplates.imp fun log r hr => ?_)
    cases r with
    | error e => exact ⟨_, hr, rfl⟩
    | ok v => exact ⟨_, hr, rfl⟩

end Inquiry

/-- A call under way. -/
structure Errand where
  inquiry : Inquiry
  rest : Program (Except EngineError inquiry.Answer)
  log : Log Unit

/-- What several inquiries and removals share. -/
structure Service (η : Type) where
  outside : η
  caches : Caches
  /-- The time in nanoseconds. -/
  now : Nat := 0
  errands : List Errand := []
  sweeps : List Sweep := []

/-- A step of anyone. An inquiry or a removal begins or makes its next step, something happens
outside, entries of one tier are removed at once, or time passes. -/
inductive Service.Move (μ : Type) where
  | begin (q : Inquiry)
  | proceed (i : Nat)
  | outside (m : μ)
  | drop (cause : Cause)
  | sweep (i : Nat)
  | remove (target : Target)
  | wait (nanoseconds : Nat)

namespace Service

variable {η μ : Type}

/-- How the caches answer a request, and what lies outside. -/
def answer (h : Host) (s : Service η) : (r : Request) → Reply Caches r.Answer
  | .generation t => ⟨(s.caches.tier t).generation, s.caches, []⟩
  | .lookup t k => s.caches.onTier t (·.get s.now k)
  | .fill t k v g => s.caches.onTier t (·.fill s.now k v g)
  | .getTemplate scope path locale => ⟨h.getTemplate scope path locale, s.caches, []⟩
  | .listTemplates scope path => ⟨h.listTemplates scope path, s.caches, []⟩
  | .listTemplateTypes path tenant => ⟨h.listTemplateTypes path tenant, s.caches, []⟩
  | .tenantId domain => ⟨h.tenantId domain, s.caches, []⟩
  | .organizationOf tenant => ⟨h.organizationOf tenant, s.caches, []⟩
  | .note o => ⟨(), s.caches, [o]⟩

/-- A store and a directory of this library answer as they do in their world. -/
theorem answer_of_world {s : Service η} {w : World} (hc : s.caches = w.caches) (hn : s.now = w.now)
    (r : Request) :
    s.answer (.of w.store w.directory) r =
      let reply := World.answer r w
      ⟨reply.answer, reply.state.caches, reply.notes⟩ := by
  cases r <;> simp only [answer, World.answer, World.ofCaches, Host.of, hc, hn]

variable (out : Outside η μ) (locales : Locales) (sh : Sharding)

def act (s : Service η) : Move μ → Service η
  | .begin q => { s with errands := s.errands ++ [⟨q, (q.lookup locales).run, []⟩] }
  | .proceed i =>
    match s.errands[i]? with
    | some ⟨q, .ask r next, log⟩ =>
      let reply := s.answer (out.host s.outside) r
      { s with
        caches := reply.state
        errands := s.errands.set i ⟨q, next reply.answer, log.record r reply.answer ()⟩ }
    | _ => s
  | .outside m => { s with outside := out.act m s.outside }
  | .drop cause => { s with sweeps := s.sweeps ++ [.ofCause cause s.now] }
  | .sweep i =>
    match s.sweeps[i]? with
    | some σ =>
      let (caches, σ) := σ.step sh s.caches
      { s with caches, sweeps := s.sweeps.set i σ }
    | none => s
  | .remove target =>
    { s with caches := (s.caches.onTier target.tier (·.sweep target.selects)).state }
  | .wait n => { s with now := s.now + n }

def run (s : Service η) (moves : List (Move μ)) : Service η :=
  moves.foldl (act out locales sh) s

/-- Empty caches, and nothing under way. -/
def start (outside : η) (enabled : Bool) (lifetime : Option Nat) : Service η where
  outside := outside
  caches := .new enabled lifetime

/-- A move that answers no request. -/
structure Frame (s s' : Service η) : Prop where
  caches : s.caches.Shrinks s'.caches
  errands : ∀ e ∈ s'.errands, e ∈ s.errands ∨ ∃ q : Inquiry, e = ⟨q, (q.lookup locales).run, []⟩

/-- The state after a request of an inquiry. -/
def answered (s : Service η) (i : Nat) (q : Inquiry) (r : Request)
    (next : r.Answer → Program (Except EngineError q.Answer)) (log : Log Unit) : Service η :=
  let reply := s.answer (out.host s.outside) r
  { s with
    caches := reply.state
    errands := s.errands.set i ⟨q, next reply.answer, log.record r reply.answer ()⟩ }

theorem shrinks_sweep (c : Caches) (target : Target) :
    c.Shrinks (c.onTier target.tier (·.sweep target.selects)).state := by
  refine .withTier c (fun k e h => ?_) (Nat.le_succ _)
  have h : ((c.tier target.tier).entries.keep fun k => !target.selects k).get? k = some e := h
  rw [Table.get?_keep] at h
  split at h
  · exact h
  · cases h

theorem step_cases (s : Service η) (move : Move μ) :
    Frame locales s (s.act out locales sh move) ∨
      ∃ i q r next log, s.errands[i]? = some ⟨q, .ask r next, log⟩ ∧
        s.act out locales sh move = s.answered out i q r next log := by
  have still : Frame locales s s := ⟨.refl _, fun _ h => .inl h⟩
  cases move with
  | begin q =>
    refine .inl ⟨.refl _, fun e h => ?_⟩
    rcases List.mem_append.1 h with h | h
    · exact .inl h
    · exact .inr ⟨q, List.mem_singleton.1 h⟩
  | proceed i =>
    simp only [act]
    split
    · next q r next log hi => exact .inr ⟨i, q, r, next, log, hi, rfl⟩
    · exact .inl still
  | outside m => exact .inl ⟨.refl _, fun _ h => .inl h⟩
  | drop cause => exact .inl ⟨.refl _, fun _ h => .inl h⟩
  | sweep i =>
    simp only [act]
    split
    · next σ _ => exact .inl ⟨σ.shrinks sh _, fun _ h => .inl h⟩
    · exact .inl still
  | remove target => exact .inl ⟨shrinks_sweep _ target, fun _ h => .inl h⟩
  | wait n => exact .inl ⟨.refl _, fun _ h => .inl h⟩

/-- A move changes nothing outside, or it is one of those that do. -/
theorem act_outside (s : Service η) (move : Move μ) :
    (s.act out locales sh move).outside = s.outside ∨
      ∃ m, (s.act out locales sh move).outside = out.act m s.outside := by
  cases move with
  | outside m => exact .inr ⟨m, rfl⟩
  | proceed i =>
    simp only [act]
    split
    · exact .inl rfl
    · exact .inl rfl
  | sweep i =>
    simp only [act]
    split
    · exact .inl rfl
    · exact .inl rfl
  | _ => exact .inl rfl

variable {out locales sh}

/-- What every move outside keeps is kept by every run. -/
theorem run_outside {P : η → Prop} (hact : ∀ m x, P x → P (out.act m x)) {s : Service η}
    (h : P s.outside) (moves : List (Move μ)) : P (s.run out locales sh moves).outside := by
  induction moves generalizing s with
  | nil => exact h
  | cons move moves ih =>
    refine ih ?_
    rcases act_outside out locales sh s move with he | ⟨m, he⟩
    · rw [he]
      exact h
    · rw [he]
      exact hact m s.outside h

variable (out locales sh)

/-- At some moment of a run, it was so outside. -/
def Once (s : Service η) (moves : List (Move μ)) (P : η → Prop) : Prop :=
  ∃ before, before <+: moves ∧ P (s.run out locales sh before).outside

def Answers (s : Service η) (q : Inquiry) (v : q.Answer) : Prop :=
  ∃ log, ⟨q, .done (.ok v), log⟩ ∈ s.errands

end Service

instance decidableEqExcept {ε α : Type} [DecidableEq ε] [DecidableEq α] :
    DecidableEq (Except ε α)
  | .ok a, .ok b => decidable_of_iff (a = b) (by rw [Except.ok.injEq])
  | .error e, .error e' => decidable_of_iff (e = e') (by rw [Except.error.injEq])
  | .ok _, .error _ => isFalse fun h => by cases h
  | .error _, .ok _ => isFalse fun h => by cases h

/-- What a lookup that has ended was asked for, and how it ended. -/
def Errand.settled? : Errand → Option (TemplateKey × Except EngineError Template)
  | ⟨.call (.resolve tenant application channel templateType raw), .done r, _⟩ =>
    some (⟨tenant, application, channel, templateType, raw⟩, r)
  | _ => none

theorem Errand.eq_of_settled {e : Errand} {k : TemplateKey} {r : Except EngineError Template}
    (h : e.settled? = some (k, r)) :
    e = ⟨.call (.resolve k.tenant k.application k.channel k.templateType k.locale), .done r,
      e.log⟩ := by
  unfold settled? at h
  split at h
  · cases h
    rfl
  · cases h

theorem Service.answers_of_settled {η : Type} {s : Service η} {i : Nat} {k : TemplateKey}
    {t : Template} (h : s.errands[i]?.bind Errand.settled? = some (k, .ok t)) :
    s.Answers (.call (.resolve k.tenant k.application k.channel k.templateType k.locale)) t := by
  obtain ⟨e, he, hr⟩ := Option.bind_eq_some_iff.1 h
  have hm := List.mem_of_getElem? he
  rw [Errand.eq_of_settled hr] at hm
  exact ⟨e.log, hm⟩

end Herald
