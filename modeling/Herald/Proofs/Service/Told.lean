import Herald.Proofs.Service.Machine

/-!
# Herald.Proofs.Service.Told

Where all that a service knows comes from.

* `Service.Told`: all that inquiries learned and caches hold is told by some sources.
  `Told.step`, `Told.run`: so it stays, if the sources tell what is answered at each moment.
* `Service.sources`: what the store and the directory answered at the moments of a run.
* `Inquiry.Borne`, `borne_run`: every answer is borne out by them.
-/

namespace Herald

open Resolution Lookup

def Host.sources (h : Host) : Sources where
  row scope path locale t := h.getTemplate scope path locale = .ok (some t)
  list scope path v := h.listTemplates scope path = .ok v
  types path tenant v := h.listTemplateTypes path tenant = .ok v
  member tenant o := h.organizationOf tenant = .ok (some o)

/-- An inquiry has learned only what some sources tell, and so it goes on. -/
structure Errand.Told (S : Sources) (locales : Locales) (e : Errand) : Prop where
  follows : e.rest.Follows (Grounded locales) (fun log r => e.inquiry.Ends locales log r) e.log
  told : ∀ x ∈ e.log, x.Told S locales

/-- All that inquiries learned and caches hold is told by some sources. -/
structure Service.Told {η : Type} (S : Sources) (locales : Locales) (s : Service η) : Prop where
  errands : ∀ e ∈ s.errands, e.Told S locales
  caches : ∀ t, (s.caches.tier t).All (S.Backs locales t)

namespace Service.Told

variable {η μ : Type} {out : Outside η μ} {locales : Locales} {sh : Sharding} {S : Sources}
  {s s' : Service η}

theorem frame (h : s.Told S locales) (hf : Frame locales s s') : s'.Told S locales where
  errands e he := by
    rcases hf.errands e he with he | ⟨q, rfl⟩
    · exact h.errands e he
    · exact ⟨q.follows locales, List.forall_mem_nil _⟩
  caches t k e he := h.caches t k e (hf.caches.entries t k e he)

theorem told_answer {host : Host} (h : s.Told S locales) (hs : host.sources.Within S)
    (r : Request) : (⟨r, (s.answer host r).answer, ()⟩ : Exchange Unit).Told S locales := by
  cases r with
  | lookup t k =>
    generalize ha : (s.answer host (.lookup t k)).answer = a
    cases a with
    | none => trivial
    | some v =>
      obtain ⟨-, e, he, rfl⟩ := Cache.get_answer ha
      exact h.caches t k e he
  | getTemplate scope path locale =>
    generalize ha : (s.answer host (.getTemplate scope path locale)).answer = a
    cases a with
    | error e => trivial
    | ok found =>
      cases found with
      | none => trivial
      | some t => exact hs.row scope path locale t ha
  | listTemplates scope path =>
    generalize ha : (s.answer host (.listTemplates scope path)).answer = a
    cases a with
    | error e => trivial
    | ok v => exact hs.list scope path v ha
  | listTemplateTypes path tenant =>
    generalize ha : (s.answer host (.listTemplateTypes path tenant)).answer = a
    cases a with
    | error e => trivial
    | ok v => exact hs.types path tenant v ha
  | organizationOf tenant =>
    generalize ha : (s.answer host (.organizationOf tenant)).answer = a
    cases a with
    | error e => trivial
    | ok found =>
      cases found with
      | none => trivial
      | some o => exact hs.member tenant o ha
  | _ => trivial

theorem caches_answer {host : Host} {log : Log Unit} {r : Request} (h : s.Told S locales)
    (hlog : ∀ x ∈ log, x.Told S locales) (hg : Grounded locales log r) (t : Tier) :
    ((s.answer host r).state.tier t).All (S.Backs locales t) := by
  cases r with
  | lookup u k =>
    exact Caches.onTier_forall (R := fun t x => x.All (S.Backs locales t)) h.caches
      (h.caches u).get t
  | fill u k v g =>
    have hv : S.Backs locales u k v := Sources.Backs.within hg (Log.sources_within hlog)
    exact Caches.onTier_forall (R := fun t x => x.All (S.Backs locales t)) h.caches
      ((h.caches u).fill fun _ _ => hv) t
  | _ => exact h.caches t

theorem answered {i : Nat} {q : Inquiry} {r : Request}
    {next : r.Answer → Program (Except EngineError q.Answer)} {log : Log Unit}
    (h : s.Told S locales) (hs : (out.host s.outside).sources.Within S)
    (hi : s.errands[i]? = some ⟨q, .ask r next, log⟩) :
    (s.answered out i q r next log).Told S locales := by
  have he := h.errands _ (List.mem_of_getElem? hi)
  obtain ⟨hgrounded, hnext⟩ := he.follows
  refine ⟨fun e hm => ?_, h.caches_answer he.told hgrounded⟩
  rcases List.mem_or_eq_of_mem_set hm with hm | rfl
  · exact h.errands e hm
  · refine ⟨hnext _ _, fun x hx => ?_⟩
    rcases mem_record hx with rfl | hx
    · exact h.told_answer hs r
    · exact he.told x hx

theorem start (outside : η) (enabled : Bool) (lifetime : Option Nat) :
    (Service.start outside enabled lifetime).Told S locales where
  errands := List.forall_mem_nil _
  caches t k e he := by cases t <;> cases he

theorem step (h : s.Told S locales) (hs : (out.host s.outside).sources.Within S)
    (move : Move μ) : (s.act out locales sh move).Told S locales := by
  rcases step_cases out locales sh s move with hf | ⟨i, q, r, next, log, hi, he⟩
  · exact h.frame hf
  · rw [he]
    exact h.answered hs hi

/-- Every run keeps it, if the sources tell what is answered at each moment. -/
theorem run (h : s.Told S locales) (moves : List (Move μ))
    (hs : ∀ before, before <+: moves →
      (out.host (s.run out locales sh before).outside).sources.Within S) :
    (s.run out locales sh moves).Told S locales := by
  induction moves generalizing s with
  | nil => exact h
  | cons move moves ih =>
    refine ih (h.step (hs [] List.nil_prefix) move) fun before hb => ?_
    exact hs (move :: before) (List.prefix_cons_inj move |>.2 hb)

end Service.Told

/-! ## Answers -/

theorem ReadThrough.backs {t : Tier} {k : t.Key}
    {called : Except StoreError t.Value → Unit → Exchange Unit} {log : Log Unit} {v : t.Value}
    {S : Sources} {locales : Locales} (h : ReadThrough t k called [] log (.ok v))
    (hcalled : ∀ b, (called (.ok v) b).Told S locales → S.Backs locales t k v)
    (ht : ∀ x ∈ log, x.Told S locales) : S.Backs locales t k v := by
  cases h with
  | hit g v b b' => exact ht _ List.mem_cons_self
  | filled g v written b b' c b'' =>
    exact hcalled c (ht _ (List.mem_cons_of_mem _ List.mem_cons_self))

theorem Concludes.backs {key : TemplateKey} {log : Log Unit} {t : Template} {S : Sources}
    {locales : Locales} (h : Concludes locales key log (.ok t))
    (ht : ∀ x ∈ log, x.Told S locales) : S.Backs locales .resolved key t := by
  cases h with
  | recalled hx => exact ht _ hx
  | searched hmissed hrow hmet hempty hfaulty =>
    cases hm : log.met? key with
    | none => exact absurd rfl (hempty hm t)
    | some u =>
      obtain ⟨ho, hr⟩ := hmet u hm
      exact ⟨u, ho.within (Log.sources_within ht), hr.symm⟩

/-- What bears out the answer of a call. -/
def Inquiry.Borne (S : Sources) (locales : Locales) : (q : Inquiry) → q.Answer → Prop
  | call (.resolve tenant application channel templateType locale), t =>
    S.Backs locales .resolved (keyFor locales tenant application channel templateType locale) t
  | call (.templateTypes tenant channel), v => S.Backs locales .types ⟨tenant, channel⟩ v
  | call (.applicationTemplates tenant application channel), v =>
    S.Backs locales .apps ⟨tenant, application, channel⟩ v
  | call (.organizationTemplates organization application channel), v =>
    S.Backs locales .orgs ⟨organization, application, channel⟩ v
  | applicationTemplateTypes tenant application channel, v =>
    ∃ listed, S.Backs locales .apps ⟨tenant, application, channel⟩ listed ∧
      v = Ordered.distinct (listed.map Template.templateType)

theorem Inquiry.Ends.borne {q : Inquiry} {v : q.Answer} {log : Log Unit} {S : Sources}
    {locales : Locales} (h : q.Ends locales log (.ok v)) (ht : ∀ x ∈ log, x.Told S locales) :
    q.Borne S locales v := by
  cases q with
  | call c =>
    cases c with
    | resolve => exact Concludes.backs h ht
    | templateTypes => exact ReadThrough.backs h (fun _ hb => hb) ht
    | applicationTemplates => exact ReadThrough.backs h (fun _ hb => hb) ht
    | organizationTemplates => exact ReadThrough.backs h (fun _ hb => hb) ht
  | applicationTemplateTypes tenant application channel =>
    obtain ⟨listed, hl, hv⟩ := h
    cases listed with
    | error e => cases hv
    | ok w =>
      cases hv
      exact ⟨w, hl.backs (fun _ hb => hb) ht, rfl⟩

namespace Service

variable {η μ : Type} (out : Outside η μ) (locales : Locales) (sh : Sharding)

/-- What the store and the directory answered at the moments of a run. -/
def sources (s : Service η) (moves : List (Move μ)) : Sources where
  row scope path locale t := s.Once out locales sh moves fun x =>
    (out.host x).getTemplate scope path locale = .ok (some t)
  list scope path v := s.Once out locales sh moves fun x =>
    (out.host x).listTemplates scope path = .ok v
  types path tenant v := s.Once out locales sh moves fun x =>
    (out.host x).listTemplateTypes path tenant = .ok v
  member tenant o := s.Once out locales sh moves fun x =>
    (out.host x).organizationOf tenant = .ok (some o)

theorem sources_moment (s : Service η) {before moves : List (Move μ)} (hb : before <+: moves) :
    (out.host (s.run out locales sh before).outside).sources.Within
      (s.sources out locales sh moves) where
  row _ _ _ _ h := ⟨before, hb, h⟩
  list _ _ _ h := ⟨before, hb, h⟩
  types _ _ _ h := ⟨before, hb, h⟩
  member _ _ h := ⟨before, hb, h⟩

/-- Whatever inquiries learned and caches hold was told at some moment of the run. -/
theorem told_run (outside : η) (enabled : Bool) (lifetime : Option Nat) (moves : List (Move μ)) :
    ((start outside enabled lifetime).run out locales sh moves).Told
      ((start outside enabled lifetime).sources out locales sh moves) locales :=
  (Told.start outside enabled lifetime).run moves fun _ hb =>
    sources_moment out locales sh (start outside enabled lifetime) hb

variable {out locales sh} {S : Sources} {s : Service η}

theorem Told.borne (h : s.Told S locales) {q : Inquiry} {v : q.Answer} (ha : s.Answers q v) :
    q.Borne S locales v := by
  obtain ⟨log, hm⟩ := ha
  have he := h.errands _ hm
  exact Inquiry.Ends.borne he.follows he.told

end Service

end Herald
