import Herald.Proofs.Cache.Exact
import Herald.Proofs.Observation.Figures
import Herald.Proofs.Program.Course
import Herald.Proofs.Resolution.Findings

/-!
# Herald.Proofs.Resolution.Marks

What a lookup leaves behind in the statistics and the counters.

* `Exchange.seen`: what is observed of an exchange.
* `Enters`: what is loud of a course, with its calls of the store and the locale of its last row.
  The lemmas named `enters_` say so of each part of a lookup.
* `Recorded`: the four ways in which a lookup is recorded; `recorded_resolve`: there is no fifth.
* `Recorded.figures`: each of them has the figures of one lookup.
-/

namespace Herald

open Resolution Lookup Observation

/-- The operation under which a call of the store is timed. -/
def Request.operation? : Request → Option String
  | .getTemplate .. => some "get_template"
  | .listTemplates .. => some "list_templates"
  | .listTemplateTypes .. => some "list_template_types"
  | _ => none

namespace Exchange

/-- What is observed of an exchange with caches that are enabled or not. -/
def seen (enabled : Bool) : Exchange Unit → List Observation
  | ⟨.lookup t _, some _, _⟩ => [.counted .cacheHits t.label 1]
  | ⟨.lookup t _, none, _⟩ => if enabled then [.counted .cacheMisses t.label 1] else []
  | ⟨.fill t _ _ _, false, _⟩ =>
    if enabled then
      [.log .debug "Discarding fill that raced an invalidation" [("tier", t.label)]]
    else []
  | ⟨.note o, _, _⟩ => [o]
  | _ => []

def locale? : Exchange Unit → Option String
  | ⟨.getTemplate _ _ locale, _, _⟩ => some locale
  | _ => none

/-- Caches that are not enabled hand out nothing. -/
def Possible (enabled : Bool) : Exchange Unit → Prop
  | ⟨.lookup _ _, some _, _⟩ => enabled = true
  | _ => True

end Exchange

namespace Course

variable {enabled : Bool}

def seen (enabled : Bool) (c : Course) : List Observation := c.flatMap (Exchange.seen enabled)

def calls (c : Course) : List String := c.filterMap (·.request.operation?)

/-- The locale of the last row that was asked for. -/
def passing : Course → Option String
  | [] => none
  | x :: c => (passing c).or x.locale?

@[simp] theorem seen_nil : seen enabled [] = [] := rfl

@[simp] theorem seen_cons (x : Exchange Unit) (c : Course) :
    seen enabled (x :: c) = x.seen enabled ++ seen enabled c := rfl

@[simp] theorem seen_append (c c' : Course) :
    seen enabled (c ++ c') = seen enabled c ++ seen enabled c' := List.flatMap_append

@[simp] theorem calls_append (c c' : Course) : calls (c ++ c') = calls c ++ calls c' :=
  List.filterMap_append

theorem passing_append (c c' : Course) : passing (c ++ c') = (passing c').or (passing c) := by
  induction c with
  | nil => exact (Option.or_none).symm
  | cons x c ih => rw [List.cons_append, passing, ih, passing, Option.or_assoc]

theorem passing_log (c : Course) (log : Log Unit) :
    (c.log log).passing = c.passing.or log.passing := by
  induction c generalizing log with
  | nil => rfl
  | cons x c ih =>
    have hx : (log.record x.request x.answer x.label).passing = x.locale?.or log.passing := by
      obtain ⟨r, a, b⟩ := x
      cases r <;> rfl
    show (Course.log c (log.record x.request x.answer x.label)).passing = _
    rw [ih, hx, passing, Option.or_assoc]

theorem calls_log (c : Course) (log : Log Unit) :
    ((c.log log).filterMap (·.request.operation?)).Perm
      (c.calls ++ log.filterMap (·.request.operation?)) := by
  induction c generalizing log with
  | nil => exact .refl _
  | cons x c ih =>
    refine (ih (log.record x.request x.answer x.label)).trans ?_
    obtain ⟨r, a, b⟩ := x
    cases r <;> simp [Log.record, calls, Request.operation?, List.perm_middle]

end Course

/-- What a course leaves behind: its loud observations, and every call of the store counted and
timed; and the locale of the last row that it asked for. -/
structure Enters (enabled : Bool) (c : Course) (ms : List Observation) (last : Option String) :
    Prop where
  marks : (c.seen enabled).filter loud = ms
  queries : statisticCount .storeQueries (c.seen enabled) = c.calls.length
  timings : timings (c.seen enabled) = c.calls
  passing : c.passing = last

namespace Enters

variable {enabled : Bool} {c c' : Course} {ms ms' : List Observation} {last last' : Option String}

theorem nil : Enters enabled [] [] none := ⟨rfl, rfl, rfl, rfl⟩

theorem append (h : Enters enabled c ms last) (h' : Enters enabled c' ms' last') :
    Enters enabled (c ++ c') (ms ++ ms') (last'.or last) where
  marks := by rw [Course.seen_append, List.filter_append, h.marks, h'.marks]
  queries := by
    rw [Course.seen_append, statisticCount_append, h.queries, h'.queries, Course.calls_append,
      List.length_append]
  timings := by
    rw [Course.seen_append, timings_append, h.timings, h'.timings, Course.calls_append]
  passing := by rw [Course.passing_append, h.passing, h'.passing]

/-- An exchange that is no call of the store, and is observed as nothing that belongs to one. -/
theorem single {x : Exchange Unit} {ms : List Observation} (hm : (x.seen enabled).filter loud = ms)
    (hx : x.request.operation? = none)
    (hq : ∀ o ∈ x.seen enabled, o ≠ .statistic .storeQueries ∧ o.timed? = none) :
    Enters enabled [x] ms none where
  marks := by simpa using hm
  queries := by
    have hc : Course.calls [x] = [] := by simp [Course.calls, hx]
    rw [hc, Course.seen_cons, Course.seen_nil, List.append_nil, statisticCount,
      List.countP_eq_zero.2 fun o ho => by simpa using (hq o ho).1]
    rfl
  timings := by
    have hc : Course.calls [x] = [] := by simp [Course.calls, hx]
    rw [hc, Course.seen_cons, Course.seen_nil, List.append_nil]
    exact List.filterMap_eq_nil_iff.2 fun o ho => (hq o ho).2
  passing := by
    obtain ⟨r, a, b⟩ := x
    cases r <;> first | rfl | cases hx

theorem note {o : Observation} (hq : o ≠ .statistic .storeQueries) (ht : o.timed? = none) :
    Enters enabled [⟨.note o, (), ()⟩] ([o].filter loud) none :=
  single rfl rfl fun o' ho' => by
    obtain rfl : o' = o := List.mem_singleton.1 ho'
    exact ⟨hq, ht⟩

theorem notes (os : List Observation)
    (h : ∀ o ∈ os, o ≠ .statistic .storeQueries ∧ o.timed? = none) :
    Enters enabled (os.map fun o => ⟨.note o, (), ()⟩) (os.filter loud) none := by
  induction os with
  | nil => exact .nil
  | cons o os ih =>
    obtain ⟨ho, hos⟩ := List.forall_mem_cons.1 h
    have hfirst : Enters enabled [⟨.note o, (), ()⟩] ([o].filter loud) none := note ho.1 ho.2
    have ha := hfirst.append (ih hos)
    rwa [← List.filter_append, Option.or_none] at ha

end Enters

/-- However it is answered, a lookup leaves nothing loud behind. -/
def Quiet {α : Type} (enabled : Bool) (last : Option String) (l : Lookup α) : Prop :=
  l.run.Courses fun c _ => Enters enabled c [] last

section

variable {enabled : Bool} {key : TemplateKey} {locales : Locales} {last : Option String}
  {α β : Type}

theorem quiet_pure {a : α} : Quiet enabled none (pure a) := courses_pure.2 .nil

theorem quiet_throw {e : EngineError} : Quiet enabled none (throw e : Lookup α) :=
  courses_throw.2 .nil

theorem quiet_bind {l : Lookup α} {f : α → Lookup β} (h : Quiet enabled last l)
    (hf : ∀ a, Quiet enabled none (f a)) : Quiet enabled last (l >>= f) := by
  refine courses_bind.2 (h.imp fun c r hc => ?_)
  cases r with
  | error e => exact hc
  | ok a => exact (hf a).imp fun c' s hc' => by simpa using hc.append hc'

theorem quiet_note {o : Observation} (hl : loud o = false) (hq : o ≠ .statistic .storeQueries)
    (ht : o.timed? = none) : Quiet enabled none (note o) := by
  have h : Enters enabled [⟨.note o, (), ()⟩] ([o].filter loud) none := .note hq ht
  rw [List.filter_cons_of_neg (by simp [hl]), List.filter_nil] at h
  exact courses_note.2 h

theorem quiet_generation {t : Tier} : Quiet enabled none (request (.generation t)) :=
  courses_request.2 fun _ => .single rfl rfl (List.forall_mem_nil _)

theorem quiet_request {t : Tier} (ht : t ≠ .resolved) {k : t.Key} :
    Quiet enabled none (request (.lookup t k)) := by
  have hl : t.label ≠ Tier.resolved.label := fun he => ht (Tier.label_inj he)
  refine courses_request.2 fun x => .single ?_ rfl ?_
  · cases x <;> cases enabled <;> simp [Exchange.seen, loud, hl]
  · cases x <;> cases enabled <;> simp [Exchange.seen, timed?]

theorem quiet_fill {t : Tier} {k : t.Key} {v : t.Value} {g : Nat} :
    Quiet enabled none (request (.fill t k v g)) := by
  refine courses_request.2 fun written => .single ?_ rfl ?_
  · cases written <;> cases enabled <;> rfl
  · cases written <;> cases enabled <;> simp [Exchange.seen, Observation.log, timed?]

/-! ## Parts of a lookup -/

theorem quiet_callStore {operation : String} {call : Program (Except StoreError α)}
    (hcall : call.Courses fun c _ => c.seen enabled = [] ∧ c.calls = [operation] ∧
      c.passing = last) : Quiet enabled last (callStore operation call) := by
  refine courses_bind.2 (courses_note.2 (courses_bind.2 (courses_lift.2
    (hcall.imp fun c x hc => courses_bind.2 (courses_note.2 ?_)))))
  obtain ⟨hseen, hcalls, hpassing⟩ := hc
  -- a call is counted before it is made and timed after it, so the three go together
  have hcalled : Enters enabled ([⟨.note (.statistic .storeQueries), (), ()⟩] ++
      (c ++ [⟨.note (.timed operation), (), ()⟩])) [] last := by
    have hs : Course.seen enabled ([⟨.note (.statistic .storeQueries), (), ()⟩] ++
        (c ++ [⟨.note (.timed operation), (), ()⟩])) =
          [.statistic .storeQueries, .timed operation] := by
      rw [Course.seen_append, Course.seen_append, hseen]
      rfl
    have hc : Course.calls ([⟨.note (.statistic .storeQueries), (), ()⟩] ++
        (c ++ [⟨.note (.timed operation), (), ()⟩])) = [operation] := by
      rw [Course.calls_append, Course.calls_append, hcalls]
      rfl
    refine ⟨by rw [hs]; rfl, by rw [hs, hc]; rfl, by rw [hs, hc]; rfl, ?_⟩
    rw [Course.passing_append, Course.passing_append, hpassing]
    exact (Option.or_none).trans (Option.none_or)
  have htail {l : Lookup α} (h : Quiet enabled none l) : l.run.Courses fun c' _ =>
      Enters enabled ([⟨.note (.statistic .storeQueries), (), ()⟩] ++
        (c ++ ([⟨.note (.timed operation), (), ()⟩] ++ c'))) [] last :=
    h.imp fun c' s hc' => by simpa using hcalled.append hc'
  cases x with
  | ok a => exact htail quiet_pure
  | error e =>
    exact htail (quiet_bind (quiet_note rfl nofun rfl) fun _ =>
      quiet_bind (quiet_note rfl nofun rfl) fun _ => quiet_throw)

theorem quiet_cached {t : Tier} (ht : t ≠ .resolved) {k : t.Key} {read : Lookup t.Value}
    (hread : Quiet enabled none read) : Quiet enabled none (cached t k read) := by
  refine quiet_bind quiet_generation fun g => quiet_bind (quiet_request ht) fun x => ?_
  cases x with
  | some v => exact quiet_pure
  | none => exact quiet_bind hread fun v => quiet_bind quiet_fill fun _ => quiet_pure

theorem quiet_templateTypes {tenant : String} {channel : Channel} :
    Quiet enabled none (templateTypes tenant channel) := by
  refine quiet_cached (by decide) (quiet_callStore ?_)
  exact Program.courses_ask.2 fun _ => Program.courses_done.2 ⟨rfl, rfl, rfl⟩

theorem quiet_applicationTemplates {tenant application : String} {channel : Channel} :
    Quiet enabled none (applicationTemplates tenant application channel) := by
  refine quiet_cached (by decide) (quiet_callStore ?_)
  exact Program.courses_ask.2 fun _ => Program.courses_done.2 ⟨rfl, rfl, rfl⟩

theorem quiet_organizationTemplates {organization : String} {application : Option String}
    {channel : Channel} :
    Quiet enabled none (organizationTemplates organization application channel) := by
  refine quiet_cached (by decide) (quiet_callStore ?_)
  exact Program.courses_ask.2 fun _ => Program.courses_done.2 ⟨rfl, rfl, rfl⟩

/-- Below the row of the tenant, a look at a probe asks for no row. -/
theorem quiet_look {level : Precedence} {organization : Option String} {locale : String} {p : Probe}
    (hlevel : level ≠ .tenant) (hp : p ∈ key.probesAt level organization locale) :
    Quiet enabled none (p.look key) := by
  have listed {scope : Scope} : Quiet enabled none (Probe.look key (.listed scope locale)) := by
    cases scope with
    | tenant t => exact quiet_pure
    | application t a => exact quiet_bind quiet_applicationTemplates fun _ => quiet_pure
    | organization o a => exact quiet_bind quiet_organizationTemplates fun _ => quiet_pure
  cases level with
  | tenant => exact absurd rfl hlevel
  | application =>
    obtain ⟨a, -, rfl⟩ := Option.map_eq_some_iff.1 (Option.mem_toList.1 hp)
    exact listed
  | organization =>
    cases organization with
    | none => cases hp
    | some o =>
      rcases List.mem_append.1 hp with hp | hp
      · obtain ⟨a, -, rfl⟩ := Option.map_eq_some_iff.1 (Option.mem_toList.1 hp)
        exact listed
      · obtain rfl := List.mem_singleton.1 hp
        exact listed

/-- A level is looked at. Only the row of the tenant sets the locale. -/
theorem quiet_probe {level : Precedence} {organization : Option String} {locale : String} :
    Quiet enabled (if level = .tenant then some locale else none)
      (probe level key organization locale) := by
  by_cases hlevel : level = .tenant
  · subst hlevel
    refine quiet_callStore ?_
    exact Program.courses_ask.2 fun _ => Program.courses_done.2 ⟨rfl, rfl, rfl⟩
  · rw [if_neg hlevel, probe_eq_look]
    have hps : ∀ p ∈ key.probesAt level organization locale, Quiet enabled none (p.look key) :=
      fun p hp => quiet_look hlevel hp
    generalize key.probesAt level organization locale = ps at hps
    induction ps with
    | nil => exact quiet_pure
    | cons p ps ih =>
      obtain ⟨hp, hps⟩ := List.forall_mem_cons.1 hps
      refine quiet_bind hp fun found => ?_
      cases found with
      | none => exact ih hps
      | some t => exact quiet_pure

/-! ## Searches -/

def fallbackMarks (key : TemplateKey) (locale : String) : List Observation :=
  if locale ≠ key.locale then [.statistic .localeFallbacks, .counted .localeFallbacks "" 1] else []

def acceptMarks (key : TemplateKey) (level : Precedence) (locale : String) : List Observation :=
  fallbackMarks key locale ++ [.counted .resolutions level.name 1]

theorem enters_accept {level : Precedence} {locale : String} {t : Template} :
    (accept key level locale t).run.Courses fun c r =>
      match r with
      | .ok _ => Enters enabled c (acceptMarks key level locale) none
      | .error _ => Enters enabled c [] none := by
  simp only [accept]
  cases hd : t.defect? with
  | some d =>
    simp only [courses_bind, courses_note, courses_throw]
    exact .notes [.counted .storeErrors "validate" 1, .log .error _ _]
      (by simp [Observation.log, timed?])
  | none =>
    by_cases hl : locale = key.locale
    · have hm : acceptMarks key level locale = [.counted .resolutions level.name 1] := by
        simp [acceptMarks, fallbackMarks, hl]
      simp only [hl, ne_eq, not_true, if_false, courses_bind, courses_note, courses_pure]
      rw [← hl, hm]
      exact .notes [.counted .resolutions level.name 1, .attribute _, .log .debug _ _]
        (by simp [Observation.log, timed?])
    · have hm : acceptMarks key level locale = [.statistic .localeFallbacks,
          .counted .localeFallbacks "" 1, .counted .resolutions level.name 1] := by
        simp [acceptMarks, fallbackMarks, hl]
      simp only [hl, ne_eq, not_false_iff, if_true, courses_bind, courses_note, courses_pure]
      rw [hm]
      exact .notes [.statistic .localeFallbacks, .counted .localeFallbacks "" 1, .log .warn _ _,
        .counted .resolutions level.name 1, .attribute _, .log .debug _ _]
        (by simp [Observation.log, timed?])

/-- How the rest of a search ends that looked in the locale `last` before. -/
inductive SearchEnds (enabled : Bool) (key : TemplateKey) (last : Option String)
    (steps : List (String × Precedence)) (c : Course) :
    Except EngineError (Option Template) → Prop where
  | found {t : Template} {locale : String} {level : Precedence} {row : Option String}
    (hstep : (locale, level) ∈ steps) (hrow : row.or last = some locale)
    (h : Enters enabled c (acceptMarks key level locale) row) :
    SearchEnds enabled key last steps c (.ok (some t))
  | missed {row : Option String} (h : Enters enabled c [] row) :
    SearchEnds enabled key last steps c (.ok none)
  | failed {e : EngineError} {row : Option String} (h : Enters enabled c [] row) :
    SearchEnds enabled key last steps c (.error e)

theorem SearchEnds.after {c c' : Course} {row last' : Option String}
    {steps steps' : List (String × Precedence)} {r : Except EngineError (Option Template)}
    (h : SearchEnds enabled key last' steps c' r) (hc : Enters enabled c [] row)
    (hlast : row.or last = last') (hs : steps ⊆ steps') :
    SearchEnds enabled key last steps' (c ++ c') r := by
  subst hlast
  cases h with
  | found hstep hrow h => exact .found (hs hstep) (Option.or_assoc.trans hrow) (hc.append h)
  | missed h => exact .missed (hc.append h)
  | failed h => exact .failed (hc.append h)

theorem ends_search {steps : List (String × Precedence)} {known : Option (Option String)}
    (hp : Paced last steps) :
    (search key known steps).run.Courses (SearchEnds enabled key last steps) := by
  induction steps generalizing known last with
  | nil => exact courses_pure.2 (.missed .nil)
  | cons step steps ih =>
    obtain ⟨locale, level⟩ := step
    obtain ⟨hlast, hpaced⟩ := hp.cons
    have hrow : (if level = .tenant then some locale else none).or last = some locale := by
      split
      · rfl
      · next hlevel => exact hlast hlevel
    have later (known : Option (Option String)) :
        (searchOn key known locale level steps).run.Courses
          (SearchEnds enabled key last ((locale, level) :: steps)) := by
      have hprobe : Quiet enabled (if level = .tenant then some locale else none)
          (probe level key known.join locale) := quiet_probe
      refine courses_bind.2 (hprobe.imp fun c r hc => ?_)
      cases r with
      | error e => exact .failed hc
      | ok found =>
        cases found with
        | none => exact (ih hpaced).imp fun c' r' h => h.after hc hrow (List.subset_cons_self _ _)
        | some t =>
          have haccept : (accept key level locale t).run.Courses fun c r =>
              match r with
              | .ok _ => Enters enabled c (acceptMarks key level locale) none
              | .error _ => Enters enabled c [] none := enters_accept
          simp only [map_eq_pure_bind]
          refine courses_bind.2 (haccept.imp fun c' r' h => ?_)
          cases r' with
          | error e => exact .failed (hc.append h)
          | ok v =>
            refine courses_pure.2 (.found List.mem_cons_self hrow ?_)
            rw [List.append_nil]
            exact hc.append h
    rcases search_cases key known locale level steps with ⟨-, h⟩ | ⟨rfl, rfl, h⟩
    · exact h ▸ later known
    · rw [h]
      refine courses_bind.2 (courses_ofExcept.2 (Program.courses_ask.2 fun x =>
        Program.courses_done.2 ?_))
      have hasked : Enters enabled [⟨.organizationOf key.tenant, x, ()⟩] [] none :=
        .single rfl rfl (List.forall_mem_nil _)
      cases x with
      | error e => exact .failed hasked
      | ok organization =>
        exact (later (some organization)).imp fun c r h =>
          h.after hasked Option.none_or (List.Subset.refl _)

/-! ## Lookups -/

/-- What a lookup leaves behind that the cache had no answer for. -/
def missMarks (enabled : Bool) : List Observation :=
  if enabled then [.counted .cacheMisses Tier.resolved.label 1] else []

/-- The ways in which a lookup is recorded, given the locale of the last row that it asked for. -/
inductive Recorded (enabled : Bool) (locales : Locales) (key : TemplateKey) :
    Option String → Except EngineError Template → List Observation → Prop where
  /-- The cache had the answer, and no row was asked for. -/
  | recalled {t : Template} (he : enabled = true) :
    Recorded enabled locales key none (.ok t) [.counted .cacheHits Tier.resolved.label 1,
      .statistic .cacheHits, .counted .resolutions "cache" 1]
  | found {t : Template} {locale : String} {level : Precedence}
    (hl : locale ∈ localesFor locales key) :
    Recorded enabled locales key (some locale) (.ok t)
      (missMarks enabled ++ acceptMarks key level locale)
  | missing {last : Option String} : Recorded enabled locales key last (.error key.missing)
      (missMarks enabled ++ [.statistic .notFound, .counted .resolutions "not_found" 1])
  | failed {last : Option String} {e : EngineError} : Recorded enabled locales key last (.error e)
      (missMarks enabled ++ [.counted .resolutions "error" 1])

/-- A course of a lookup, which began with some loud observations. -/
def Records (enabled : Bool) (locales : Locales) (key : TemplateKey) (front : List Observation)
    (c : Course) (r : Except EngineError Template) : Prop :=
  ∃ ms last, Enters enabled c (front ++ ms) last ∧ Recorded enabled locales key last r ms

def endMarks : Except EngineError (Option Template) → List Observation
  | .ok (some _) => []
  | .ok none => [.statistic .notFound, .counted .resolutions "not_found" 1]
  | .error _ => [.counted .resolutions "error" 1]

theorem enters_conclude {g : Nat} {r : Except EngineError (Option Template)} :
    (conclude key g r).run.Courses fun c r' =>
      Enters enabled c (endMarks r) none ∧ r' = key.answered r := by
  match r with
  | .ok (some t) =>
    refine courses_ask.2 fun written => courses_pure.2 ⟨?_, rfl⟩
    have hfill : Quiet enabled none (request (.fill .resolved key t g)) := quiet_fill
    exact courses_request.1 hfill written
  | .ok none =>
    simp only [conclude, courses_bind, courses_note, courses_throw]
    refine ⟨?_, rfl⟩
    exact .notes [.statistic .notFound, .counted .resolutions "not_found" 1, .log .debug _ _]
      (by simp [Observation.log, timed?])
  | .error e =>
    simp only [conclude, courses_bind, courses_note, courses_throw]
    refine ⟨?_, rfl⟩
    exact .notes [.counted .resolutions "error" 1, .log .error _ _]
      (by simp [Observation.log, timed?])

theorem enters_recall {x : Option Template} :
    Enters enabled [⟨.lookup .resolved key, x, ()⟩] (match x with
      | some _ => [.counted .cacheHits Tier.resolved.label 1]
      | none => missMarks enabled) none := by
  cases x <;> cases enabled <;> exact .single rfl rfl (by simp [Exchange.seen, timed?])

theorem recorded_resolveKey :
    (resolveKey locales key).run.Courses fun c r =>
      (∀ x ∈ c, x.Possible enabled) → Records enabled locales key [] c r := by
  refine courses_ask.2 fun g => courses_ask.2 fun x => ?_
  have hasked : Enters enabled [⟨.generation .resolved, g, ()⟩] [] none :=
    .single rfl rfl (List.forall_mem_nil _)
  have hrecall := hasked.append (@enters_recall enabled key x)
  cases x with
  | some t =>
    simp only [courses_bind, courses_note, courses_pure]
    intro hpossible
    have he : enabled = true := hpossible ⟨.lookup .resolved key, some t, ()⟩ (by simp)
    refine ⟨_, none, hrecall.append (.notes [.statistic .cacheHits,
      .counted .resolutions "cache" 1, .log .debug _ _] (by simp [Observation.log, timed?])),
      .recalled he⟩
  | none =>
    rw [courses_bind, courses_lift]
    -- kept shut, so that nobody computes the search
    generalize hsteps : Resolution.probes locales key = steps
    have hp : Paced none steps := paced_probes hsteps
    have hl : ∀ step ∈ steps, step.1 ∈ localesFor locales key :=
      hsteps ▸ fun _ => mem_localesFor_of_probes
    have hsearch : (search key none steps).run.Courses (SearchEnds enabled key none steps) :=
      ends_search hp
    refine hsearch.imp fun c r hends => ?_
    have hconclude : (conclude key g r).run.Courses fun c r' =>
        Enters enabled c (endMarks r) none ∧ r' = key.answered r := enters_conclude
    refine hconclude.imp fun c' r' hended _ => ?_
    obtain ⟨hc', rfl⟩ := hended
    have whole {ms : List Observation} {row : Option String} (hc : Enters enabled c ms row) :=
      hrecall.append (hc.append hc')
    cases hends with
    | found hstep hrow h =>
      obtain rfl : _ = some _ := (Option.or_none).symm.trans hrow
      exact ⟨_, _, by simpa [endMarks] using whole h, .found (hl _ hstep)⟩
    | missed h => exact ⟨_, _, whole h, .missing⟩
    | failed h => exact ⟨_, _, whole h, .failed⟩

theorem enters_opening (key : TemplateKey) (raw : String) :
    Enters enabled ((openingNotes locales key raw).map fun o => ⟨.note o, (), ()⟩)
      [.statistic .lookups] none := by
  have hloud : (openingNotes locales key raw).filter loud = [.statistic .lookups] := by
    unfold openingNotes
    cases key.application <;> split <;> rfl
  have hquiet : ∀ o ∈ openingNotes locales key raw,
      o ≠ .statistic .storeQueries ∧ o.timed? = none := by
    unfold openingNotes
    cases key.application <;> split <;> simp [Observation.log, timed?]
  exact hloud ▸ .notes _ hquiet

theorem recorded_resolve {tenant : String} {application : Option String} {channel : Channel}
    {templateType raw : String} :
    (resolve locales tenant application channel templateType raw).run.Courses fun c r =>
      (∀ x ∈ c, x.Possible enabled) → Records enabled locales
        (keyFor locales tenant application channel templateType raw) [.statistic .lookups] c r := by
  generalize hkey : keyFor locales tenant application channel templateType raw = key
  simp only [resolve, hkey]
  rw [courses_inSpan, courses_bind, courses_notes]
  have hresolve : (resolveKey locales key).run.Courses fun c r =>
      (∀ x ∈ c, x.Possible enabled) → Records enabled locales key [] c r := recorded_resolveKey
  refine hresolve.imp fun c r hr hpossible => ?_
  obtain ⟨ms, last, hc, hrecorded⟩ := hr fun x hx => hpossible x (by simp [hx])
  have hopened : Enters enabled [⟨.note (.spanOpened "resolver.resolve"), (), ()⟩] [] none :=
    .note (by simp) rfl
  have hclosed : Enters enabled [⟨.note .spanClosed, (), ()⟩] [] none := .note (by simp) rfl
  have hopening : Enters enabled ((openingNotes locales key raw).map fun o => ⟨.note o, (), ()⟩)
      [.statistic .lookups] none := enters_opening key raw
  have hwhole := hopened.append ((hopening.append hc).append hclosed)
  exact ⟨ms, last, by simpa using hwhole, hrecorded⟩

/-! ## Figures -/

/-- Whether a lookup ended with a template of the default locale where another one was wanted, given
the locale of the last row that it asked for. -/
def TemplateKey.fellBack (key : TemplateKey) (locales : Locales) (last : Option String) :
    Except EngineError Template → Bool
  | .ok _ => last = some locales.default && locales.default ≠ key.locale
  | .error _ => false

theorem TemplateKey.fellBack_eq {locale : String} {t : Template} (hl : locale ∈ localesFor locales key) :
    key.fellBack locales (some locale) (.ok t) = decide (locale ≠ key.locale) := by
  rcases mem_localesFor hl with rfl | rfl
  · simp [fellBack, eq_comm]
  · simp [fellBack]

theorem figures_outcome {label : String}
    (hl : label ∈ ["tenant", "application", "organization", "error"]) :
    Figures enabled
      (.statistic .lookups :: (missMarks enabled ++ [.counted .resolutions label 1])) 1 0 [] := by
  simp only [List.mem_cons, List.not_mem_nil, or_false] at hl
  rcases hl with rfl | rfl | rfl | rfl <;> cases enabled <;> constructor <;>
    simp [missMarks, statisticCount, movement, movementOfAny, outcomeLabels, timings, timed?]

/-- A fallback is entered beside the outcome of its lookup. -/
theorem figures_fallback : Figures enabled
    [.statistic .localeFallbacks, .counted .localeFallbacks "" 1] 0 1 [] := by
  constructor <;>
    simp [statisticCount, movement, movementOfAny, outcomeLabels, timings, timed?]

/-- Every way of recording a lookup has the figures of one lookup. -/
theorem Recorded.figures {last : Option String} {r : Except EngineError Template}
    {ms : List Observation} (h : Recorded enabled locales key last r ms) :
    Figures enabled (.statistic .lookups :: ms) 1 (key.fellBack locales last r).toNat [] := by
  cases h with
  | recalled he =>
    subst he
    constructor <;>
      simp [statisticCount, movement, movementOfAny, outcomeLabels, timings, timed?,
        TemplateKey.fellBack]
  | @found t locale level hl =>
    have hlabel : level.name ∈ ["tenant", "application", "organization", "error"] := by
      cases level <;> simp [Precedence.name]
    have houtcome : Figures enabled
        (.statistic .lookups :: (missMarks enabled ++ [.counted .resolutions level.name 1])) 1 0 [] :=
      figures_outcome hlabel
    rw [TemplateKey.fellBack_eq hl, acceptMarks, fallbackMarks]
    by_cases he : locale = key.locale
    · simpa [he] using houtcome
    · simp only [he, ne_eq, not_false_iff, if_true, decide_true]
      have hbeside := houtcome.append (@figures_fallback enabled)
      rw [List.cons_append, List.append_assoc] at hbeside
      exact hbeside.perm (.cons _ (.append_left _ List.perm_append_comm))
  | missing =>
    cases enabled <;> constructor <;>
      simp [missMarks, statisticCount, movement, movementOfAny, outcomeLabels, timings, timed?,
        TemplateKey.fellBack]
  | failed => exact figures_outcome (by simp)

end

end Herald
