import Mathlib.Data.List.Forall2
import Herald.Proofs.Resolution.Marks
import Herald.Proofs.Service.Machine

/-!
# Herald.Proofs.Service.Accounting

The statistics and the counters of a service, however its calls overlap.

* `Caches.Made`: what of the caches shows in what is observed of them; no move changes it.
* `Service.Books`: what is observed of a run, in its order, and of each call apart.
* `Errand.Passed`: a call that has taken some course. `Service.Kept`: the books hold what the
  courses of the calls let be seen. `Kept.act`, `Kept.run`: every move enters what it has to.
* `calls_accounted`: the figures of calls that have ended, one by one and all together.
-/

namespace Herald

open Resolution Lookup Observation

/-! ## What of the caches can be seen -/

/-- Each cache is observed under the name of its tier, and all are in use or none is. -/
def Caches.Made (enabled : Bool) (c : Caches) : Prop :=
  ∀ t, (c.tier t).label = t.label ∧ (c.tier t).enabled = enabled

namespace Caches.Made

variable {enabled : Bool} {c : Caches}

theorem new (lifetime : Option Nat) : (Caches.new enabled lifetime).Made enabled := by
  intro t
  cases t <;> exact ⟨rfl, rfl⟩

theorem withTier (h : c.Made enabled) {t : Tier} {x : Cache t.Key t.Value}
    (hx : x.SameMake (c.tier t)) : (c.withTier t x).Made enabled := by
  intro u
  by_cases hu : u = t
  · subst hu
    rw [tier_withTier_self, hx.label, hx.enabled]
    exact h u
  · rw [tier_withTier_ne _ _ hu]
    exact h u

theorem sweep (h : c.Made enabled) (sh : Sharding) (σ : Sweep) : (σ.step sh c).1.Made enabled := by
  have next (σ : Sweep) : (σ.next sh c).1.Made enabled := by
    unfold Sweep.next
    split
    · exact h
    · exact h.withTier ⟨rfl, rfl, rfl⟩
  unfold Sweep.step
  split
  · exact next σ
  · exact h
  · exact h.withTier ⟨rfl, rfl, rfl⟩
  · exact next σ

end Caches.Made

namespace Service

variable {η μ : Type} {enabled : Bool} {out : Outside η μ} {locales : Locales} {sh : Sharding}
  {s : Service η}

theorem made_answer (h : s.caches.Made enabled) (host : Host) (r : Request) :
    (s.answer host r).state.Made enabled := by
  cases r with
  | lookup t k => exact h.withTier ((s.caches.tier t).get_make s.now k)
  | fill t k v g => exact h.withTier ((s.caches.tier t).fill_make s.now k v g)
  | _ => exact h

theorem made_act (h : s.caches.Made enabled) (move : Move μ) :
    (s.act out locales sh move).caches.Made enabled := by
  cases move with
  | proceed i =>
    simp only [act]
    split
    · exact made_answer h _ _
    · exact h
  | sweep i =>
    simp only [act]
    split
    · exact h.sweep sh _
    · exact h
  | remove target => exact h.withTier ⟨rfl, rfl, rfl⟩
  | _ => exact h

theorem notes_answer (h : s.caches.Made enabled) (host : Host) (r : Request) :
    (s.answer host r).notes = Exchange.seen enabled ⟨r, (s.answer host r).answer, ()⟩ ∧
      Exchange.Possible enabled ⟨r, (s.answer host r).answer, ()⟩ := by
  cases r with
  | lookup t k =>
    obtain ⟨hl, he⟩ := h t
    have hn := (s.caches.tier t).get_notes s.now k
    have ha : (s.answer host (.lookup t k)).answer = ((s.caches.tier t).get s.now k).answer := rfl
    rw [hl, he] at hn
    rw [ha]
    cases hx : ((s.caches.tier t).get s.now k).answer with
    | none => exact ⟨hn.trans (by rw [hx]; rfl), trivial⟩
    | some v => exact ⟨hn.trans (by rw [hx]; rfl), he ▸ (Cache.get_answer hx).1⟩
  | fill t k v g =>
    obtain ⟨hl, he⟩ := h t
    have hn := (s.caches.tier t).fill_notes s.now k v g
    have ha : (s.answer host (.fill t k v g)).answer =
      ((s.caches.tier t).fill s.now k v g).answer := rfl
    rw [hl, he] at hn
    rw [ha]
    refine ⟨hn.trans ?_, trivial⟩
    cases ((s.caches.tier t).fill s.now k v g).answer <;> cases enabled <;> rfl
  | _ => exact ⟨rfl, trivial⟩

end Service

/-! ## Books -/

/-- What is observed of a run. -/
structure Service.Books where
  /-- All of it, in its order. -/
  journal : List Observation := []
  /-- What is observed of each call. -/
  shares : List (List Observation) := []
  /-- What is observed of removals that are made at once. -/
  removals : List Observation := []

namespace Service

variable {η μ : Type} (out : Outside η μ) (locales : Locales) (sh : Sharding)

def enter (s : Service η) (b : Books) : Move μ → Books
  | .begin _ => { b with shares := b.shares ++ [[]] }
  | .proceed i =>
    match s.errands[i]? with
    | some ⟨_, .ask r _, _⟩ =>
      let os := (s.answer (out.host s.outside) r).notes
      { b with journal := b.journal ++ os, shares := b.shares.modify i (· ++ os) }
    | _ => b
  | .remove target =>
    let os := (s.caches.without target).notes
    { b with journal := b.journal ++ os, removals := b.removals ++ os }
  | _ => b

def books (s : Service η) (b : Books) : List (Move μ) → Books
  | [] => b
  | move :: moves => (s.act out locales sh move).books (s.enter out b move) moves

end Service

namespace Errand

def ended (e : Errand) : Bool :=
  match e.rest with
  | .done _ => true
  | .ask .. => false

def resolves (e : Errand) : Bool :=
  match e.inquiry with
  | .call (.resolve ..) => true
  | _ => false

/-- Whether a call is a lookup that ended with a template of the default locale where another one
was wanted. A search asks for a row of the tenant first in each locale. -/
def fellBack (locales : Locales) : Errand → Bool
  | ⟨.call (.resolve tenant application channel templateType raw), .done r, log⟩ =>
    (keyFor locales tenant application channel templateType raw).fellBack locales log.passing r
  | _ => false

/-- The calls of the store that a call has made, by their operations. -/
def calls (e : Errand) : List String := e.log.filterMap (·.request.operation?)

end Errand

/-! ## Calls -/

def Inquiry.Leaves (enabled : Bool) (locales : Locales) (c : Course) :
    (q : Inquiry) → Except EngineError q.Answer → Prop
  | call (.resolve tenant application channel templateType raw), r =>
    Records enabled locales (keyFor locales tenant application channel templateType raw)
      [.statistic .lookups] c r
  | call (.templateTypes ..), _ => Enters enabled c [] none
  | call (.applicationTemplates ..), _ => Enters enabled c [] none
  | call (.organizationTemplates ..), _ => Enters enabled c [] none
  | applicationTemplateTypes .., _ => Enters enabled c [] none

theorem Inquiry.leaves {enabled : Bool} (locales : Locales) (q : Inquiry) :
    (q.lookup locales).run.Courses fun c r =>
      (∀ x ∈ c, x.Possible enabled) → q.Leaves enabled locales c r := by
  cases q with
  | call c =>
    cases c with
    | resolve => exact recorded_resolve
    | templateTypes => exact quiet_templateTypes.imp fun c r h _ => h
    | applicationTemplates => exact quiet_applicationTemplates.imp fun c r h _ => h
    | organizationTemplates => exact quiet_organizationTemplates.imp fun c r h _ => h
  | applicationTemplateTypes =>
    exact (quiet_bind quiet_applicationTemplates fun _ => quiet_pure).imp fun c r h _ => h

structure Errand.Passed (enabled : Bool) (locales : Locales) (c : Course) (e : Errand) : Prop where
  log : e.log = c.log []
  possible : ∀ x ∈ c, x.Possible enabled
  rest : e.rest.Courses fun c' r =>
    (∀ x ∈ c ++ c', x.Possible enabled) → e.inquiry.Leaves enabled locales (c ++ c') r

namespace Errand.Passed

variable {enabled : Bool} {locales : Locales} {c : Course} {e : Errand}

theorem begins (q : Inquiry) : Passed enabled locales [] ⟨q, (q.lookup locales).run, []⟩ :=
  ⟨rfl, List.forall_mem_nil _, q.leaves locales⟩

theorem answered {q : Inquiry} {r : Request} {x : r.Answer}
    {next : r.Answer → Program (Except EngineError q.Answer)} {log : Log Unit}
    (h : Passed enabled locales c ⟨q, .ask r next, log⟩) (hx : Exchange.Possible enabled ⟨r, x, ()⟩) :
    Passed enabled locales (c ++ [⟨r, x, ()⟩]) ⟨q, next x, log.record r x ()⟩ where
  log := by
    have hlog : log = c.log [] := h.log
    show log.record r x () = Course.log (c ++ [⟨r, x, ()⟩]) []
    rw [Course.log, List.foldl_append, hlog]
    rfl
  possible y hy := by
    rcases List.mem_append.1 hy with hy | hy
    · exact h.possible y hy
    · rw [List.mem_singleton.1 hy]
      exact hx
  rest := (Program.courses_ask.1 h.rest x).imp fun c' r' hr => by
    rw [List.append_assoc]
    exact hr

theorem figures (h : Passed enabled locales c e) (he : e.ended = true) :
    Figures enabled (c.seen enabled) e.resolves.toNat (e.fellBack locales).toNat e.calls := by
  obtain ⟨q, rest, log⟩ := e
  cases rest with
  | ask r next => cases he
  | done r =>
    have hleaves : q.Leaves enabled locales c r := by
      have hr := Program.courses_done.1 h.rest
      rw [List.append_nil] at hr
      exact hr h.possible
    have hlog : log = c.log [] := h.log
    have hcalls : (Errand.calls ⟨q, .done r, log⟩).Perm c.calls := by
      have hp := c.calls_log []
      rw [List.filterMap_nil, List.append_nil, ← hlog] at hp
      exact hp
    have entered {ms : List Observation} {last : Option String} {n m : Nat}
        (hc : Enters enabled c ms last) (hms : Figures enabled ms n m []) :
        Figures enabled (c.seen enabled) n m (Errand.calls ⟨q, .done r, log⟩) := by
      refine .of_marks (hc.marks ▸ hms) (hc.queries.trans hcalls.length_eq.symm) ?_
      rw [hc.timings]
      exact hcalls.symm
    have unheard (hc : Enters enabled c [] none) :
        Figures enabled (c.seen enabled) 0 0 (Errand.calls ⟨q, .done r, log⟩) := entered hc .nil
    cases q with
    | call q =>
      cases q with
      | resolve tenant application channel templateType raw =>
        obtain ⟨ms, last, hc, hrecorded⟩ := hleaves
        have hlast : log.passing = last := by
          rw [hlog, c.passing_log, hc.passing]
          exact Option.or_none
        have hms := entered hc hrecorded.figures
        rw [← hlast] at hms
        exact hms
      | _ => exact unheard hleaves
    | applicationTemplateTypes => exact unheard hleaves

end Errand.Passed

/-! ## Runs -/

/-- What was observed of a call is what its course lets be seen. -/
def Errand.Shares (enabled : Bool) (locales : Locales) (e : Errand) (os : List Observation) : Prop :=
  ∃ c : Course, e.Passed enabled locales c ∧ os = c.seen enabled

section Lists

variable {α β : Type} {R : α → β → Prop} {l : List α} {l' : List β} {i : Nat} {a : α}

theorem forall₂_getElem? (h : List.Forall₂ R l l') (ha : l[i]? = some a) :
    ∃ b, l'[i]? = some b ∧ R a b := by
  induction h generalizing i with
  | nil => cases ha
  | cons hr h ih =>
    cases i with
    | zero =>
      obtain rfl := Option.some.inj ha
      exact ⟨_, rfl, hr⟩
    | succ i => exact ih ha

theorem forall₂_set {a' : α} {f : β → β} (h : List.Forall₂ R l l') (ha : l[i]? = some a)
    (hf : ∀ b, R a b → R a' (f b)) : List.Forall₂ R (l.set i a') (l'.modify i f) := by
  induction h generalizing i with
  | nil => cases ha
  | cons hr h ih =>
    cases i with
    | zero =>
      obtain rfl := Option.some.inj ha
      exact .cons (hf _ hr) h
    | succ i => exact .cons hr (ih ha)

theorem flatten_modify {ls : List (List α)} (hi : i < ls.length) (more : List α) :
    (ls.modify i (· ++ more)).flatten.Perm (ls.flatten ++ more) := by
  induction ls generalizing i with
  | nil => cases hi
  | cons l ls ih =>
    cases i with
    | zero =>
      show ((l ++ more) ++ ls.flatten).Perm (l ++ ls.flatten ++ more)
      rw [List.append_assoc, List.append_assoc]
      exact .append_left l List.perm_append_comm
    | succ i =>
      show (l ++ (ls.modify i (· ++ more)).flatten).Perm (l ++ ls.flatten ++ more)
      rw [List.append_assoc]
      exact .append_left l (ih (Nat.lt_of_succ_lt_succ hi))

end Lists

/-- The books hold what is observed of the calls, each in its share, and of removals. -/
structure Service.Kept {η : Type} (enabled : Bool) (locales : Locales) (s : Service η) (b : Books) :
    Prop where
  made : s.caches.Made enabled
  journal : b.journal.Perm (b.shares.flatten ++ b.removals)
  shares : List.Forall₂ (Errand.Shares enabled locales) s.errands b.shares
  removals : Figures enabled b.removals 0 0 []

theorem Caches.figures_without {enabled : Bool} (c : Caches) (g : Target) :
    Figures enabled (c.without g).notes 0 0 [] := by
  rw [without_notes]
  split
  · exact .nil
  · exact .of_unheard (by simp [loud, timed?])

theorem Caches.figures_drop {enabled : Bool} (c : Caches) (cause : Cause) :
    Figures enabled (c.drop cause).notes 0 0 [] := by
  have hsweep (gs : List Target) : Figures enabled (c.sweep gs).notes 0 0 [] := by
    induction gs generalizing c with
    | nil => exact .nil
    | cons g gs ih => exact (c.figures_without g).append (ih _)
  cases cause with
  | change change => exact (hsweep change.targets).append (.of_unheard (by simp [log, loud, timed?]))
  | tenant tenant => exact hsweep _
  | all => exact hsweep _

namespace Service

variable {η μ : Type} {enabled : Bool} {out : Outside η μ} {locales : Locales} {sh : Sharding}
  {s : Service η} {b : Books}

theorem Kept.start (outside : η) (lifetime : Option Nat) :
    (Service.start outside enabled lifetime).Kept enabled locales {} :=
  ⟨.new lifetime, .refl [], .nil, .nil⟩

theorem Kept.answered {i : Nat} {q : Inquiry} {r : Request}
    {next : r.Answer → Program (Except EngineError q.Answer)} {log : Log Unit}
    (h : s.Kept enabled locales b) (hi : s.errands[i]? = some ⟨q, .ask r next, log⟩) :
    let os := (s.answer (out.host s.outside) r).notes
    (s.answered out i q r next log).Kept enabled locales
      { b with journal := b.journal ++ os, shares := b.shares.modify i (· ++ os) } := by
  intro os
  obtain ⟨hseen, hpossible⟩ := notes_answer h.made (out.host s.outside) r
  have hlength : i < b.shares.length := by
    rw [← h.shares.length_eq]
    exact (List.getElem?_eq_some_iff.1 hi).1
  refine ⟨made_answer h.made _ r, ?_, forall₂_set h.shares hi ?_, h.removals⟩
  · have hj : (b.journal ++ os).Perm (b.shares.flatten ++ os ++ b.removals) := by
      refine (h.journal.append_right os).trans ?_
      rw [List.append_assoc, List.append_assoc]
      exact .append_left _ List.perm_append_comm
    exact hj.trans ((flatten_modify hlength os).symm.append_right _)
  · rintro os' ⟨c, hc, rfl⟩
    refine ⟨_, hc.answered hpossible, ?_⟩
    rw [Course.seen_append, Course.seen_cons, Course.seen_nil, List.append_nil, ← hseen]

theorem Kept.act (h : s.Kept enabled locales b) (move : Move μ) :
    (s.act out locales sh move).Kept enabled locales (s.enter out b move) := by
  have hmade : (s.act out locales sh move).caches.Made enabled := made_act h.made move
  cases move with
  | begin q =>
    refine ⟨hmade, ?_, ?_, h.removals⟩
    · show b.journal.Perm ((b.shares ++ [[]]).flatten ++ b.removals)
      simpa using h.journal
    · exact List.rel_append h.shares (.cons ⟨[], .begins q, rfl⟩ .nil)
  | proceed i =>
    cases hi : s.errands[i]? with
    | none =>
      simp only [Service.act, enter, hi]
      exact h
    | some e =>
      obtain ⟨q, rest, log⟩ := e
      cases rest with
      | done r =>
        simp only [Service.act, enter, hi]
        exact h
      | ask r next =>
        simp only [Service.act, enter, hi]
        exact h.answered hi
  | remove target =>
    refine ⟨hmade, ?_, h.shares, h.removals.append (s.caches.figures_without target)⟩
    have hj := h.journal.append_right (s.caches.without target).notes
    rwa [List.append_assoc] at hj
  | sweep i =>
    have he : (s.act out locales sh (.sweep i)).errands = s.errands := by
      simp only [Service.act]
      split <;> rfl
    exact ⟨hmade, h.journal, he ▸ h.shares, h.removals⟩
  | _ => exact ⟨hmade, h.journal, h.shares, h.removals⟩

theorem Kept.run (h : s.Kept enabled locales b) (moves : List (Move μ)) :
    (s.run out locales sh moves).Kept enabled locales (s.books out locales sh b moves) := by
  induction moves generalizing s b with
  | nil => exact h
  | cons move moves ih => exact ih (h.act move)

end Service

theorem Errand.figures_flatten {enabled : Bool} {locales : Locales} {es : List Errand}
    {shares : List (List Observation)} (h : List.Forall₂ (Shares enabled locales) es shares)
    (hended : ∀ e ∈ es, e.ended = true) :
    Figures enabled shares.flatten (es.countP (·.resolves)) (es.countP (·.fellBack locales))
      (es.flatMap Errand.calls) := by
  induction h with
  | nil => exact .nil
  | @cons e os es shares he h ih =>
    obtain ⟨c, hc, rfl⟩ := he
    obtain ⟨hlast, hes⟩ := List.forall_mem_cons.1 hended
    have hcount (p : Errand → Bool) : (e :: es).countP p = (p e).toNat + es.countP p := by
      rw [List.countP_cons, Nat.add_comm]
      cases p e <;> rfl
    rw [hcount, hcount]
    exact (hc.figures hlast).append (ih hes)

/-- Calls may overlap with each other and with removals, and the store and the directory may answer
anything. A call that has ended has the figures of one lookup or of none. Whenever all calls have
ended, the figures of all of them add up. A removal has no figures of its own, for whatever cause. -/
theorem calls_accounted {η μ : Type} (out : Outside η μ) (locales : Locales) (sh : Sharding)
    (outside : η) (enabled : Bool) (lifetime : Option Nat) (moves : List (Service.Move μ)) :
    let first := Service.start outside enabled lifetime
    let s := first.run out locales sh moves
    let b := first.books out locales sh {} moves
    (∀ (i : Nat) e, s.errands[i]? = some e → e.ended = true → ∃ os, b.shares[i]? = some os ∧
      Figures enabled os e.resolves.toNat (e.fellBack locales).toNat e.calls) ∧
    ((∀ e ∈ s.errands, e.ended = true) →
      Figures enabled b.journal (s.errands.countP (·.resolves))
        (s.errands.countP (·.fellBack locales)) (s.errands.flatMap Errand.calls)) ∧
    ∀ (caches : Caches) (cause : Cause), Figures enabled (caches.drop cause).notes 0 0 [] := by
  intro first s b
  have hkept : s.Kept enabled locales b := (Service.Kept.start outside lifetime).run moves
  refine ⟨fun i e hi he => ?_, fun hended => ?_, fun caches cause => caches.figures_drop cause⟩
  · obtain ⟨os, hos, c, hc, rfl⟩ := forall₂_getElem? hkept.shares hi
    exact ⟨_, hos, hc.figures he⟩
  · have hall := (Errand.figures_flatten hkept.shares hended).append hkept.removals
    rw [Nat.add_zero, Nat.add_zero, List.append_nil] at hall
    exact hall.perm hkept.journal

namespace accounting

def row : Template := { templateType := "welcome", locale := "en_US", body := "Hello" }

def outside : Outside Unit Unit where
  host _ := {
    getTemplate := fun _ _ locale => .ok (if locale = "en_US" then some row else none)
    listTemplates := fun _ _ => .ok []
    listTemplateTypes := fun _ _ => .ok []
    tenantId := fun _ => .ok none
    organizationOf := fun _ => .ok none }
  act _ x := x

def lookup : Inquiry := .call (.resolve "acme" none .email "welcome" "de-de")

/-- Two lookups in turns, everything is removed, and then one more, twice. -/
def moves : List (Service.Move Unit) :=
  [.begin lookup, .begin lookup] ++ (List.replicate 40 [.proceed 0, .proceed 1]).flatten ++
    [.remove (.resolved fun _ => true), .begin lookup] ++ List.replicate 40 (.proceed 2) ++
    [.begin lookup] ++ List.replicate 40 (.proceed 3)

def first : Service Unit := .start () true none

def last : Service Unit := first.run outside ⟨"en_US"⟩ .single moves

def books : Service.Books := first.books outside ⟨"en_US"⟩ .single {} moves

end accounting

/-- Of four lookups one is answered from the cache, and three fell back. -/
theorem calls_accounted_in_turns :
    (∀ e ∈ accounting.last.errands, e.ended = true) ∧
      tally .resolutions "cache" accounting.books.journal = 1 ∧
      Figures true accounting.books.journal 4 3
        (accounting.last.errands.flatMap Errand.calls) := by
  have hended : ∀ e ∈ accounting.last.errands, e.ended = true := by
    have h : accounting.last.errands.all Errand.ended = true := by decide +kernel
    exact List.all_eq_true.1 h
  have hcached : tally .resolutions "cache" accounting.books.journal = 1 := by decide +kernel
  have hlookups : accounting.last.errands.countP (·.resolves) = 4 := by decide +kernel
  have hfallbacks : accounting.last.errands.countP (·.fellBack ⟨"en_US"⟩) = 3 := by
    decide +kernel
  have hall := (calls_accounted accounting.outside ⟨"en_US"⟩ .single () true none
    accounting.moves).2.1 hended
  exact ⟨hended, hcached, hlookups ▸ hfallbacks ▸ hall⟩

end Herald
