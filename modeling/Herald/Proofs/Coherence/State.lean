import Herald.Proofs.Coherence.Removal
import Herald.Proofs.Resolution.Fresh

/-!
# Herald.Proofs.Coherence.State

Lookups, writes and removals, interleaved step by step.

* `State`: the surroundings, the lookups and the removals that are under way, and a record of where
  everything came from: which writes there were, and from which readings of the store each entry of
  the caches is derived.
* `Move`: a step of anyone; `State.step`, `State.run`: what steps in any order come to.
  `State.run_proceed`: those of one lookup on its own.
* `State.Entries`: what is true of all entries and their origins. `Entries.shrink`,
  `Entries.answer`: what keeps it.
-/

namespace Herald

open Resolution

/-- A reading of the store. -/
structure Reading where
  request : Request
  moment : Nat
  /-- The store that was read. -/
  store : Store

/-- A call of a resolver. -/
inductive Call where
  | resolve (tenant : String) (application : Option String) (channel : Channel)
    (templateType locale : String)
  | templateTypes (tenant : String) (channel : Channel)
  | applicationTemplates (tenant application : String) (channel : Channel)
  | organizationTemplates (organization : String) (application : Option String)
    (channel : Channel)

namespace Call

abbrev Answer : Call → Type
  | resolve .. => Template
  | templateTypes .. => List String
  | applicationTemplates .. => List Template
  | organizationTemplates .. => List Template

def lookup (locales : Locales) : (c : Call) → Lookup c.Answer
  | resolve tenant application channel templateType locale =>
    Resolution.resolve locales tenant application channel templateType locale
  | templateTypes tenant channel => Resolution.templateTypes tenant channel
  | applicationTemplates tenant application channel =>
    Resolution.applicationTemplates tenant application channel
  | organizationTemplates organization application channel =>
    Resolution.organizationTemplates organization application channel

end Call

/-- A call under way. An exchange is labelled with the readings that its answer is derived from. -/
structure Task where
  call : Call
  rest : Program (Except EngineError call.Answer)
  log : Log (List Reading)

/-- A write that was accepted. -/
structure Written where
  mutation : Mutation
  moment : Nat

abbrev Place := (t : Tier) × t.Key

instance : DecidableEq Place := instDecidableEqSigma

/-- What several lookups, writers and removals share. -/
structure State where
  world : World
  /-- The number of moves so far. -/
  clock : Nat := 0
  tasks : List Task := []
  sweeps : List Sweep := []
  writes : List Written := []
  /-- The readings that an entry is derived from. -/
  origin : Place → List Reading := fun _ => []

/-- A step of anyone. -/
inductive Move where
  /-- A lookup begins. -/
  | call (c : Call)
  /-- A lookup makes its next request. -/
  | proceed (i : Nat)
  | write (m : Mutation)
  /-- A removal begins: that for a reported write, or another one. -/
  | drop (cause : Cause)
  /-- A removal makes its next step. -/
  | sweep (i : Nat)
  | wait (nanoseconds : Nat)

/-- The readings that a value is derived from that is filled in after some exchanges: those made
since the generation was looked at, and those behind what the caches had. -/
def Log.derivation (log : Log (List Reading)) (t : Tier) : List Reading :=
  match window t log with
  | some w => w.exchanges.flatMap Exchange.label
  | none => []

namespace State

def label (s : State) : (r : Request) → r.Answer → List Reading
  | .getTemplate scope path locale, _ =>
    [⟨.getTemplate scope path locale, s.clock, s.world.store⟩]
  | .listTemplates scope path, _ => [⟨.listTemplates scope path, s.clock, s.world.store⟩]
  | .listTemplateTypes path tenant, _ => [⟨.listTemplateTypes path tenant, s.clock, s.world.store⟩]
  | .lookup t k, some _ => s.origin ⟨t, k⟩
  | _, _ => []

def credit (s : State) (log : Log (List Reading)) :
    (r : Request) → r.Answer → Place → List Reading
  | .fill t k _ _, true => fun p => if p = ⟨t, k⟩ then log.derivation t else s.origin p
  | _, _ => s.origin

def proceed (s : State) (i : Nat) : State :=
  match s.tasks[i]? with
  | some ⟨call, .ask r next, log⟩ =>
    let reply := World.answer r s.world
    { s with
      world := reply.state
      tasks := s.tasks.set i
        ⟨call, next reply.answer, log.record r reply.answer (s.label r reply.answer)⟩
      origin := s.credit log r reply.answer }
  | _ => s

def sweep (s : State) (sh : Sharding) (i : Nat) : State :=
  match s.sweeps[i]? with
  | some σ =>
    let (caches, σ) := σ.step sh s.world.caches
    { s with
      world := { s.world with caches }
      sweeps := s.sweeps.set i σ }
  | none => s

/-- A write that is refused leaves no trace. -/
def write (s : State) (m : Mutation) : State :=
  if m.accepted s.world.store then
    { s with
      world := { s.world with store := m.apply s.world.store }
      writes := ⟨m, s.clock⟩ :: s.writes }
  else s

def act (locales : Locales) (sh : Sharding) (s : State) : Move → State
  | .call c => { s with tasks := s.tasks ++ [⟨c, (c.lookup locales).run, []⟩] }
  | .proceed i => s.proceed i
  | .write m => s.write m
  | .drop cause => { s with sweeps := s.sweeps ++ [.ofCause cause s.clock] }
  | .sweep i => s.sweep sh i
  | .wait n => { s with world := { s.world with now := s.world.now + n } }

def step (locales : Locales) (sh : Sharding) (s : State) (move : Move) : State :=
  { s.act locales sh move with clock := s.clock + 1 }

def run (locales : Locales) (sh : Sharding) (s : State) (moves : List Move) : State :=
  moves.foldl (step locales sh) s

/-- A store that was written before, and nothing under way. -/
def start (earlier : List Mutation) (directory : Directory) (enabled : Bool)
    (lifetime : Option Nat) : State where
  world := .launch earlier directory enabled lifetime

end State

/-- A write does to the store what it says, whether or not it is accepted. -/
theorem State.write_store (s : State) (m : Mutation) :
    (s.write m).world.store = m.apply s.world.store := by
  unfold State.write
  split
  · rfl
  · next h => exact (apply_of_refused (by simpa using h)).symm

/-- With nothing in between, the requests of a lookup come to what `World.perform` does. -/
theorem State.run_proceed {locales : Locales} {sh : Sharding} {call : Call}
    {p : Program (Except EngineError call.Answer)} {s : State} {i : Nat} {log : Log (List Reading)}
    (h : s.tasks[i]? = some ⟨call, p, log⟩) :
    ∃ n log', (s.run locales sh (List.replicate n (.proceed i))).world =
        (p.run World.answer s.world).state ∧
      (s.run locales sh (List.replicate n (.proceed i))).tasks[i]? =
        some ⟨call, .done (p.run World.answer s.world).answer, log'⟩ := by
  induction p generalizing s log with
  | done a => exact ⟨0, log, rfl, h⟩
  | ask r next ih =>
    have hs : (s.step locales sh (.proceed i)).world = (World.answer r s.world).state := by
      simp only [step, act, proceed, h]
    have ht : (s.step locales sh (.proceed i)).tasks[i]? =
        some ⟨call, next (World.answer r s.world).answer, log.record r
          (World.answer r s.world).answer (s.label r (World.answer r s.world).answer)⟩ := by
      have hi : i < s.tasks.length := (List.getElem?_eq_some_iff.1 h).1
      simp only [step, act, proceed, h]
      exact List.getElem?_set_self hi
    obtain ⟨n, log', hw, hd⟩ := ih _ ht
    rw [hs] at hw hd
    exact ⟨n + 1, log', hw, hd⟩

/-! ## What the caches hold -/

/-- Caches that have lost entries at most, and no count of their generations. -/
structure Caches.Shrinks (c c' : Caches) : Prop where
  entries : ∀ t k e, (c'.tier t).entries.get? k = some e → (c.tier t).entries.get? k = some e
  generation : ∀ t, (c.tier t).generation ≤ (c'.tier t).generation

theorem Caches.Shrinks.refl (c : Caches) : c.Shrinks c := ⟨fun _ _ _ h => h, fun _ => Nat.le_refl _⟩

theorem Caches.Shrinks.withTier (c : Caches) {t : Tier} {x : Cache t.Key t.Value}
    (he : ∀ k e, x.entries.get? k = some e → (c.tier t).entries.get? k = some e)
    (hg : (c.tier t).generation ≤ x.generation) : c.Shrinks (c.withTier t x) where
  entries u k e h := by
    by_cases hu : u = t
    · subst hu
      rw [tier_withTier_self] at h
      exact he k e h
    · rwa [tier_withTier_ne _ _ hu] at h
  generation u := by
    by_cases hu : u = t
    · subst hu
      rwa [tier_withTier_self]
    · exact Nat.le_of_eq (by rw [tier_withTier_ne _ _ hu])

theorem Caches.Shrinks.advance (c : Caches) (t : Tier) : c.Shrinks (c.advance t) :=
  .withTier c (fun _ _ h => h) (Nat.le_succ _)

theorem Caches.Shrinks.remove (c : Caches) (t : Tier) (k : t.Key) : c.Shrinks (c.remove t k) := by
  refine .withTier c (fun l e h => ?_) (Nat.le_refl _)
  have h : ((c.tier t).entries.erase k).get? l = some e := h
  rw [Table.get?_erase] at h
  split at h
  · cases h
  · exact h

theorem Caches.Shrinks.get (c : Caches) (t : Tier) (k : t.Key) (now : Nat) :
    c.Shrinks (c.onTier t (·.get now k)).state := by
  refine .withTier c (fun l e h => ?_) (Nat.le_of_eq Cache.get_generation.symm)
  rcases (c.tier t).get_entries now k with he | ⟨he, -⟩
  · rwa [he] at h
  · rw [he, Table.get?_erase] at h
    split at h
    · cases h
    · exact h

namespace World

variable (r : Request) (w : World)

@[simp] theorem answer_store : (answer r w).state.store = w.store := by
  cases r <;> rfl

@[simp] theorem answer_directory : (answer r w).state.directory = w.directory := by
  cases r <;> rfl

theorem answer_generation (t : Tier) :
    ((answer r w).state.caches.tier t).generation = (w.caches.tier t).generation := by
  cases r with
  | lookup u k => exact Caches.onTier_generation (f := (·.get w.now k)) Cache.get_generation t
  | fill u k v g =>
    exact Caches.onTier_generation (f := (·.fill w.now k v g)) Cache.fill_generation t
  | _ => rfl

end World

/-- All entries and their origins have a property. -/
def State.Entries (P : (t : Tier) → t.Key → t.Value → List Reading → Prop) (s : State) : Prop :=
  ∀ t k e, (s.world.caches.tier t).entries.get? k = some e → P t k e.value (s.origin ⟨t, k⟩)

namespace State.Entries

variable {P : (t : Tier) → t.Key → t.Value → List Reading → Prop} {s : State}

theorem shrink {s' : State} (h : s.Entries P) (hc : s.world.caches.Shrinks s'.world.caches)
    (ho : s'.origin = s.origin) : s'.Entries P := by
  intro t k e he
  rw [ho]
  exact h t k e (hc.entries t k e he)

/-- After a request, what was filled in is new; all else was there before. -/
theorem answer (h : s.Entries P) (log : Log (List Reading)) (r : Request)
    (hf : ∀ t k v, r = .fill t k v (s.world.caches.tier t).generation →
      P t k v (log.derivation t))
    (t : Tier) (k : t.Key) (e : Cache.Entry t.Value)
    (he : ((World.answer r s.world).state.caches.tier t).entries.get? k = some e) :
    P t k e.value (s.credit log r (World.answer r s.world).answer ⟨t, k⟩) := by
  cases r with
  | lookup u l =>
    have hs := Caches.Shrinks.get s.world.caches u l s.world.now
    exact h t k e (hs.entries t k e he)
  | fill u l v g =>
    have he : ((s.world.caches.withTier u
      ((s.world.caches.tier u).fill s.world.now l v g).state).tier t).entries.get? k = some e := he
    show P t k e.value (s.credit log (.fill u l v g)
      ((s.world.caches.tier u).fill s.world.now l v g).answer ⟨t, k⟩)
    rcases (s.world.caches.tier u).fill_cases s.world.now l v g with hc | ⟨-, hg, hc⟩
    · rw [hc] at he ⊢
      exact h t k e ((Caches.Shrinks.withTier _ (fun _ _ h => h) (Nat.le_refl _)).entries t k e he)
    · rw [hc] at he ⊢
      show P t k e.value (if (⟨t, k⟩ : Place) = ⟨u, l⟩ then log.derivation u else s.origin ⟨t, k⟩)
      by_cases ht : t = u
      · subst ht
        rw [Caches.tier_withTier_self] at he
        have hi : ((s.world.caches.tier t).entries.insert l ⟨v, s.world.now⟩).get? k = some e := he
        rw [Table.get?_insert] at hi
        split at hi
        · next hk =>
          subst hk
          cases hi
          rw [if_pos rfl]
          exact hf t k v (by rw [hg])
        · next hk =>
          have hne : (⟨t, k⟩ : Place) ≠ ⟨t, l⟩ := fun hp => hk (by cases hp; rfl)
          rw [if_neg hne]
          exact h t k e hi
      · have hne : (⟨t, k⟩ : Place) ≠ ⟨u, l⟩ := fun hp => ht (congrArg Sigma.fst hp)
        rw [Caches.tier_withTier_ne _ _ ht] at he
        rw [if_neg hne]
        exact h t k e he
  | _ => exact h t k e he

end State.Entries

end Herald
