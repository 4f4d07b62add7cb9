import Herald.Proofs.Coherence.Provenance

/-!
# Herald.Proofs.Coherence.Traced

Every entry is founded on readings of the past.

* `State.step_cases`: what a move may do. Only a lookup fills the caches, only a writer changes the
  store, and all other moves take entries away at most.
* `Reading.Past`: a row that has changed since a reading was written meanwhile.
* `State.Traced`: lookups and entries are founded on past readings. `Traced.run`: so they are in
  every run.
-/

namespace Herald

open Resolution

variable {locales : Locales} {sh : Sharding} {d : Directory} {s s' : State}

theorem Sweep.shrinks (σ : Sweep) (sh : Sharding) (c : Caches) : c.Shrinks (σ.step sh c).1 := by
  have next : c.Shrinks (σ.next sh c).1 := by
    unfold Sweep.next
    split
    · exact .refl c
    · exact .advance c _
  unfold Sweep.step
  split
  · exact next
  · exact .refl c
  · exact .remove c _ _
  · exact next

/-- A move that neither answers a request nor writes to the store. -/
structure State.Frame (locales : Locales) (sh : Sharding) (s s' : State) : Prop where
  clock : s'.clock = s.clock + 1
  store : s'.world.store = s.world.store
  directory : s'.world.directory = s.world.directory
  caches : s.world.caches.Shrinks s'.world.caches
  writes : s'.writes = s.writes
  origin : s'.origin = s.origin
  tasks : ∀ task ∈ s'.tasks, task ∈ s.tasks ∨ ∃ c : Call, task = ⟨c, (c.lookup locales).run, []⟩
  /-- A removal is as before, or it begins, or it has made a step. -/
  sweeps : ∀ σ ∈ s'.sweeps, σ ∈ s.sweeps ∨ (∃ cause, σ = .ofCause cause s.clock) ∨
    ∃ σ₀ ∈ s.sweeps, σ₀.step sh s.world.caches = (s'.world.caches, σ)

/-- The state after a request of a lookup. -/
def State.answered (s : State) (i : Nat) (call : Call) (r : Request)
    (next : r.Answer → Program (Except EngineError call.Answer)) (log : Log (List Reading)) :
    State :=
  { s with
    world := (World.answer r s.world).state
    clock := s.clock + 1
    tasks := s.tasks.set i ⟨call, next (World.answer r s.world).answer,
      log.record r (World.answer r s.world).answer (s.label r (World.answer r s.world).answer)⟩
    origin := s.credit log r (World.answer r s.world).answer }

/-- The state after a write that is accepted. -/
def State.written (s : State) (m : Mutation) : State :=
  { s with
    world := { s.world with store := m.apply s.world.store }
    clock := s.clock + 1
    writes := ⟨m, s.clock⟩ :: s.writes }

/-- What a move may do. -/
theorem State.step_cases (locales : Locales) (sh : Sharding) (s : State) (move : Move) :
    s.Frame locales sh (s.step locales sh move) ∨
      (∃ i call r next log, s.tasks[i]? = some ⟨call, .ask r next, log⟩ ∧
        s.step locales sh move = s.answered i call r next log) ∨
      ∃ m, s.step locales sh move = s.written m := by
  have still : s.Frame locales sh { s with clock := s.clock + 1 } :=
    ⟨rfl, rfl, rfl, .refl _, rfl, rfl, fun _ h => .inl h, fun _ h => .inl h⟩
  cases move with
  | call c =>
    refine .inl ⟨rfl, rfl, rfl, .refl _, rfl, rfl, fun task h => ?_, fun _ h => .inl h⟩
    rcases List.mem_append.1 h with h | h
    · exact .inl h
    · exact .inr ⟨c, List.mem_singleton.1 h⟩
  | proceed i =>
    simp only [step, act, proceed]
    split
    · next call r next log hi => exact .inr (.inl ⟨i, call, r, next, log, hi, rfl⟩)
    · exact .inl still
  | write m =>
    simp only [step, act, write]
    split
    · exact .inr (.inr ⟨m, rfl⟩)
    · exact .inl still
  | drop cause =>
    refine .inl ⟨rfl, rfl, rfl, .refl _, rfl, rfl, fun _ h => .inl h, fun σ h => ?_⟩
    rcases List.mem_append.1 h with h | h
    · exact .inl h
    · exact .inr (.inl ⟨cause, List.mem_singleton.1 h⟩)
  | sweep i =>
    simp only [step, act, sweep]
    split
    · next σ hi =>
      refine .inl ⟨rfl, rfl, rfl, σ.shrinks sh _, rfl, rfl, fun _ h => .inl h, fun σ' h => ?_⟩
      rcases List.mem_or_eq_of_mem_set h with h | rfl
      · exact .inl h
      · exact .inr (.inr ⟨σ, List.mem_of_getElem? hi, rfl⟩)
    · exact .inl still
  | wait n => exact .inl ⟨rfl, rfl, rfl, .refl _, rfl, rfl, fun _ h => .inl h, fun _ h => .inl h⟩

/-- A reading made before now. A row that is not the same any more was written since. -/
structure Reading.Past (s : State) (rd : Reading) : Prop where
  sound : rd.store.Sound
  before : rd.moment < s.clock
  rows : ∀ r, (∀ w ∈ s.writes, w.mutation.rowKey = r → w.moment ≤ rd.moment) →
    rd.store.rows.get? r = s.world.store.rows.get? r

/-- A lookup under way. -/
structure Task.Traced (locales : Locales) (d : Directory) (s : State) (task : Task) : Prop where
  follows : task.rest.Follows (Allowed locales) (fun _ _ => True) task.log
  honest : ∀ x ∈ task.log, x.Honest locales d
  past : ∀ x ∈ task.log, ∀ rd ∈ x.label, rd.Past s
  opened : ∀ t w, window t task.log = some w → w.generation ≤ (s.world.caches.tier t).generation

/-- Lookups and entries are founded on past readings. -/
structure State.Traced (locales : Locales) (d : Directory) (s : State) : Prop where
  directory : s.world.directory = d
  sound : s.world.store.Sound
  written : ∀ w ∈ s.writes, w.moment < s.clock
  tasks : ∀ task ∈ s.tasks, task.Traced locales d s
  founded : s.Entries (Founded locales d)
  past : ∀ p, ∀ rd ∈ s.origin p, rd.Past s

theorem Reading.Past.frame {rd : Reading} (h : rd.Past s) (hf : s.Frame locales sh s') :
    rd.Past s' where
  sound := h.sound
  before := by
    rw [hf.clock]
    exact Nat.lt_succ_of_lt h.before
  rows := by
    rw [hf.writes, hf.store]
    exact h.rows

theorem Call.follows (c : Call) :
    (c.lookup locales).run.Follows (Allowed locales) (fun _ _ => True)
      ([] : Log (List Reading)) := by
  cases c with
  | resolve => exact follows_resolve.imp fun _ _ _ => trivial
  | templateTypes => exact (follows_templateTypes shut_nil).imp fun _ _ _ => trivial
  | applicationTemplates => exact (follows_applicationTemplates shut_nil).imp fun _ _ _ => trivial
  | organizationTemplates => exact (follows_organizationTemplates shut_nil).imp fun _ _ _ => trivial

theorem State.Traced.frame (h : s.Traced locales d) (hf : s.Frame locales sh s') :
    s'.Traced locales d where
  directory := hf.directory.trans h.directory
  sound := hf.store ▸ h.sound
  written := by
    rw [hf.writes, hf.clock]
    exact fun w hw => Nat.lt_succ_of_lt (h.written w hw)
  tasks task ht := by
    rcases hf.tasks task ht with ht | ⟨c, rfl⟩
    · have ht := h.tasks task ht
      exact {
        follows := ht.follows
        honest := ht.honest
        past := fun x hx rd hrd => (ht.past x hx rd hrd).frame hf
        opened := fun t w hw => Nat.le_trans (ht.opened t w hw) (hf.caches.generation t) }
    · exact {
        follows := c.follows
        honest := List.forall_mem_nil _
        past := List.forall_mem_nil _
        opened := fun t w hw => by cases hw }
  founded := h.founded.shrink hf.caches hf.origin
  past := by
    rw [hf.origin]
    exact fun p rd hrd => (h.past p rd hrd).frame hf

theorem Reading.Past.written {rd : Reading} (h : rd.Past s) (m : Mutation) :
    rd.Past (s.written m) where
  sound := h.sound
  before := Nat.lt_succ_of_lt h.before
  rows r hr := by
    obtain ⟨hm, hw⟩ := List.forall_mem_cons.1 hr
    have hne : r ≠ m.rowKey := fun he => Nat.not_le_of_lt h.before (hm he.symm)
    exact (h.rows r hw).trans (get?_apply hne).symm

theorem State.Traced.write (h : s.Traced locales d) (m : Mutation) :
    (s.written m).Traced locales d where
  directory := h.directory
  sound := h.sound.apply m
  written := List.forall_mem_cons.2
    ⟨Nat.lt_succ_self _, fun w hw => Nat.lt_succ_of_lt (h.written w hw)⟩
  tasks task ht :=
    have ht := h.tasks task ht
    { follows := ht.follows
      honest := ht.honest
      past := fun x hx rd hrd => (ht.past x hx rd hrd).written m
      opened := ht.opened }
  founded := h.founded
  past p rd hrd := (h.past p rd hrd).written m

/-! ## One more answer -/

/-- The readings behind an answer: one made now, or those behind an entry. -/
theorem State.label_cases {r : Request} {rd : Reading}
    (h : rd ∈ s.label r (World.answer r s.world).answer) :
    rd = ⟨r, s.clock, s.world.store⟩ ∨ ∃ t k e, r = .lookup t k ∧
      (s.world.caches.tier t).entries.get? k = some e ∧ rd ∈ s.origin ⟨t, k⟩ ∧
      ∀ u b, (⟨r, (World.answer r s.world).answer, b⟩ : Exchange (List Reading)).closes u =
        decide (t = u) := by
  cases r with
  | getTemplate scope path locale => exact .inl (List.mem_singleton.1 h)
  | listTemplates scope path => exact .inl (List.mem_singleton.1 h)
  | listTemplateTypes path tenant => exact .inl (List.mem_singleton.1 h)
  | lookup t k =>
    generalize ha : (World.answer (.lookup t k) s.world).answer = a at h
    cases a with
    | none => cases h
    | some v =>
      obtain ⟨-, e, he, -⟩ := Cache.get_answer ha
      exact .inr ⟨t, k, e, rfl, he, h, fun _ _ => rfl⟩
  | _ => cases h

theorem State.credit_cases {log : Log (List Reading)} {r : Request} {a : r.Answer} {p : Place}
    {rd : Reading} (h : rd ∈ s.credit log r a p) :
    rd ∈ s.origin p ∨ ∃ x ∈ log, rd ∈ x.label := by
  cases r with
  | fill t k v g =>
    cases a with
    | false => exact .inl h
    | true =>
      have h : rd ∈ if p = ⟨t, k⟩ then log.derivation t else s.origin p := h
      split at h
      · rw [Log.derivation] at h
        split at h
        · next w hw =>
          obtain ⟨x, hx, hrd⟩ := List.mem_flatMap.1 h
          exact .inr ⟨x, mem_of_window hw x hx, hrd⟩
        · cases h
      · exact .inl h
  | _ => exact .inl h

/-- A generation is seen as it is. -/
theorem World.opens?_answer {w : World} {r : Request} {b : List Reading} {t : Tier} {g : Nat}
    (h : (⟨r, (World.answer r w).answer, b⟩ : Exchange _).opens? t = some g) :
    g = (w.caches.tier t).generation := by
  cases r with
  | generation u =>
    have hg : (if u = t then some (w.caches.tier u).generation else none) = some g := h
    split at hg
    · next hu =>
      subst hu
      exact (Option.some.inj hg).symm
    · cases hg
  | _ => cases h

namespace State.Traced

/-- What is exchanged next is honest. -/
theorem honest (h : s.Traced locales d) (r : Request) :
    (⟨r, (World.answer r s.world).answer, s.label r (World.answer r s.world).answer⟩ :
      Exchange (List Reading)).Honest locales d := by
  obtain ⟨rfl, -, -, -, hfounded, -⟩ := h
  cases r with
  | generation t => exact .plain rfl rfl fun _ => trivial
  | lookup t k =>
    generalize ha : (World.answer (.lookup t k) s.world).answer = a
    cases a with
    | none => exact .plain rfl rfl fun _ => by cases t <;> trivial
    | some v =>
      obtain ⟨-, e, he, rfl⟩ := Cache.get_answer ha
      cases hq : t.source? k with
      | some q =>
        obtain ⟨rd, ho, rfl, hv⟩ := (hfounded t k e he).list hq
        exact .told rd ho rfl hq (fits_hit.2 hv)
      | none =>
        cases t with
        | resolved => exact .recalled rfl
        | _ => cases hq
  | fill t k v g => exact .plain rfl rfl fun _ => trivial
  | getTemplate scope path locale => exact .told _ rfl rfl rfl rfl
  | listTemplates scope path =>
    have hf : s.world.store.listTemplates scope path = _ := rfl
    exact .told _ rfl rfl rfl hf
  | listTemplateTypes path tenant => exact .told _ rfl rfl rfl rfl
  | tenantId domain => exact .plain rfl rfl fun _ => rfl
  | organizationOf tenant => exact .plain rfl rfl fun _ => rfl
  | note o => exact .plain rfl rfl fun _ => trivial

variable {i : Nat} {call : Call} {r : Request}
  {next : r.Answer → Program (Except EngineError call.Answer)} {log : Log (List Reading)}

theorem past_answered {rd : Reading} (h : rd.Past s) :
    rd.Past (s.answered i call r next log) where
  sound := h.sound
  before := Nat.lt_succ_of_lt h.before
  rows r' := by
    simp only [State.answered, World.answer_store]
    exact h.rows r'

theorem past_label (h : s.Traced locales d) {rd : Reading}
    (hrd : rd ∈ s.label r (World.answer r s.world).answer) :
    rd.Past (s.answered i call r next log) := by
  rcases State.label_cases hrd with rfl | ⟨t, k, -, -, -, hp, -⟩
  · exact {
      sound := h.sound
      before := Nat.lt_succ_self _
      rows := fun r' _ => by simp only [State.answered, World.answer_store] }
  · exact past_answered (h.past _ rd hp)

theorem answered (h : s.Traced locales d) (hi : s.tasks[i]? = some ⟨call, .ask r next, log⟩) :
    (s.answered i call r next log).Traced locales d := by
  have ht := h.tasks _ (List.mem_of_getElem? hi)
  obtain ⟨hallowed, hnext⟩ := ht.follows
  exact {
    directory := (World.answer_directory r s.world).trans h.directory
    sound := (World.answer_store r s.world).symm ▸ h.sound
    written := fun w hw => Nat.lt_succ_of_lt (h.written w hw)
    tasks := fun task hm => by
      rcases List.mem_or_eq_of_mem_set hm with hm | rfl
      · have ht := h.tasks task hm
        exact {
          follows := ht.follows
          honest := ht.honest
          past := fun x hx rd hrd => past_answered (ht.past x hx rd hrd)
          opened := fun t w hw => (World.answer_generation r s.world t).symm ▸ ht.opened t w hw }
      · refine { follows := hnext _ _, honest := fun x hx => ?_, past := fun x hx rd hrd => ?_,
                 opened := fun t w hw => ?_ }
        · rcases mem_record hx with rfl | hx
          · exact h.honest r
          · exact ht.honest x hx
        · rcases mem_record hx with rfl | hx
          · exact h.past_label hrd
          · exact past_answered (ht.past x hx rd hrd)
        · show w.generation ≤ ((World.answer r s.world).state.caches.tier t).generation
          rw [World.answer_generation]
          rcases window_record hw with ⟨g, hg, rfl⟩ | ⟨w₀, hw₀, hg, -⟩
          · exact Nat.le_of_eq (World.opens?_answer hg)
          · rw [hg]
            exact ht.opened t w₀ hw₀
    founded := h.founded.answer log r fun t k v hr => by
      subst hr
      obtain ⟨w, hw, -, hs⟩ := hallowed
      exact hs.founded hw ht.honest
    past := fun p rd hrd => by
      rcases State.credit_cases hrd with hrd | ⟨x, hx, hrd⟩
      · exact past_answered (h.past p rd hrd)
      · exact past_answered (ht.past x hx rd hrd) }

theorem start (earlier : List Mutation) (enabled : Bool) (lifetime : Option Nat) :
    (State.start earlier d enabled lifetime).Traced locales d where
  directory := rfl
  sound := Store.Sound.empty.after earlier
  written := List.forall_mem_nil _
  tasks := List.forall_mem_nil _
  founded t k e he := by cases t <;> cases he
  past _ := List.forall_mem_nil _

/-- Every move keeps it. -/
theorem step (h : s.Traced locales d) (move : Move) :
    (s.step locales sh move).Traced locales d := by
  rcases State.step_cases locales sh s move with hf | ⟨i, call, r, next, log, hi, he⟩ | ⟨m, he⟩
  · exact h.frame hf
  · rw [he]
    exact h.answered hi
  · rw [he]
    exact h.write m

theorem run (h : s.Traced locales d) (moves : List Move) :
    (s.run locales sh moves).Traced locales d := by
  induction moves generalizing s with
  | nil => exact h
  | cons move moves ih => exact ih (h.step move)

end State.Traced

end Herald
