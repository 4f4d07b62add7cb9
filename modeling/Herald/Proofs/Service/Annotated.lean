import Herald.Proofs.Service.Machine

/-!
# Herald.Proofs.Service.Annotated

The moves of a `State` are those of a service with a store and a directory of this library.

* `Mutation.outside`: such a store and directory, as what lies outside a service.
* `Exchange.bare`, `Sweep.bare`, `Task.errand`, `Move.plain`: a log, a removal, a call and a move
  without what an onlooker notes beside them.
* `State.Annotates`: a state is a service, and what it has beyond that is notes. `Annotates.act`:
  every move keeps it so. `State.annotates_run`: so it is in every run.
* `Annotates.answers_iff`: calls end with the same answers in both.
-/

namespace Herald

open Resolution

/-- A store and a directory of this library. Writes change the store. -/
def Mutation.outside : Outside (Store × Directory) Mutation where
  host x := .of x.1 x.2
  act m x := (m.apply x.1, x.2)

def Exchange.bare {β : Type} (x : Exchange β) : Exchange Unit := ⟨x.request, x.answer, ()⟩

/-- A removal without the moment of its beginning. -/
def Sweep.bare (σ : Sweep) : Sweep := { σ with begun := 0 }

def Task.errand (t : Task) : Errand := ⟨.call t.call, t.rest, t.log.map Exchange.bare⟩

def Move.plain : Move → Service.Move Mutation
  | .call c => .begin (.call c)
  | .proceed i => .proceed i
  | .write m => .outside m
  | .drop cause => .drop cause
  | .sweep i => .sweep i
  | .wait n => .wait n

theorem Log.map_record {β : Type} (log : Log β) (r : Request) (x : r.Answer) (b : β) :
    (log.record r x b).map Exchange.bare = Log.record (log.map Exchange.bare) r x () := by
  cases r <;> rfl

/-- A removal goes its way whenever it began. -/
theorem Sweep.step_bare (sh : Sharding) (c : Caches) (σ : Sweep) :
    (σ.bare.step sh c).1 = (σ.step sh c).1 ∧ (σ.bare.step sh c).2 = (σ.step sh c).2.bare := by
  obtain ⟨cause, begun, current, later⟩ := σ
  rcases current with _ | ⟨target, _ | ⟨i, shards⟩, _ | ⟨k, found⟩⟩ <;> cases later <;>
    exact ⟨rfl, rfl⟩

theorem Sweep.step_congr {σ τ : Sweep} (h : σ.bare = τ.bare) (sh : Sharding) (c : Caches) :
    (σ.step sh c).1 = (τ.step sh c).1 ∧ (σ.step sh c).2.bare = (τ.step sh c).2.bare := by
  obtain ⟨hσ, hσ'⟩ := σ.step_bare sh c
  obtain ⟨hτ, hτ'⟩ := τ.step_bare sh c
  rw [← hσ, ← hσ', ← hτ, ← hτ', h]
  exact ⟨rfl, rfl⟩

theorem World.answer_now (r : Request) (w : World) : (World.answer r w).state.now = w.now := by
  cases r <;> rfl

/-- A state is a service, and what it has beyond that is notes: the clock, the writes, the origin of
each entry, and the labels of the exchanges. -/
structure State.Annotates (s : State) (x : Service (Store × Directory)) : Prop where
  outside : x.outside = (s.world.store, s.world.directory)
  caches : x.caches = s.world.caches
  now : x.now = s.world.now
  errands : x.errands = s.tasks.map Task.errand
  sweeps : x.sweeps.map Sweep.bare = s.sweeps.map Sweep.bare

namespace State

variable {locales : Locales} {sh : Sharding} {s : State} {x : Service (Store × Directory)}

namespace Annotates

/-- Requests are answered alike. -/
theorem answer (h : s.Annotates x) (r : Request) :
    x.answer (Mutation.outside.host x.outside) r =
      let reply := World.answer r s.world
      ⟨reply.answer, reply.state.caches, reply.notes⟩ := by
  rw [h.outside]
  exact Service.answer_of_world h.caches h.now r

theorem proceed (h : s.Annotates x) (i : Nat) :
    (s.proceed i).Annotates (x.act Mutation.outside locales sh (.proceed i)) := by
  have hi : x.errands[i]? = s.tasks[i]?.map Task.errand := by rw [h.errands, List.getElem?_map]
  unfold State.proceed
  cases ht : s.tasks[i]? with
  | none =>
    rw [ht] at hi
    have hx : x.act Mutation.outside locales sh (.proceed i) = x := by
      simp only [Service.act, hi, Option.map_none]
    rwa [hx]
  | some t =>
    rw [ht] at hi
    obtain ⟨call, rest, log⟩ := t
    cases rest with
    | done a =>
      have hx : x.act Mutation.outside locales sh (.proceed i) = x := by
        simp only [Service.act, hi, Option.map_some, Task.errand]
      rwa [hx]
    | ask r next =>
      have hx : x.act Mutation.outside locales sh (.proceed i) =
          x.answered Mutation.outside i (.call call) r next (log.map Exchange.bare) := by
        simp only [Service.act, hi, Option.map_some, Task.errand, Service.answered]
      rw [hx, Service.answered, h.answer]
      refine ⟨?_, rfl, ?_, ?_, h.sweeps⟩
      · simpa using h.outside
      · exact h.now.trans (World.answer_now r s.world).symm
      · simp only [List.map_set, h.errands, Task.errand, Log.map_record]

theorem sweep (h : s.Annotates x) (i : Nat) :
    (s.sweep sh i).Annotates (x.act Mutation.outside locales sh (.sweep i)) := by
  have hi : x.sweeps[i]?.map Sweep.bare = s.sweeps[i]?.map Sweep.bare := by
    rw [← List.getElem?_map, h.sweeps, List.getElem?_map]
  unfold State.sweep
  cases hs : s.sweeps[i]? with
  | none =>
    rw [hs, Option.map_none, Option.map_eq_none_iff] at hi
    have hx : x.act Mutation.outside locales sh (.sweep i) = x := by
      simp only [Service.act, hi]
    rwa [hx]
  | some σ =>
    rw [hs, Option.map_some, Option.map_eq_some_iff] at hi
    obtain ⟨τ, hτ, hb⟩ := hi
    obtain ⟨hcaches, hbare⟩ := Sweep.step_congr hb sh s.world.caches
    have hx : x.act Mutation.outside locales sh (.sweep i) =
        { x with
          caches := (τ.step sh s.world.caches).1
          sweeps := x.sweeps.set i (τ.step sh s.world.caches).2 } := by
      simp only [Service.act, hτ, h.caches]
    rw [hx]
    refine ⟨h.outside, hcaches, h.now, h.errands, ?_⟩
    simp only [List.map_set, h.sweeps, hbare]

/-- A write that is refused changes nothing in either. -/
theorem write (h : s.Annotates x) (m : Mutation) :
    (s.write m).Annotates (x.act Mutation.outside locales sh (.outside m)) := by
  have hwrite : (m.apply x.outside.1, x.outside.2) =
      ((s.write m).world.store, s.world.directory) := by
    rw [h.outside, s.write_store]
  unfold State.write at hwrite ⊢
  split at hwrite
  · next ha =>
    rw [if_pos ha]
    exact ⟨hwrite, h.caches, h.now, h.errands, h.sweeps⟩
  · next ha =>
    rw [if_neg ha]
    exact ⟨hwrite, h.caches, h.now, h.errands, h.sweeps⟩

/-- A move of a state is that of the service. -/
theorem act (h : s.Annotates x) (move : Move) :
    (s.act locales sh move).Annotates (x.act Mutation.outside locales sh move.plain) := by
  cases move with
  | call c =>
    refine ⟨h.outside, h.caches, h.now, ?_, h.sweeps⟩
    simp only [Service.act, Move.plain, State.act, h.errands, List.map_append, List.map_cons,
      List.map_nil]
    rfl
  | proceed i => exact h.proceed i
  | write m => exact h.write m
  | drop cause =>
    refine ⟨h.outside, h.caches, h.now, h.errands, ?_⟩
    simp only [Service.act, Move.plain, State.act, List.map_append, h.sweeps]
    rfl
  | sweep i => exact h.sweep i
  | wait n => exact ⟨h.outside, h.caches, congrArg (· + n) h.now, h.errands, h.sweeps⟩

/-- The clock is a note. -/
theorem step (h : s.Annotates x) (move : Move) :
    (s.step locales sh move).Annotates (x.act Mutation.outside locales sh move.plain) :=
  have ha := h.act move
  ⟨ha.outside, ha.caches, ha.now, ha.errands, ha.sweeps⟩

theorem run (h : s.Annotates x) (moves : List Move) :
    (s.run locales sh moves).Annotates
      (x.run Mutation.outside locales sh (moves.map Move.plain)) := by
  induction moves generalizing s x with
  | nil => exact h
  | cons move moves ih => exact ih (h.step move)

/-- Calls end with the same answers in both. -/
theorem answers_iff (h : s.Annotates x) {c : Call} {v : c.Answer} :
    x.Answers (.call c) v ↔ ∃ log, ⟨c, .done (.ok v), log⟩ ∈ s.tasks := by
  unfold Service.Answers
  rw [h.errands]
  constructor
  · rintro ⟨log, hm⟩
    obtain ⟨⟨call, rest, log'⟩, ht, he⟩ := List.mem_map.1 hm
    simp only [Task.errand, Errand.mk.injEq, Inquiry.call.injEq] at he
    obtain ⟨rfl, hrest, -⟩ := he
    obtain rfl := eq_of_heq hrest
    exact ⟨log', ht⟩
  · rintro ⟨log, hm⟩
    exact ⟨_, List.mem_map.2 ⟨_, hm, rfl⟩⟩

end Annotates

/-- The runs of a state are those of the service with the same store, directory and caches. -/
theorem annotates_run (earlier : List Mutation) (directory : Directory) (enabled : Bool)
    (lifetime : Option Nat) (moves : List Move) :
    ((start earlier directory enabled lifetime).run locales sh moves).Annotates
      ((Service.start (Store.empty.after earlier, directory) enabled lifetime).run
        Mutation.outside locales sh (moves.map Move.plain)) :=
  Annotates.run ⟨rfl, rfl, rfl, rfl, rfl⟩ moves

end State

end Herald
