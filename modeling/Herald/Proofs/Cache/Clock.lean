import Mathlib.Data.List.Induction
import Herald.Proofs.Cache.Exact

/-!
# Herald.Proofs.Cache.Clock

A cache is a map with a clock of invalidations.

* `Cache.Call`, `Cache.Answer`: what is asked of a cache, and what it says. `Cache.run`: a cache
  over some calls.
* `clock`: how often there was an invalidation. `Call.Inserts`, `Call.drops`: what a call does to
  the map. `Lives`: the value that was last written for a key and has not been dropped since.
* `value?_perform`, `perform_generation`: what a call does to the cache. `value?_run`,
  `run_generation`: what a run of calls does.
* `dropped_perform`, `tally_looks`, `tally_dropped`: what is counted.
* `cache_refines_clocked_map`: the cache goes by the map and the clock.
-/

namespace Herald

open Observation

namespace Cache

variable {K V : Type}

/-- What is asked of a cache. -/
inductive Call (K V : Type) where
  | get (k : K)
  | put (k : K) (v : V)
  | fill (k : K) (v : V) (generation : Nat)
  | invalidate (k : K)
  | sweep (p : K → Bool)
  | clear

/-- What a call is answered with. -/
inductive Answer (V : Type) where
  | found (v : Option V)
  | done
  | stored (b : Bool)
  | present (b : Bool)
  | removed (n : Nat)

/-- How many entries an invalidation says that it dropped. -/
def Answer.dropped : Answer V → Nat
  | present b => b.toNat
  | removed n => n
  | _ => 0

/-- Calls with the times at which they are made, in their order. -/
abbrev History (K V : Type) := List (Nat × Call K V)

namespace Call

def looks : Call K V → Bool
  | get _ => true
  | _ => false

def invalidates : Call K V → Bool
  | invalidate _ | sweep _ | clear => true
  | _ => false

/-- A call writes a value for a key. A filling does so in its own generation only. -/
inductive Inserts (generation : Nat) : Call K V → K → V → Prop where
  | put (k : K) (v : V) : Inserts generation (.put k v) k v
  | fill (k : K) (v : V) : Inserts generation (.fill k v generation) k v

/-- Whether a call is an invalidation that concerns a key. -/
def drops [DecidableEq K] : Call K V → K → Bool
  | invalidate k, k' => k' = k
  | sweep p, k => p k
  | clear, _ => true
  | _, _ => false

/-- A call leaves a key as it is. -/
structure Spares [DecidableEq K] (generation : Nat) (call : Call K V) (k : K) : Prop where
  drops : call.drops k = false
  inserts : ∀ v, ¬ call.Inserts generation k v

end Call

/-- The number of invalidations so far. -/
def clock (past : History K V) : Nat := past.countP (·.2.invalidates)

/-- A value was written for a key, and no call since then has left the key otherwise. -/
def Lives [DecidableEq K] (past : History K V) (k : K) (v : V) : Prop :=
  ∃ before now call after, past = before ++ (now, call) :: after ∧
    call.Inserts (clock before) k v ∧
    ∀ before' now' call' after', after = before' ++ (now', call') :: after' →
      call'.Spares (clock (before ++ (now, call) :: before')) k

/-- There are just so many keys with a property. -/
def CountOf (P : K → Prop) (n : Nat) : Prop :=
  ∃ ks : List K, ks.Nodup ∧ ks.length = n ∧ ∀ k, k ∈ ks ↔ P k

section

variable [DecidableEq K]

def perform (c : Cache K V) (now : Nat) : Call K V → Reply (Cache K V) (Answer V)
  | .get k => ⟨.found (c.get now k).answer, (c.get now k).state, (c.get now k).notes⟩
  | .put k v => ⟨.done, c.put now k v, []⟩
  | .fill k v g =>
    ⟨.stored (c.fill now k v g).answer, (c.fill now k v g).state, (c.fill now k v g).notes⟩
  | .invalidate k =>
    ⟨.present (c.invalidate k).answer, (c.invalidate k).state, (c.invalidate k).notes⟩
  | .sweep p => ⟨.removed (c.sweep p).answer, (c.sweep p).state, (c.sweep p).notes⟩
  | .clear => ⟨.removed c.clear.answer, c.clear.state, c.clear.notes⟩

/-- One call after another. -/
def run (c : Cache K V) : History K V → Reply (Cache K V) (List (Answer V))
  | [] => ⟨[], c, []⟩
  | (now, call) :: calls =>
    let r := c.perform now call
    let rest := run r.state calls
    ⟨r.answer :: rest.answer, rest.state, r.notes ++ rest.notes⟩

/-- The value that a cache has for a key, whatever its age. -/
def value? (c : Cache K V) (k : K) : Option V := (c.entries.get? k).map Entry.value

end

/-! ## The map and the clock -/

section

variable {past : History K V} {now : Nat} {call : Call K V} {k : K} {v w : V} {g : Nat}

theorem Call.Inserts.unique (h : call.Inserts g k v) (h' : call.Inserts g k w) : v = w := by
  cases h <;> cases h' <;> rfl

theorem clock_concat : clock (past ++ [(now, call)]) =
    clock past + if call.invalidates then 1 else 0 := by
  rw [clock, List.countP_append, List.countP_singleton]
  rfl

theorem concat_eq_append_cons {α : Type} {xs before after : List α} {x y : α} :
    xs ++ [x] = before ++ y :: after ↔
      (xs = before ∧ x = y ∧ after = []) ∨
        ∃ middle, after = middle ++ [x] ∧ xs = before ++ y :: middle := by
  rcases List.eq_nil_or_concat after with rfl | ⟨middle, z, rfl⟩
  · simp
  · rw [List.concat_eq_append, ← List.cons_append, ← List.append_assoc]
    constructor
    · intro h
      obtain ⟨rfl, hx⟩ := List.append_inj' h rfl
      cases hx
      exact .inr ⟨middle, rfl, rfl⟩
    · rintro (⟨-, -, h⟩ | ⟨middle', h, rfl⟩)
      · simp at h
      · obtain ⟨rfl, hx⟩ := List.append_inj' h rfl
        cases hx
        rfl

/-- The last call decides on a key, or leaves it as it is. -/
theorem lives_concat [DecidableEq K] : Lives (past ++ [(now, call)]) k v ↔
    call.Inserts (clock past) k v ∨ Lives past k v ∧ call.Spares (clock past) k := by
  constructor
  · rintro ⟨before, now₁, call₁, after, hp, hi, hs⟩
    rcases concat_eq_append_cons.1 hp with ⟨rfl, hx, rfl⟩ | ⟨middle, rfl, rfl⟩
    · cases hx
      exact .inl hi
    · refine .inr ⟨⟨before, now₁, call₁, middle, rfl, hi, ?_⟩, hs middle now call [] rfl⟩
      rintro before' now' call' after' rfl
      exact hs before' now' call' (after' ++ [(now, call)]) (by simp)
  · rintro (hi | ⟨⟨before, now₁, call₁, after, rfl, hi, hs⟩, hlast⟩)
    · exact ⟨past, now, call, [], rfl, hi, fun before' _ _ _ h => by simp at h⟩
    · refine ⟨before, now₁, call₁, after ++ [(now, call)], by simp, hi, ?_⟩
      intro before' now' call' after' h
      rcases concat_eq_append_cons.1 h with ⟨rfl, hx, -⟩ | ⟨middle, -, rfl⟩
      · cases hx
        exact hlast
      · exact hs before' now' call' middle rfl

end

/-! ## What a call does to the cache -/

section

variable [DecidableEq K] {c : Cache K V} {call : Call K V} {k : K} {v : V}

theorem perform_make (c : Cache K V) (now : Nat) (call : Call K V) :
    (c.perform now call).state.SameMake c := by
  cases call with
  | get k => exact c.get_make now k
  | fill k v g => exact c.fill_make now k v g
  | put k v =>
    simp only [perform, put]
    split <;> exact ⟨rfl, rfl, rfl⟩
  | _ => exact ⟨rfl, rfl, rfl⟩

theorem perform_generation (c : Cache K V) (now : Nat) (call : Call K V) :
    (c.perform now call).state.generation =
      c.generation + if call.invalidates then 1 else 0 := by
  cases call with
  | get k => exact get_generation
  | fill k v g => exact fill_generation
  | put k v =>
    simp only [perform, put]
    split <;> rfl
  | _ => rfl

theorem value?_put (hc : c.enabled = true) (now : Nat) (k l : K) (v : V) :
    (c.put now k v).value? l = if l = k then some v else c.value? l := by
  rw [put, if_pos hc, value?, Table.get?_insert]
  split <;> rfl

theorem fill_state (hc : c.enabled = true) (now : Nat) (k : K) (v : V) (g : Nat) :
    (c.fill now k v g).state = if g = c.generation then c.put now k v else c := by
  by_cases hg : g = c.generation
  · simp [fill, hc, hg]
  · simp [fill, hc, hg, Ne.symm hg]

theorem value?_inserts (hc : c.enabled = true) (now : Nat) (h : call.Inserts c.generation k v) :
    (c.perform now call).state.value? k = some v := by
  cases h with
  | put => exact (value?_put hc now k k v).trans (if_pos rfl)
  | fill =>
    rw [perform, fill_state hc, if_pos rfl]
    exact (value?_put hc now k k v).trans (if_pos rfl)

theorem value?_sweep (c : Cache K V) (p : K → Bool) (k : K) :
    (c.sweep p).state.value? k = if p k then none else c.value? k := by
  show ((c.entries.keep fun k => !p k).get? k).map Entry.value = _
  rw [Table.get?_keep]
  cases p k <;> rfl

/-- An invalidation sweeps the keys that it concerns. -/
theorem perform_state (now : Nat) (h : call.invalidates = true) :
    (c.perform now call).state = (c.sweep call.drops).state := by
  cases call with
  | invalidate | sweep | clear => rfl
  | _ => cases h

theorem Call.invalidates_of_drops (h : call.drops k = true) : call.invalidates = true := by
  cases call with
  | invalidate | sweep | clear => rfl
  | _ => cases h

theorem value?_drops (now : Nat) (h : call.drops k = true) :
    (c.perform now call).state.value? k = none := by
  rw [perform_state now (Call.invalidates_of_drops h), value?_sweep, if_pos h]

theorem get_eq (hc : c.enabled = true) (hl : c.lifetime = none) (now : Nat) (k : K) :
    (c.get now k).answer = c.value? k ∧ (c.get now k).state = c := by
  have hx (e : Entry V) : c.expired now e = false := by rw [expired, hl]
  rw [get, hc, value?]
  cases c.entries.get? k with
  | none => exact ⟨rfl, rfl⟩
  | some e => simp [hx]

/-- Where entries live for no time, none is found, and the one of the key is removed. -/
theorem get_outlived (hc : c.enabled = true) (hl : c.lifetime = some 0) (now : Nat) (k : K) :
    (c.get now k).answer = none ∧
      ∀ l, (c.get now k).state.entries.get? l = if l = k then none else c.entries.get? l := by
  have ha : (c.get now k).answer = none := by
    rw [get, hc]
    cases c.entries.get? k <;> simp [expired, hl]
  refine ⟨ha, fun l => ?_⟩
  rcases get_entries c now k with he | ⟨he, -⟩
  · rcases get_miss ha with hd | hk
    · cases hc.symm.trans hd
    · rw [he] at hk ⊢
      by_cases h : l = k
      · rw [if_pos h, h, hk]
      · rw [if_neg h]
  · rw [he, Table.get?_erase]

theorem value?_spares (hc : c.enabled = true) (hl : c.lifetime = none) (now : Nat)
    (h : call.Spares c.generation k) : (c.perform now call).state.value? k = c.value? k := by
  obtain ⟨hd, hi⟩ := h
  cases call with
  | get k' => exact congrArg (·.value? k) (get_eq hc hl now k').2
  | put k' w =>
    refine (value?_put hc now k' k w).trans (if_neg ?_)
    rintro rfl
    exact hi w (.put k w)
  | fill k' w g =>
    rw [perform, fill_state hc]
    split
    · next hg =>
      refine (value?_put hc now k' k w).trans (if_neg ?_)
      rintro rfl
      exact hi w (hg ▸ .fill k w)
    · rfl
  | invalidate | sweep | clear =>
    rw [perform_state now rfl, value?_sweep, hd]
    rfl

/-- What a cache has for a key after a call: what the call writes, or what was there before, if the
call spares it. -/
theorem value?_perform (hc : c.enabled = true) (hl : c.lifetime = none) (now : Nat) :
    (c.perform now call).state.value? k = some v ↔
      call.Inserts c.generation k v ∨ c.value? k = some v ∧ call.Spares c.generation k := by
  by_cases hi : ∃ w, call.Inserts c.generation k w
  · obtain ⟨w, hw⟩ := hi
    rw [value?_inserts hc now hw, Option.some.injEq]
    constructor
    · rintro rfl
      exact .inl hw
    · rintro (hv | ⟨-, hs⟩)
      · exact hw.unique hv
      · exact absurd hw (hs.inserts w)
  · have hi : ∀ w, ¬ call.Inserts c.generation k w := fun w hw => hi ⟨w, hw⟩
    cases hd : call.drops k with
    | true =>
      rw [value?_drops now hd]
      refine iff_of_false nofun ?_
      rintro (hv | ⟨-, hs⟩)
      · exact hi v hv
      · cases hd.symm.trans hs.drops
    | false =>
      rw [value?_spares hc hl now ⟨hd, hi⟩]
      exact ⟨fun h => .inr ⟨h, hd, hi⟩, fun h => h.elim (absurd · (hi v)) And.left⟩

/-! ## A run -/

theorem run_concat (c : Cache K V) (past : History K V) (now : Nat) (call : Call K V) :
    let r := (c.run past).state.perform now call
    c.run (past ++ [(now, call)]) =
      ⟨(c.run past).answer ++ [r.answer], r.state, (c.run past).notes ++ r.notes⟩ := by
  induction past generalizing c with
  | nil => simp [run]
  | cons x past ih =>
    obtain ⟨now₁, call₁⟩ := x
    simp only [List.cons_append, run, ih, List.append_assoc]

theorem run_make (c : Cache K V) (past : History K V) : (c.run past).state.SameMake c := by
  induction past using List.reverseRecOn with
  | nil => exact ⟨rfl, rfl, rfl⟩
  | append_singleton past x ih =>
    have hx := (c.run past).state.perform_make x.1 x.2
    rw [run_concat]
    exact ⟨hx.label.trans ih.label, hx.enabled.trans ih.enabled, hx.lifetime.trans ih.lifetime⟩

theorem run_generation (c : Cache K V) (past : History K V) :
    (c.run past).state.generation = c.generation + clock past := by
  induction past using List.reverseRecOn with
  | nil => rfl
  | append_singleton past x ih =>
    rw [run_concat, clock_concat, ← Nat.add_assoc, ← ih]
    exact perform_generation ..

theorem value?_run (label : String) (past : History K V) (k : K) (v : V) :
    ((Cache.new label true none).run past).state.value? k = some v ↔ Lives past k v := by
  induction past using List.reverseRecOn generalizing v with
  | nil =>
    refine iff_of_false nofun ?_
    rintro ⟨before, now, call, after, h, -⟩
    simp at h
  | append_singleton past x ih =>
    obtain ⟨now, call⟩ := x
    have hmake := run_make (Cache.new label true none : Cache K V) past
    have hg : ((Cache.new label true none : Cache K V).run past).state.generation = clock past :=
      (run_generation ..).trans (Nat.zero_add _)
    rw [run_concat, lives_concat, ← ih, ← hg]
    exact value?_perform hmake.enabled hmake.lifetime now

/-! ## Counts -/

theorem countOf_count (c : Cache K V) (p : K → Bool) :
    CountOf (fun k => (∃ v, c.value? k = some v) ∧ p k = true) (c.entries.count p) := by
  refine ⟨(c.entries.keep p).entries.map Prod.fst, (c.entries.keep p).nodup, ?_, fun k => ?_⟩
  · rw [List.length_map, Table.count, List.countP_eq_length_filter]
    rfl
  · simp only [value?, Option.map_eq_some_iff, Table.keep, List.mem_map, List.mem_filter]
    constructor
    · rintro ⟨⟨l, e⟩, ⟨he, hp⟩, rfl⟩
      exact ⟨⟨e.value, e, Table.mem_entries.1 he, rfl⟩, hp⟩
    · rintro ⟨⟨v, e, he, -⟩, hp⟩
      exact ⟨⟨k, e⟩, ⟨Table.mem_entries.2 he, hp⟩, rfl⟩

theorem dropped_perform (c : Cache K V) (now : Nat) (call : Call K V) :
    (c.perform now call).answer.dropped = c.entries.count call.drops := by
  cases call with
  | invalidate k =>
    have hle := c.entries.count_key_le_one k
    show (decide (c.entries.count (· = k) ≠ 0)).toNat = c.entries.count (· = k)
    generalize c.entries.count (· = k) = n at hle
    rcases Nat.le_one_iff_eq_zero_or_eq_one.1 hle with rfl | rfl <;> rfl
  | sweep | clear => rfl
  | get | put | fill =>
    refine (List.countP_eq_zero.2 fun e _ => ?_).symm
    exact Bool.false_ne_true

theorem tally_looks (hc : c.enabled = true) (now : Nat) (call : Call K V) :
    tally .cacheHits c.label (c.perform now call).notes +
      tally .cacheMisses c.label (c.perform now call).notes = if call.looks then 1 else 0 := by
  cases call with
  | get k =>
    simp only [perform]
    rw [get_notes]
    cases (c.get now k).answer <;> simp [movement, hc, Call.looks]
  | put k v => rfl
  | fill k v g =>
    simp only [perform]
    rw [fill_notes]
    split <;> rfl
  | invalidate | sweep | clear =>
    exact congrArg₂ (· + ·) (tally_sweep c _ .cacheHits _) (tally_sweep c _ .cacheMisses _)

theorem tally_dropped (c : Cache K V) (now : Nat) (call : Call K V) :
    tally .cacheInvalidations c.label (c.perform now call).notes =
      (c.perform now call).answer.dropped := by
  cases call with
  | get k =>
    simp only [perform]
    rw [get_notes]
    cases (c.get now k).answer <;> cases c.enabled <;> rfl
  | put k v => rfl
  | fill k v g =>
    simp only [perform]
    rw [fill_notes]
    split <;> rfl
  | invalidate | sweep | clear =>
    rw [dropped_perform]
    exact (tally_sweep c _ .cacheInvalidations _).trans (if_pos ⟨rfl, rfl⟩)

theorem run_looks (hc : c.enabled = true) (past : History K V) :
    tally .cacheHits c.label (c.run past).notes + tally .cacheMisses c.label (c.run past).notes =
      past.countP (·.2.looks) := by
  induction past using List.reverseRecOn with
  | nil => rfl
  | append_singleton past x ih =>
    have hmake := c.run_make past
    have hx := tally_looks (hmake.enabled.trans hc) x.1 x.2
    rw [hmake.label] at hx
    rw [run_concat, tally_append, tally_append, Nat.add_add_add_comm, ih, hx, List.countP_append,
      List.countP_singleton]

theorem run_dropped (c : Cache K V) (past : History K V) :
    tally .cacheInvalidations c.label (c.run past).notes =
      ((c.run past).answer.map Answer.dropped).sum := by
  induction past using List.reverseRecOn with
  | nil => rfl
  | append_singleton past x ih =>
    have hx := (c.run past).state.tally_dropped x.1 x.2
    rw [(c.run_make past).label] at hx
    rw [run_concat, tally_append, ih, hx]
    simp

theorem countOf_size (c : Cache K V) : CountOf (fun k => ∃ v, c.value? k = some v) c.size := by
  have hn : c.entries.count (fun _ => true) = c.size := congrFun List.countP_true c.entries.entries
  have h := countOf_count c fun _ => true
  simp only [and_true, hn] at h
  exact h

theorem fill_exact (hc : c.enabled = true) (hl : c.lifetime = none) (now : Nat) (k : K) (v : V)
    (g : Nat) :
    ((c.fill now k v g).answer = true ↔ g = c.generation) ∧
      ((c.fill now k v g).answer = true →
        ∀ later, ((c.fill now k v g).state.get later k).answer = some v) ∧
      ((c.fill now k v g).answer = false → (c.fill now k v g).state = c) := by
  by_cases hg : g = c.generation
  · subst hg
    have ha : (c.fill now k v c.generation).answer = true := by simp [fill, hc]
    have hmake := c.fill_make now k v c.generation
    refine ⟨iff_of_true ha rfl, fun _ later => ?_, fun h => nomatch ha.symm.trans h⟩
    rw [(get_eq (hmake.enabled.trans hc) (hmake.lifetime.trans hl) later k).1]
    exact value?_inserts hc now (.fill k v)
  · have ha : (c.fill now k v g).answer = false := by simp [fill, hc, Ne.symm hg]
    rw [ha, fill_state hc, if_neg hg]
    exact ⟨iff_of_false nofun hg, nofun, fun _ => rfl⟩

/-- A disabled cache stays empty and only counts its invalidations. -/
theorem run_disabled (label : String) (lifetime : Option Nat) (past : History K V) :
    let c : Cache K V := Cache.new label false lifetime
    (c.run past).state = { c with generation := clock past } ∧ (c.run past).notes = [] := by
  intro c
  induction past using List.reverseRecOn with
  | nil => exact ⟨rfl, rfl⟩
  | append_singleton past x ih =>
    obtain ⟨now, call⟩ := x
    obtain ⟨hs, hn⟩ := ih
    rw [run_concat, clock_concat, hs, hn]
    cases call <;> exact ⟨rfl, rfl⟩

end

end Cache

/-- A cache in use whose entries do not age goes, after any calls, by the map and the clock of these
calls. A lookup finds the value that was last written and not dropped since; a filling is accepted
just in the generation of the clock; every invalidation says how many living entries it dropped; and
the counters hold what was asked and dropped. A cache that is not in use holds nothing and counts
nothing, but its clock goes on. If entries live for no time at all, a lookup finds nothing and
removes the entry of its key, and no other. -/
theorem cache_refines_clocked_map {K V : Type} [DecidableEq K] (label : String)
    (past : Cache.History K V) :
    (let r := (Cache.new label true none).run past
      let c := r.state
      (∀ now k v, (c.get now k).answer = some v ↔ Cache.Lives past k v) ∧
      c.generation = Cache.clock past ∧
      (∀ now k v g, ((c.fill now k v g).answer = true ↔ g = Cache.clock past) ∧
        ((c.fill now k v g).answer = true →
          ∀ later, ((c.fill now k v g).state.get later k).answer = some v) ∧
        ((c.fill now k v g).answer = false → (c.fill now k v g).state = c)) ∧
      (∀ now call, Cache.CountOf (fun k => (∃ v, Cache.Lives past k v) ∧ call.drops k = true)
        (c.perform now call).answer.dropped) ∧
      Cache.CountOf (fun k => ∃ v, Cache.Lives past k v) c.size ∧
      tally .cacheHits label r.notes + tally .cacheMisses label r.notes =
        past.countP (·.2.looks) ∧
      tally .cacheInvalidations label r.notes = (r.answer.map Cache.Answer.dropped).sum) ∧
    (∀ lifetime,
      let r := (Cache.new label false lifetime).run past
      let c := r.state
      (∀ now k, c.get now k = ⟨none, c, []⟩) ∧ (∀ now k v, c.put now k v = c) ∧
      (∀ now k v g, c.fill now k v g = ⟨false, c, []⟩) ∧ c.size = 0 ∧
      c.generation = Cache.clock past ∧ r.notes = []) ∧
    (let c := ((Cache.new label true (some 0)).run past).state
      ∀ now k, (c.get now k).answer = none ∧
        (c.get now k).notes = [.counted .cacheMisses label 1] ∧
        (∀ l, (c.get now k).state.entries.get? l = if l = k then none else c.entries.get? l) ∧
        (c.get now k).state.generation = c.generation) := by
  refine ⟨?_, fun lifetime => ?_, ?_⟩
  · intro r c
    have hmake : c.SameMake (Cache.new label true none) := Cache.run_make ..
    have hvalue (k : K) (v : V) : c.value? k = some v ↔ Cache.Lives past k v :=
      Cache.value?_run label past k v
    have hg : c.generation = Cache.clock past := (Cache.run_generation ..).trans (Nat.zero_add _)
    simp only [← hvalue, ← hg]
    refine ⟨fun now k v => ?_, trivial, Cache.fill_exact hmake.enabled hmake.lifetime,
      fun now call => ?_, c.countOf_size,
      Cache.run_looks (c := Cache.new label true none) rfl past,
      Cache.run_dropped (Cache.new label true none) past⟩
    · rw [(Cache.get_eq hmake.enabled hmake.lifetime now k).1]
    · rw [Cache.dropped_perform]
      exact c.countOf_count call.drops
  · intro r c
    obtain ⟨hs, hn⟩ : c = _ ∧ r.notes = [] := Cache.run_disabled label lifetime past
    rw [hs]
    exact ⟨fun _ _ => rfl, fun _ _ _ => rfl, fun _ _ _ _ => rfl, rfl, rfl, hn⟩
  · intro c now k
    have hmake : c.SameMake (Cache.new label true (some 0)) := Cache.run_make ..
    obtain ⟨ha, hg⟩ := Cache.get_outlived hmake.enabled hmake.lifetime now k
    refine ⟨ha, ?_, hg, Cache.get_generation⟩
    rw [Cache.get_notes, ha, hmake.enabled, hmake.label]
    rfl

/-- An invalidation that finds nothing still shuts out a filling of another key. -/
example : ((Cache.new "types" true none : Cache Nat String).run [(0, .put 1 "a"),
    (1, .invalidate 2), (2, .fill 3 "b" 0), (3, .get 1), (4, .get 3)]).answer =
      [.done, .present false, .stored false, .found (some "a"), .found none] := rfl

end Herald
