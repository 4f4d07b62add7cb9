import Herald.Observation
import Herald.Table

/-!
# Herald.Cache.Basic

A cache with a clock of invalidations.

Every invalidation advances the generation of the cache. Who fills it with what was read elsewhere
hands in the generation seen before the reading, so that a value from before an invalidation is
never written after it.

* `Cache`: the entries, the generation, and how long entries live.
* `get`, `put`, `fill`: reading and writing.
* `sweep`, `invalidate`, `clear`: removing by key.
* `advance`: the step with which every removal begins.
-/

namespace Herald

/-- A cached value and the time of its writing, in nanoseconds. -/
structure Cache.Entry (V : Type) where
  value : V
  writtenAt : Nat

structure Cache (K V : Type) where
  label : String
  /-- A disabled cache holds nothing. -/
  enabled : Bool
  /-- The lifetime of entries in seconds; without one they live until they are removed. -/
  lifetime : Option Nat
  /-- The number of invalidations so far, which has no bound. A counter of 64 bits starts again from
  zero after `2 ^ 64` of them, as a total does in `Totals.move`; here that is left out. -/
  generation : Nat
  entries : Table K (Cache.Entry V)

namespace Cache

variable {K V : Type}

def new (label : String) (enabled : Bool) (lifetime : Option Nat) : Cache K V :=
  ⟨label, enabled, lifetime, 0, Table.empty⟩

def size (c : Cache K V) : Nat := c.entries.size

/-- The nanoseconds of a second. -/
def nanosPerSecond : Nat := 1000000000

def expired (c : Cache K V) (now : Nat) (e : Entry V) : Bool :=
  match c.lifetime with
  | none => false
  | some s => s * nanosPerSecond ≤ now - e.writtenAt

/-- Begins an invalidation. From now on no value is filled in that was read before. -/
def advance (c : Cache K V) : Cache K V := { c with generation := c.generation + 1 }

/-- Removes the entries whose key has a property, and says how many. -/
def sweep (c : Cache K V) (p : K → Bool) : Reply (Cache K V) Nat :=
  let n := c.entries.count p
  ⟨n, { c.advance with entries := c.entries.keep fun k => !p k },
    if n = 0 then [] else [.counted .cacheInvalidations c.label n]⟩

def clear (c : Cache K V) : Reply (Cache K V) Nat := c.sweep fun _ => true

variable [DecidableEq K]

/-- Looks up an entry. One that has outlived its time is removed and counts as missing. -/
def get (c : Cache K V) (now : Nat) (k : K) : Reply (Cache K V) (Option V) :=
  if !c.enabled then ⟨none, c, []⟩
  else
    match c.entries.get? k with
    | none => ⟨none, c, [.counted .cacheMisses c.label 1]⟩
    | some e =>
      if c.expired now e then
        ⟨none, { c with entries := c.entries.erase k }, [.counted .cacheMisses c.label 1]⟩
      else ⟨some e.value, c, [.counted .cacheHits c.label 1]⟩

def put (c : Cache K V) (now : Nat) (k : K) (v : V) : Cache K V :=
  if c.enabled then { c with entries := c.entries.insert k ⟨v, now⟩ } else c

/-- Writes an entry, unless there was an invalidation since `generation` was seen. Says whether it
was written. -/
def fill (c : Cache K V) (now : Nat) (k : K) (v : V) (generation : Nat) :
    Reply (Cache K V) Bool :=
  if !c.enabled then ⟨false, c, []⟩
  else if c.generation ≠ generation then
    ⟨false, c, [.log .debug "Discarding fill that raced an invalidation" [("tier", c.label)]]⟩
  else ⟨true, c.put now k v, []⟩

def invalidate (c : Cache K V) (k : K) : Reply (Cache K V) Bool :=
  let r := c.sweep (· = k)
  ⟨r.answer ≠ 0, r.state, r.notes⟩

end Cache

end Herald
