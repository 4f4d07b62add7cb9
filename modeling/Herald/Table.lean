/-!
# Herald.Table

Finite maps without an order of their own.

* `Table`: entries with distinct keys.
* `get?`, `insert`, `erase`, `keep`, `size`: looking up, changing, counting.
* `get?_insert`, `get?_erase`, `get?_keep`: what each change does to the map.
-/

namespace Herald

structure Table (K V : Type) where
  entries : List (K × V)
  nodup : (entries.map Prod.fst).Nodup

namespace Table

variable {K V : Type}

def empty : Table K V := ⟨[], by simp⟩

instance : Inhabited (Table K V) := ⟨empty⟩

def size (t : Table K V) : Nat := t.entries.length

/-- The entries whose key has a property. -/
def keep (p : K → Bool) (t : Table K V) : Table K V where
  entries := t.entries.filter fun e => p e.1
  nodup := t.nodup.sublist (List.filter_sublist.map _)

/-- The number of entries whose key has a property. -/
def count (p : K → Bool) (t : Table K V) : Nat := t.entries.countP fun e => p e.1

variable [DecidableEq K]

def get? (t : Table K V) (k : K) : Option V := t.entries.lookup k

def erase (k : K) (t : Table K V) : Table K V := t.keep (· ≠ k)

def insert (k : K) (v : V) (t : Table K V) : Table K V where
  entries := (k, v) :: (t.erase k).entries
  nodup := by
    refine List.nodup_cons.2 ⟨fun h => ?_, (t.erase k).nodup⟩
    obtain ⟨e, he, hk⟩ := List.mem_map.1 h
    have := (List.mem_filter.1 he).2
    simp [hk] at this

/-- The entries of a list; of two with the same key the later one. -/
def ofList (es : List (K × V)) : Table K V := es.foldl (fun t e => t.insert e.1 e.2) empty

@[simp] theorem get?_empty (k : K) : (empty : Table K V).get? k = none := rfl

theorem get?_keep (p : K → Bool) (t : Table K V) (k : K) :
    (t.keep p).get? k = if p k then t.get? k else none := by
  show (t.entries.filter fun e => p e.1).lookup k = if p k then t.entries.lookup k else none
  generalize t.entries = es
  induction es with
  | nil => simp
  | cons e es ih => grind

theorem get?_erase (k k' : K) (t : Table K V) :
    (t.erase k).get? k' = if k' = k then none else t.get? k' := by
  rw [erase, get?_keep]
  by_cases h : k' = k <;> simp [h]

theorem get?_insert (k : K) (v : V) (t : Table K V) (k' : K) :
    (t.insert k v).get? k' = if k' = k then some v else t.get? k' := by
  have h : (t.insert k v).get? k' = if k' = k then some v else (t.erase k).get? k' := by
    unfold get? insert
    by_cases h : k' = k <;> simp [h, List.lookup_cons, beq_eq_false_iff_ne.2]
  rw [h, get?_erase]
  by_cases h : k' = k <;> simp [h]

end Table

end Herald
