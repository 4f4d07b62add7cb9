/-!
# Herald.Ordered

Lists of named values in the order of their names, each name once. The order is that of the code
points, which is also that of the bytes of the text.

* `Ordered.Sorted`: the names ascend strictly.
* `Ordered.insert`: adds a value, in place of one with the same name.
* `Ordered.distinct`: the texts of a list in order, each once.
-/

namespace Herald.Ordered

variable {α : Type}

def Sorted (ms : List (String × α)) : Prop := ms.Pairwise fun a b => a.1 < b.1

def insert (k : String) (v : α) : List (String × α) → List (String × α)
  | [] => [(k, v)]
  | m :: ms =>
    if k = m.1 then (k, v) :: ms
    else if k < m.1 then (k, v) :: m :: ms
    else m :: insert k v ms

theorem mem_insert {k : String} {v : α} {ms : List (String × α)} {m : String × α}
    (h : m ∈ insert k v ms) : m = (k, v) ∨ m ∈ ms := by
  induction ms with
  | nil => simpa [insert] using h
  | cons n ms ih =>
    unfold insert at h
    split at h
    · rcases List.mem_cons.1 h with h | h
      · exact .inl h
      · exact .inr (List.mem_cons_of_mem _ h)
    · split at h
      · rcases List.mem_cons.1 h with h | h
        · exact .inl h
        · exact .inr h
      · rcases List.mem_cons.1 h with h | h
        · exact .inr (h ▸ List.mem_cons_self)
        · exact (ih h).imp_right (List.mem_cons_of_mem _)

theorem insert_sorted {k : String} {v : α} {ms : List (String × α)} (h : Sorted ms) :
    Sorted (insert k v ms) := by
  induction ms with
  | nil => simp [insert, Sorted]
  | cons n ms ih =>
    obtain ⟨hn, hms⟩ := List.pairwise_cons.1 h
    unfold insert
    split
    · next e => exact List.pairwise_cons.2 ⟨fun m hm => e ▸ hn m hm, hms⟩
    · next ne =>
      split
      · next lt =>
        refine List.pairwise_cons.2 ⟨fun m hm => ?_, h⟩
        rcases List.mem_cons.1 hm with rfl | hm
        · exact lt
        · exact String.lt_trans lt (hn m hm)
      · next nlt =>
        refine List.pairwise_cons.2 ⟨fun m hm => ?_, ih hms⟩
        rcases mem_insert hm with rfl | hm
        · exact Std.lt_of_le_of_ne (Std.not_lt.1 nlt) (Ne.symm ne)
        · exact hn m hm

theorem lookup_insert (k k' : String) (v : α) (ms : List (String × α)) :
    (insert k v ms).lookup k' = if k' = k then some v else ms.lookup k' := by
  induction ms with
  | nil => by_cases h : k' = k <;> simp [insert, List.lookup_cons, h, beq_eq_false_iff_ne.2]
  | cons n ms ih => grind [insert]

/-- Adds values one after another. -/
def insertAll (ms : List (String × α)) (new : List (String × α)) : List (String × α) :=
  new.foldl (fun ms m => insert m.1 m.2 ms) ms

theorem insertAll_sorted {ms : List (String × α)} (h : Sorted ms) (new : List (String × α)) :
    Sorted (insertAll ms new) := by
  induction new generalizing ms with
  | nil => exact h
  | cons m new ih => exact ih (insert_sorted h)

/-- The texts of a list in order, each once. -/
def distinct (ss : List String) : List String :=
  (insertAll [] (ss.map (·, ()))).map Prod.fst

end Herald.Ordered
