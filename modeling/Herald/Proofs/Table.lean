import Herald.Table

/-!
# Herald.Proofs.Table

What the entries of a table tell.

* `mem_entries`, `nodup_entries`, `entries_perm`: the entries against what is looked up.
* `size_keep`, `count_key_le_one`: counting entries by their keys.
-/

namespace Herald.Table

variable {K V : Type}

theorem ext_entries {t u : Table K V} (h : t.entries = u.entries) : t = u := by
  cases t
  cases u
  cases h
  rfl

theorem nodup_entries (t : Table K V) : t.entries.Nodup :=
  (List.pairwise_map.1 t.nodup).imp fun hne he => hne (congrArg Prod.fst he)

theorem size_keep (t : Table K V) (p : K → Bool) :
    t.count p + (t.keep fun k => !p k).size = t.size := by
  have h := List.length_eq_countP_add_countP (fun e : K × V => p e.1) (l := t.entries)
  rw [size, size, keep, count, ← List.countP_eq_length_filter]
  simpa using h.symm

variable [DecidableEq K]

theorem mem_entries {t : Table K V} {k : K} {v : V} :
    (k, v) ∈ t.entries ↔ t.get? k = some v := by
  show (k, v) ∈ t.entries ↔ t.entries.lookup k = some v
  have hn := t.nodup
  generalize t.entries = es at hn
  induction es with
  | nil => simp
  | cons e es ih =>
    obtain ⟨k', v'⟩ := e
    obtain ⟨hk, hn⟩ := List.nodup_cons.1 hn
    by_cases h : k = k'
    · subst h
      have hv : (k, v) ∉ es := fun hm => hk (List.mem_map.2 ⟨_, hm, rfl⟩)
      simp [hv, eq_comm]
    · simp [List.lookup_cons, h, ih hn, beq_eq_false_iff_ne.2 h]

/-- Tables that answer alike hold the same entries. -/
theorem entries_perm {t u : Table K V} (h : ∀ k, t.get? k = u.get? k) :
    t.entries.Perm u.entries := by
  refine (List.perm_ext_iff_of_nodup t.nodup_entries u.nodup_entries).2 fun e => ?_
  obtain ⟨k, v⟩ := e
  rw [mem_entries, mem_entries, h]

/-- There is one entry of a key, or none. -/
theorem count_key_le_one (t : Table K V) (k : K) : t.count (· = k) ≤ 1 := by
  have hn := List.nodup_iff_count.1 t.nodup k
  rw [List.count, List.countP_map] at hn
  exact hn

end Herald.Table
