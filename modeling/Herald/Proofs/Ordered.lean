import Herald.Ordered

/-!
# Herald.Proofs.Ordered

What is in a list of names in order.

* `mem_map_insertAll`, `mem_of_mem_insertAll`: the names after adding some, and what they stand for.
* `lookup_of_mem`, `eq_of_lookup`: what the names stand for is all there is.
* `mem_distinct`, `pairwise_distinct`, `distinct_congr`: the texts of a list, each once, in an order
  that the list has no part in.
-/

namespace Herald.Ordered

theorem mem_map_insert {α : Type} {ms : List (String × α)} {k x : String} {v : α} :
    x ∈ (insert k v ms).map Prod.fst ↔ x = k ∨ x ∈ ms.map Prod.fst := by
  induction ms with
  | nil => simp [insert]
  | cons m ms ih =>
    unfold insert
    by_cases h : k = m.1
    · simp [h]
    · by_cases hlt : k < m.1
      · simp [h, hlt]
      · simp only [h, hlt, if_false, List.map_cons, List.mem_cons, ih]
        exact or_left_comm

theorem mem_map_insertAll {α : Type} {ms new : List (String × α)} {x : String} :
    x ∈ (insertAll ms new).map Prod.fst ↔ x ∈ ms.map Prod.fst ∨ x ∈ new.map Prod.fst := by
  induction new generalizing ms with
  | nil => simp [insertAll]
  | cons m new ih =>
    show x ∈ (insertAll (insert m.1 m.2 ms) new).map Prod.fst ↔ _
    rw [ih, mem_map_insert, List.map_cons, List.mem_cons, or_assoc, or_left_comm]

theorem mem_of_mem_insertAll {α : Type} {ms new : List (String × α)} {m : String × α}
    (h : m ∈ insertAll ms new) : m ∈ ms ∨ m ∈ new := by
  induction new generalizing ms with
  | nil => exact .inl h
  | cons n new ih =>
    have h : m ∈ insertAll (insert n.1 n.2 ms) new := h
    rcases ih h with h | h
    · rcases mem_insert h with rfl | h
      · exact .inr List.mem_cons_self
      · exact .inl h
    · exact .inr (List.mem_cons_of_mem _ h)

theorem lookup_eq_none_of_lt {α : Type} {ms : List (String × α)} {k : String}
    (h : ∀ m ∈ ms, k < m.1) : ms.lookup k = none := by
  rw [List.lookup_eq_none_iff]
  intro m hm
  rw [bne_iff_ne]
  rintro rfl
  exact String.lt_irrefl _ (h m hm)

theorem lookup_of_mem {α : Type} {ms : List (String × α)} (h : Sorted ms) {m : String × α}
    (hm : m ∈ ms) : ms.lookup m.1 = some m.2 := by
  induction ms with
  | nil => cases hm
  | cons n ms ih =>
    obtain ⟨hn, hms⟩ := List.pairwise_cons.1 h
    rw [List.lookup_cons]
    rcases List.mem_cons.1 hm with rfl | hm
    · simp
    · have hne : (m.1 == n.1) = false := by
        rw [beq_eq_false_iff_ne]
        intro he
        exact String.lt_irrefl _ (he ▸ hn m hm)
      rw [hne]
      exact ih hms hm

/-- What the names stand for is all there is. -/
theorem eq_of_lookup {α : Type} {ms ns : List (String × α)} (hms : Sorted ms) (hns : Sorted ns)
    (h : ∀ k, ms.lookup k = ns.lookup k) : ms = ns := by
  induction ms generalizing ns with
  | nil =>
    cases ns with
    | nil => rfl
    | cons n ns =>
      have hn := h n.1
      rw [lookup_of_mem hns List.mem_cons_self] at hn
      cases hn
  | cons m ms ih =>
    cases ns with
    | nil =>
      have hm := h m.1
      rw [lookup_of_mem hms List.mem_cons_self] at hm
      cases hm
    | cons n ns =>
      obtain ⟨hm, hms'⟩ := List.pairwise_cons.1 hms
      obtain ⟨hn, hns'⟩ := List.pairwise_cons.1 hns
      have first {a b : String × α} {as bs : List (String × α)} (has : Sorted (a :: as))
          (hb : ∀ c ∈ bs, b.1 < c.1) (hl : (a :: as).lookup a.1 = (b :: bs).lookup a.1) :
          ¬ a.1 < b.1 := by
        intro hlt
        rw [lookup_of_mem has List.mem_cons_self, lookup_eq_none_of_lt] at hl
        · cases hl
        · intro c hc
          rcases List.mem_cons.1 hc with rfl | hc
          · exact hlt
          · exact String.lt_trans hlt (hb c hc)
      have hname : m.1 = n.1 :=
        Std.le_antisymm (Std.not_lt.1 (first hns hm (h n.1).symm))
          (Std.not_lt.1 (first hms hn (h m.1)))
      have hvalue := h m.1
      rw [lookup_of_mem hms List.mem_cons_self, hname,
        lookup_of_mem hns List.mem_cons_self] at hvalue
      have heq : m = n := Prod.ext hname (Option.some.inj hvalue)
      subst heq
      refine congrArg _ (ih hms' hns' fun k => ?_)
      have hk := h k
      rw [List.lookup_cons, List.lookup_cons] at hk
      by_cases he : k = m.1
      · rw [he, lookup_eq_none_of_lt hm, lookup_eq_none_of_lt hn]
      · rwa [beq_eq_false_iff_ne.2 he] at hk

theorem mem_distinct {ss : List String} {x : String} : x ∈ distinct ss ↔ x ∈ ss := by
  simp [distinct, mem_map_insertAll]

theorem pairwise_distinct (ss : List String) : (distinct ss).Pairwise (· < ·) :=
  List.pairwise_map.2 (insertAll_sorted (by simp [Sorted]) _)

/-- The members of a list tell what it comes to. -/
theorem distinct_congr {ss ts : List String} (h : ∀ x, x ∈ ss ↔ x ∈ ts) :
    distinct ss = distinct ts := by
  have nodup (ss : List String) : (distinct ss).Nodup := by
    refine (pairwise_distinct ss).imp fun {a b} hlt => ?_
    rintro rfl
    exact String.lt_irrefl a hlt
  have perm : (distinct ss).Perm (distinct ts) := by
    refine (List.perm_ext_iff_of_nodup (nodup ss) (nodup ts)).2 fun x => ?_
    rw [mem_distinct, mem_distinct, h]
  exact perm.eq_of_pairwise (fun a b _ _ hab hba => absurd (String.lt_trans hab hba)
    (String.lt_irrefl a)) (pairwise_distinct ss) (pairwise_distinct ts)

end Herald.Ordered
