import Herald.Proofs.Settings.Places

/-!
# Herald.Proofs.Settings.Overlay

Laying one value over another, table by table.

* `Orderly`: the names of a table are in order, each once, and in the form under which they are
  kept. `Proper`: so they are in all tables of a value.
* `lookup_overlay`: a member of two tables laid over each other.
* `at?_overlay_value`: what stands at a place then, if tables lead there. `Proper.overlay`: and all
  tables are as they should be.
-/

namespace Herald.Settings.Value

/-- Names in order, each once, in the form under which they are kept. -/
structure Orderly (ms : List (String × Value)) : Prop where
  sorted : Ordered.Sorted ms
  kept : ∀ m ∈ ms, key m.1 = m.1

/-- All tables of a value are orderly. -/
def Proper (v : Value) : Prop := ∀ p ms, at? (some v) p = some (.table ms) → Orderly ms

variable {old : Option Value} {v new : Value} {ms olds : List (String × Value)} {n : String}
  {p : List String}

theorem at?_cons (old : Option Value) (n : String) (p : List String) :
    at? old (n :: p) = at? ((members old).lookup n) p := rfl

theorem members_of_not_table (h : v.isTable = false) : members (some v) = [] := by
  cases v with
  | table ms => cases h
  | _ => rfl

theorem at?_of_not_table (h : v.isTable = false) (n : String) (p : List String) :
    at? (some v) (n :: p) = none := by
  rw [at?_cons, members_of_not_table h]
  exact at?_none p

theorem isTable_iff : v.isTable = true ↔ ∃ ms, v = .table ms := by
  cases v <;> simp [isTable]

theorem orderly_nil : Orderly [] := ⟨List.Pairwise.nil, by simp⟩

theorem Orderly.of_cons {m : String × Value} (h : Orderly (m :: ms)) :
    Orderly ms ∧ key m.1 = m.1 ∧ ms.lookup m.1 = none := by
  obtain ⟨hlt, hms⟩ := List.pairwise_cons.1 h.sorted
  exact ⟨⟨hms, fun k hk => h.kept k (List.mem_cons_of_mem _ hk)⟩, h.kept m List.mem_cons_self,
    Ordered.lookup_eq_none_of_lt hlt⟩

theorem Proper.orderly (h : Proper (.table ms)) : Orderly ms := h [] ms rfl

theorem Proper.member (h : Proper new) (hv : (members (some new)).lookup n = some v) :
    Proper v := by
  intro p ms hp
  refine h (n :: p) ms ?_
  rw [at?_cons, hv]
  exact hp

/-! ## Two tables -/

theorem lookup_overlayMembers (h : Orderly ms) (n : String) :
    (overlayMembers olds ms).lookup n =
      ((ms.lookup n).map (overlay (olds.lookup n))).or (olds.lookup n) := by
  induction ms generalizing olds with
  | nil => rfl
  | cons m ms ih =>
    obtain ⟨hms, hk, hm⟩ := h.of_cons
    obtain ⟨k, v⟩ := m
    have hk : key k = k := hk
    rw [overlayMembers, ih hms, hk, Ordered.lookup_insert]
    by_cases hn : n = k
    · subst hn
      have hm : ms.lookup n = none := hm
      simp [hm]
    · have hne : (n == k) = false := beq_eq_false_iff_ne.2 hn
      rw [if_neg hn, List.lookup_cons, hne]

/-- A member of two values laid over each other, which are tables or have no members. -/
theorem lookup_overlay (h : Orderly ms) (n : String) :
    (members (some (overlay old (.table ms)))).lookup n =
      ((ms.lookup n).map (overlay ((members old).lookup n))).or ((members old).lookup n) := by
  cases ms with
  | nil =>
    have he : members (some (overlay old (.table []))) = members old := by
      cases old with
      | none => rfl
      | some v => rfl
    rw [he]
    rfl
  | cons m ms => exact lookup_overlayMembers h n

theorem mem_names_overlayMembers {k : String} (h : ∀ m ∈ ms, key m.1 = m.1)
    (hk : k ∈ (overlayMembers olds ms).map Prod.fst) :
    k ∈ olds.map Prod.fst ∨ k ∈ ms.map Prod.fst := by
  induction ms generalizing olds with
  | nil => exact .inl hk
  | cons m ms ih =>
    obtain ⟨hm, hms⟩ := List.forall_mem_cons.1 h
    rw [overlayMembers, hm] at hk
    rcases ih hms hk with hk | hk
    · rcases Ordered.mem_map_insert.1 hk with rfl | hk
      · exact .inr List.mem_cons_self
      · exact .inl hk
    · exact .inr (List.mem_cons_of_mem _ hk)

theorem Orderly.overlayMembers (ho : Orderly olds) (h : ∀ m ∈ ms, key m.1 = m.1) :
    Orderly (overlayMembers olds ms) := by
  induction ms generalizing olds with
  | nil => exact ho
  | cons m ms ih =>
    obtain ⟨hm, hms⟩ := List.forall_mem_cons.1 h
    rw [Value.overlayMembers, hm]
    refine ih ⟨Ordered.insert_sorted ho.sorted, fun k hk => ?_⟩ hms
    rcases Ordered.mem_insert hk with rfl | hk
    · exact hm
    · exact ho.kept k hk

/-! ## All tables -/

/-- What stands at a place after a value was laid over another one, if tables lead there. -/
theorem at?_overlay_value (h : Proper new)
    (ht : ∀ q, q <+: p → q ≠ p → ∀ w, at? (some new) q = some w → w.isTable = true) :
    at? (some (overlay old new)) p =
      ((at? (some new) p).map (overlay (at? old p))).or (at? old p) := by
  induction p generalizing old new with
  | nil => rfl
  | cons n p ih =>
    obtain ⟨ms, rfl⟩ := isTable_iff.1 (ht [] List.nil_prefix (by simp) new rfl)
    rw [at?_cons, lookup_overlay h.orderly, at?_cons, at?_cons, members]
    cases hn : ms.lookup n with
    | none => simp [at?_none]
    | some w =>
      rw [Option.map_some, Option.some_or]
      refine ih (h.member hn) fun q hq hne w hw => ?_
      refine ht (n :: q) (List.prefix_cons_inj n |>.2 hq) (by simpa using hne) w ?_
      rw [at?_cons, members, hn]
      exact hw

theorem orderly_members (ho : ∀ w, old = some w → Proper w) : Orderly (members old) := by
  cases old with
  | none => exact orderly_nil
  | some w =>
    cases w with
    | table ms => exact (ho _ rfl).orderly
    | _ => exact orderly_nil

theorem orderly_overlay {news : List (String × Value)} (ho : ∀ w, old = some w → Proper w)
    (h : Orderly news) (hv : overlay old (.table news) = .table ms) : Orderly ms := by
  cases news with
  | nil =>
    cases old with
    | none =>
      cases hv
      exact orderly_nil
    | some w => exact ho w rfl [] ms (congrArg some hv)
  | cons m news =>
    cases hv
    exact (orderly_members ho).overlayMembers h.kept

theorem Proper.overlay (ho : ∀ w, old = some w → Proper w) (h : Proper new) :
    Proper (overlay old new) := by
  intro p ms hp
  induction p generalizing old new with
  | nil =>
    cases new with
    | table news => exact orderly_overlay ho h.orderly (Option.some.inj hp)
    | _ => exact h [] ms hp
  | cons n p ih =>
    cases new with
    | table news =>
      rw [at?_cons, lookup_overlay h.orderly] at hp
      cases hn : news.lookup n with
      | none =>
        rw [hn, Option.map_none, Option.none_or, ← at?_cons] at hp
        cases old with
        | none => cases (at?_none (n :: p)).symm.trans hp
        | some w => exact ho w rfl _ _ hp
      | some w =>
        rw [hn, Option.map_some, Option.some_or] at hp
        refine ih (fun x hx => ?_) (h.member hn) hp
        cases old with
        | none => cases hx
        | some o => exact (ho o rfl).member hx
    | _ => exact h (n :: p) ms hp

end Herald.Settings.Value
