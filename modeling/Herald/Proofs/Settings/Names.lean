import Herald.Settings.Load

/-!
# Herald.Proofs.Settings.Names

Names that variables and keys can spell.

* `Spelled`: small letters, digits and a few signs, without two underscores in a row.
* `Spelled.key_eq`: such a name is kept as it is.
* `levels_intercalate`: names with two underscores between them become a key.
* `Path.joined`: names with points between them. `ofKey_joined`: they are the steps of the key.
* `Environment.Named`: the variable of a place. `named_variableName`: every place that can be
  spelled has one. `key?_of_named`: it leads there.
-/

namespace Herald.Settings

def isSmall (c : Char) : Bool := Path.isNameChar c && !c.isUpper

/-- A name that can be spelled in a variable and in a key. -/
structure Spelled (name : String) : Prop where
  nonempty : name ≠ ""
  small : name.toList.all isSmall = true
  unbroken : Text.occurs ['_', '_'] name.toList = false

instance (name : String) : Decidable (Spelled name) :=
  decidable_of_iff (name ≠ "" ∧ name.toList.all isSmall = true ∧
      Text.occurs ['_', '_'] name.toList = false)
    ⟨fun h => ⟨h.1, h.2.1, h.2.2⟩, fun h => ⟨h.1, h.2, h.3⟩⟩

theorem isSmall_ascii {c : Char} (h : isSmall c = true) : c.toNat < 0x80 := by
  simp only [isSmall, Path.isNameChar, Bool.and_eq_true, Bool.or_eq_true, decide_eq_true_eq] at h
  rcases h.1 with ((h | rfl) | rfl) | rfl
  · change ((decide (c.val ≥ 'A'.val ∧ c.val ≤ 'Z'.val) ||
      (decide (c.val ≥ 'a'.val) && decide (c.val ≤ 'z'.val))) || c.isDigit) = true at h
    simp [Char.isDigit, UInt32.le_iff_toNat_le] at h
    omega
  · decide
  · decide
  · decide

/-- In either case. -/
theorem isSmall_cases {c : Char} (h : isSmall c = true) :
    c.toLower = c ∧ c.toUpper.toLower = c ∧ c.toUpper.toNat < 0x80 := by
  have all : ∀ n < 0x80, isSmall (Char.ofNat n) = true →
      (Char.ofNat n).toLower = Char.ofNat n ∧ (Char.ofNat n).toUpper.toLower = Char.ofNat n ∧
        (Char.ofNat n).toUpper.toNat < 0x80 := by decide
  have hc := all c.toNat (isSmall_ascii h)
  rw [Char.ofNat_toNat] at hc
  exact hc h

theorem lowercase_ascii {cs : List Char} (h : ∀ c ∈ cs, c.toNat < 0x80) :
    Text.lowercase cs = cs.map Char.toLower := by
  suffices ∀ before, Text.lowercaseAfter before cs = cs.map Char.toLower from this []
  induction cs with
  | nil => exact fun _ => rfl
  | cons c cs ih =>
    intro before
    have hc := h c List.mem_cons_self
    have hs : c ≠ 'Σ' := by
      rintro rfl
      revert hc
      decide
    rw [Text.lowercaseAfter, if_neg hs, Text.lowercaseChar, if_pos hc,
      ih fun d hd => h d (List.mem_cons_of_mem _ hd)]
    rfl

theorem small_intercalate {ns : List (List Char)} (h : ∀ n ∈ ns, n.all isSmall = true) :
    (['_', '_'].intercalate ns).all isSmall = true := by
  induction ns with
  | nil => rfl
  | cons n ns ih =>
    have hn := h n List.mem_cons_self
    cases ns with
    | nil => rwa [List.intercalate_singleton]
    | cons m ns =>
      have hi := ih fun k hk => h k (List.mem_cons_of_mem _ hk)
      have hu : ['_', '_'].all isSmall = true := by decide
      rw [List.intercalate_cons_cons, List.all_append, List.all_append, hn, hi, hu]
      rfl

theorem lowercase_small {cs : List Char} (h : cs.all isSmall = true) : Text.lowercase cs = cs := by
  rw [List.all_eq_true] at h
  rw [lowercase_ascii fun c hc => isSmall_ascii (h c hc)]
  exact (List.map_congr_left fun c hc => (isSmall_cases (h c hc)).1).trans (List.map_id' cs)

theorem lowercase_toUpper {cs : List Char} (h : cs.all isSmall = true) :
    Text.lowercase (cs.map Char.toUpper) = cs := by
  rw [List.all_eq_true] at h
  rw [lowercase_ascii, List.map_map]
  · exact (List.map_congr_left fun c hc => (isSmall_cases (h c hc)).2.1).trans (List.map_id' cs)
  · intro c hc
    obtain ⟨d, hd, rfl⟩ := List.mem_map.1 hc
    exact (isSmall_cases (h d hd)).2.2

theorem Spelled.key_eq {name : String} (h : Spelled name) : Value.key name = name := by
  rw [Value.key, lowercase_small h.small, String.ofList_toList]

namespace Environment

variable {n : List Char} {ns : List (List Char)}

/-- Two underscores behind a name end it, unless the name itself ends in one. -/
theorem levels_append (h : Text.occurs ['_', '_'] n = false) (hl : n.getLast? ≠ some '_')
    (r : List Char) : levels (n ++ '_' :: '_' :: r) = n ++ '.' :: levels r := by
  induction n with
  | nil => rfl
  | cons c n ih =>
    have hc : ∀ t, c = '_' → n ++ '_' :: '_' :: r = '_' :: t → False := by
      rintro t rfl ht
      cases n with
      | nil => exact hl rfl
      | cons d n =>
        cases ht
        simp [Text.occurs, Text.after?] at h
    have hn : Text.occurs ['_', '_'] n = false := by
      simp only [Text.occurs, Bool.or_eq_false_iff] at h
      exact h.2
    have hl' : n.getLast? ≠ some '_' := by
      cases n with
      | nil => simp
      | cons d n => rwa [List.getLast?_cons_cons] at hl
    rw [List.cons_append, levels, ih hn hl', List.cons_append]
    exact hc

theorem levels_eq_self (h : Text.occurs ['_', '_'] n = false) : levels n = n := by
  fun_induction levels n with
  | case1 r ih => simp [Text.occurs, Text.after?] at h
  | case2 c r hc ih =>
    simp only [Text.occurs, Bool.or_eq_false_iff] at h
    rw [ih h.2]
  | case3 => rfl

theorem levels_intercalate (h : ∀ n ∈ ns, Text.occurs ['_', '_'] n = false)
    (hl : ∀ n ∈ ns.dropLast, n.getLast? ≠ some '_') :
    levels (['_', '_'].intercalate ns) = ['.'].intercalate ns := by
  induction ns with
  | nil => rfl
  | cons n ns ih =>
    cases ns with
    | nil =>
      rw [List.intercalate_singleton, List.intercalate_singleton]
      exact levels_eq_self (h n List.mem_cons_self)
    | cons m ns =>
      have hi := ih (fun k hk => h k (List.mem_cons_of_mem _ hk))
        fun k hk => hl k (List.mem_cons_of_mem _ hk)
      rw [List.intercalate_cons_cons, List.intercalate_cons_cons, ← hi, List.append_assoc,
        List.append_assoc]
      exact levels_append (h n List.mem_cons_self) (hl n List.mem_cons_self) _

end Environment

namespace Path

theorem steps?_append {n : List Char} (h : n.all isNameChar = true) (done r : List Char) :
    steps? (.name done) (n ++ r) = steps? (.name (n.reverse ++ done)) r := by
  induction n generalizing done with
  | nil => rfl
  | cons c n ih =>
    simp only [List.all_cons, Bool.and_eq_true] at h
    rw [List.cons_append, steps?, if_pos h.1, ih h.2]
    simp

theorem steps?_intercalate {ns : List (List Char)} (hns : ns ≠ [])
    (h : ∀ n ∈ ns, n ≠ [] ∧ n.all isNameChar = true) :
    steps? (.name []) (['.'].intercalate ns) =
      some (ns.map fun n => .member (String.ofList n)) := by
  induction ns with
  | nil => exact (hns rfl).elim
  | cons n ns ih =>
    obtain ⟨hn, hc⟩ := h n List.mem_cons_self
    cases ns with
    | nil =>
      have hs := steps?_append hc [] []
      rw [List.append_nil] at hs
      rw [List.intercalate_singleton, hs]
      simp [steps?, hn, memberOf]
    | cons m ns =>
      have hi := ih (List.cons_ne_nil _ _) fun k hk => h k (List.mem_cons_of_mem _ hk)
      have hp : isNameChar '.' = false := by decide
      rw [List.intercalate_cons_cons, List.append_assoc, steps?_append hc, List.singleton_append,
        steps?, hi]
      simp [hp, hn, memberOf]

/-- Names with points between them. -/
def joined (ns : List String) : String := String.ofList (['.'].intercalate (ns.map String.toList))

theorem ofKey_joined {ns : List String} (hns : ns ≠ []) (h : ∀ n ∈ ns, Spelled n) :
    ofKey (joined ns) = ns.map .member := by
  have hc : ∀ n ∈ ns.map String.toList, n ≠ [] ∧ n.all isNameChar = true := by
    intro n hn
    obtain ⟨k, hk, rfl⟩ := List.mem_map.1 hn
    refine ⟨fun he => (h k hk).nonempty (String.toList_eq_nil_iff.1 he), ?_⟩
    refine List.all_eq_true.2 fun c hc => ?_
    have hs := List.all_eq_true.1 (h k hk).small c hc
    simp only [isSmall, Bool.and_eq_true] at hs
    exact hs.1
  rw [ofKey, read?, joined, String.toList_ofList, steps?_intercalate (by simpa using hns) hc]
  simp

end Path

namespace Environment

/-- The name of the variable of a place. Case does not matter. -/
def Named (p : List String) (name : String) : Prop :=
  Text.lowercase name.toList = lead ++ ['_', '_'].intercalate (p.map String.toList)

instance (p : List String) (name : String) : Decidable (Named p name) :=
  inferInstanceAs (Decidable (_ = _))

/-- The variable of a place as it is usually written. -/
def variableName (p : List String) : String :=
  String.ofList ((lead ++ ['_', '_'].intercalate (p.map String.toList)).map Char.toUpper)

theorem named_variableName {p : List String} (h : ∀ n ∈ p, Spelled n) :
    Named p (variableName p) := by
  have hs : (lead ++ ['_', '_'].intercalate (p.map String.toList)).all isSmall = true := by
    have hl : lead.all isSmall = true := by decide
    have hp : ∀ n ∈ p.map String.toList, n.all isSmall = true := by
      intro n hn
      obtain ⟨m, hm, rfl⟩ := List.mem_map.1 hn
      exact (h m hm).small
    rw [List.all_append, hl, small_intercalate hp]
    rfl
  rw [Named, variableName, String.toList_ofList, lowercase_toUpper hs]

/-- The variable of a place leads there, if no name but the last ends in an underscore. -/
theorem key?_of_named {p : List String} {name : String} (hs : ∀ n ∈ p, Spelled n)
    (hl : ∀ n ∈ (p.map String.toList).dropLast, n.getLast? ≠ some '_') (hn : Named p name) :
    key? name = some (Path.joined p) := by
  have hu : ∀ n ∈ p.map String.toList, Text.occurs ['_', '_'] n = false := by
    intro n hn
    obtain ⟨m, hm, rfl⟩ := List.mem_map.1 hn
    exact (hs m hm).unbroken
  rw [key?, hn, Text.after?_append, Option.map_some, levels_intercalate hu hl]
  rfl

end Environment

end Herald.Settings
