import Mathlib.Data.List.Nodup
import Herald.Json.Record

/-!
# Herald.Proofs.Json.Members

What a reader that goes by names finds in the members of an object.

* `named`: the values that stand under a name.
* `Extends`: the same members in any order, and more of them.
* `Record.ofMembers?_eq`, `Record.get?_filter`: a reader fails where a name of its own stands twice,
  and finds the value of each name otherwise.
* `bind_ofMembers?`: it finds the same where the members are reordered and foreign ones are added.
-/

namespace Herald.Json

variable {ms ms' : List (String × Json)} {names : List String} {name : String}

def named (name : String) (ms : List (String × Json)) : List Json :=
  (ms.filter (·.1 = name)).map Prod.snd

@[simp] theorem named_nil (name : String) : named name [] = [] := rfl

theorem named_cons (name : String) (m : String × Json) (ms : List (String × Json)) :
    named name (m :: ms) = if m.1 = name then m.2 :: named name ms else named name ms := by
  by_cases h : m.1 = name <;> simp [named, h]

@[simp] theorem named_append (name : String) (ms ms' : List (String × Json)) :
    named name (ms ++ ms') = named name ms ++ named name ms' := by
  simp [named]

theorem named_eq_nil (h : ∀ m ∈ ms, m.1 ≠ name) : named name ms = [] := by
  simpa [named] using h

theorem named_known (names : List String) (name : String) (ms : List (String × Json)) :
    named name (ms.filter fun m => names.contains m.1) =
      if name ∈ names then named name ms else [] := by
  simp only [named, List.filter_filter]
  by_cases hn : name ∈ names
  · rw [if_pos hn]
    refine congrArg (List.map Prod.snd) (List.filter_congr fun m _ => ?_)
    by_cases h : m.1 = name <;> simp [h, hn]
  · rw [if_neg hn, List.map_eq_nil_iff, List.filter_eq_nil_iff]
    rintro m - hm
    simp only [Bool.and_eq_true, decide_eq_true_eq, List.contains_iff_mem] at hm
    exact hn (hm.1 ▸ hm.2)

theorem lookup_eq (name : String) (ms : List (String × Json)) :
    ms.lookup name = (named name ms).head? := by
  induction ms with
  | nil => rfl
  | cons m ms ih =>
    obtain ⟨k, v⟩ := m
    rw [named_cons]
    by_cases h : k = name
    · rw [List.lookup_cons, if_pos h, h, beq_self_eq_true]
      rfl
    · have hne : (name == k) = false := beq_false_of_ne (Ne.symm h)
      rw [List.lookup_cons, hne, if_neg h]
      exact ih

theorem length_named (name : String) (ms : List (String × Json)) :
    (named name ms).length = (ms.map Prod.fst).count name := by
  rw [named, List.length_map, ← List.countP_eq_length_filter, List.count, List.countP_map]
  rfl

theorem soundMembers_iff {depth : Nat} :
    soundMembers depth ms ↔ ∀ m ∈ ms, m.2.sound depth := by
  induction ms with
  | nil => simp [soundMembers]
  | cons m ms ih => simp [soundMembers, ih]

/-! ## Members in any order, and more of them -/

/-- The same members in any order, and foreign ones besides. -/
def Extends (foreign : String × Json → Prop) (ms ms' : List (String × Json)) : Prop :=
  ∃ extra, ms'.Perm (ms ++ extra) ∧ ∀ m ∈ extra, foreign m

namespace Extends

variable {foreign : String × Json → Prop}

theorem mono {foreign' : String × Json → Prop} (h : Extends foreign ms ms')
    (hf : ∀ m, foreign m → foreign' m) : Extends foreign' ms ms' := by
  obtain ⟨extra, hperm, hextra⟩ := h
  exact ⟨extra, hperm, fun m hm => hf m (hextra m hm)⟩

theorem filter (h : Extends foreign ms ms') (p : String × Json → Bool) :
    Extends foreign (ms.filter p) (ms'.filter p) := by
  obtain ⟨extra, hperm, hextra⟩ := h
  refine ⟨extra.filter p, ?_, fun m hm => hextra m (List.mem_of_mem_filter hm)⟩
  rw [← List.filter_append]
  exact hperm.filter p

theorem named (h : Extends foreign ms ms') (hf : ∀ m, foreign m → m.1 ≠ name) :
    (named name ms').Perm (named name ms) := by
  obtain ⟨extra, hperm, hextra⟩ := h
  have hnil : Json.named name extra = [] := named_eq_nil fun m hm => hf m (hextra m hm)
  have hnamed : (Json.named name ms').Perm (Json.named name (ms ++ extra)) :=
    (hperm.filter _).map Prod.snd
  rwa [named_append, hnil, List.append_nil] at hnamed

theorem named_eq (h : Extends foreign ms ms') (hf : ∀ m, foreign m → m.1 ≠ name)
    (hone : (Json.named name ms).length ≤ 1) : Json.named name ms' = Json.named name ms := by
  have hperm := h.named hf
  match hl : Json.named name ms, hone with
  | [], _ => exact (hl ▸ hperm).eq_nil
  | [v], _ => exact List.perm_singleton.1 (hl ▸ hperm)

theorem named_eq_singleton (h : Extends foreign ms ms') (hf : ∀ m, foreign m → m.1 ≠ name)
    {v : Json} : Json.named name ms' = [v] ↔ Json.named name ms = [v] := by
  have hperm := h.named hf
  constructor
  · intro hv
    exact List.perm_singleton.1 (hv ▸ hperm.symm)
  · intro hv
    exact List.perm_singleton.1 (hv ▸ hperm)

theorem forall_iff (h : Extends foreign ms ms') {q : String × Json → Prop}
    (hf : ∀ m, foreign m → q m) : (∀ m ∈ ms', q m) ↔ ∀ m ∈ ms, q m := by
  obtain ⟨extra, hperm, hextra⟩ := h
  simp only [hperm.mem_iff, List.mem_append]
  exact ⟨fun hq m hm => hq m (.inl hm),
    fun hq m hm => hm.elim (hq m) fun hm => hf m (hextra m hm)⟩

end Extends

/-! ## Records -/

namespace Record

/-- Two records in which every field reads the same. -/
structure Alike (r r' : Record) : Prop where
  positional : r.positional = r'.positional
  get? : ∀ name, r.get? name = r'.get? name

namespace Alike

variable {α : Type} {r r' : Record} {decode : Json → Option α}

theorem required (h : r.Alike r') : r.required name decode = r'.required name decode := by
  rw [Record.required, h.get?, ← Record.required]

theorem withDefault (h : r.Alike r') {default : α} :
    r.withDefault name default decode = r'.withDefault name default decode := by
  rw [Record.withDefault, h.get?, ← Record.withDefault]

theorem optional (h : r.Alike r') : r.optional name decode = r'.optional name decode :=
  h.withDefault

theorem nullable (h : r.Alike r') : r.nullable name decode = r'.nullable name decode := by
  rw [Record.nullable, h.get?, h.positional, ← Record.nullable]

end Alike

theorem ofMembers?_eq (names : List String) (ms : List (String × Json)) :
    ofMembers? names ms =
      if ∀ name ∈ names, (named name ms).length ≤ 1 then
        some ⟨false, ms.filter fun m => names.contains m.1⟩
      else none := by
  refine if_congr ?_ rfl rfl
  simp only [List.nodup_iff_count_le_one, ← length_named, named_known]
  constructor
  · intro h name hn
    simpa [hn] using h name
  · intro h name
    by_cases hn : name ∈ names
    · simpa [hn] using h name hn
    · simp [hn]

theorem get?_known (names : List String) (name : String) (ms : List (String × Json)) (b : Bool) :
    Record.get? ⟨b, ms.filter fun m => names.contains m.1⟩ name =
      if name ∈ names then (named name ms).head? else none := by
  rw [get?, lookup_eq, named_known]
  split <;> rfl

/-- What goes by names reads the same from members in another order with foreign ones besides. -/
theorem bind_ofMembers? {α : Type} {f : Record → Option α} {foreign : String × Json → Prop}
    (h : Extends foreign ms ms') (hforeign : ∀ m, foreign m → m.1 ∉ names)
    (hf : ∀ r r' : Record, r.Alike r' → f r = f r') :
    (ofMembers? names ms').bind f = (ofMembers? names ms).bind f := by
  have hne {name : String} (hn : name ∈ names) (m : String × Json) (hm : foreign m) : m.1 ≠ name :=
    fun he => hforeign m hm (he ▸ hn)
  have hlength : (∀ name ∈ names, (named name ms').length ≤ 1) ↔
      ∀ name ∈ names, (named name ms).length ≤ 1 :=
    forall₂_congr fun name hn => by rw [(h.named (hne hn)).length_eq]
  rw [ofMembers?_eq, ofMembers?_eq]
  by_cases hone : ∀ name ∈ names, (named name ms).length ≤ 1
  · rw [if_pos (hlength.2 hone), if_pos hone]
    refine hf _ _ ⟨rfl, fun name => ?_⟩
    rw [get?_known, get?_known]
    split
    case isTrue hn => rw [h.named_eq (hne hn) (hone name hn)]
    case isFalse => rfl
  · rw [if_neg (mt hlength.1 hone), if_neg hone]

end Record

end Herald.Json
