import Herald.Template.Basic

/-!
# Herald.Proofs.Template.Conditions

What is asked of a template, and what is told of one that does not meet it.

* `Template.conditions`: what is asked, in order, each with the defect that is told.
* `Template.FirstUnmet`: a defect is that of the first condition that is not met.
* `validation_exact`: a template is accepted if it meets all conditions, and else the first unmet
  one is told. The length of the type is counted in bytes.
* `long_type_refused`: so a type is refused that is not too long in characters.
-/

namespace Herald.Template

/-- What is asked of a template, and what is told if it does not hold; `size` tells how long a type
is. -/
def conditions (size : String → Nat) (t : Template) : List (Prop × Defect) :=
  [(1 ≤ size t.templateType ∧ size t.templateType ≤ 128, .typeLength),
    (∀ c ∈ t.templateType.toList, Text.isAlphanumeric c ∨ c = '-' ∨ c = '_' ∨ c = '.',
      .typeCharacter t.templateType),
    (Locale.canonicalize? t.locale = some t.locale, .locale t.locale),
    (∃ c ∈ t.body.toList, ¬ Text.isBlank c, .emptyBody t.templateType t.locale)]

def Meets (conditions : List (Prop × Defect)) : Prop := ∀ x ∈ conditions, x.1

/-- A defect is that of the first condition that is not met. -/
inductive FirstUnmet : List (Prop × Defect) → Defect → Prop where
  | here {p : Prop} {d : Defect} {rest : List (Prop × Defect)} (h : ¬ p) :
    FirstUnmet ((p, d) :: rest) d
  | later {p : Prop} {d d' : Defect} {rest : List (Prop × Defect)} (h : p)
    (hrest : FirstUnmet rest d') : FirstUnmet ((p, d) :: rest) d'

variable {conditions : List (Prop × Defect)} {t : Template} {d d' : Defect}

theorem FirstUnmet.not_meets (h : FirstUnmet conditions d) : ¬ Meets conditions := by
  induction h with
  | here h => exact fun hall => h (hall _ List.mem_cons_self)
  | later _ _ ih => exact fun hall => ih fun x hx => hall x (List.mem_cons_of_mem _ hx)

theorem FirstUnmet.unique (h : FirstUnmet conditions d) (h' : FirstUnmet conditions d') :
    d = d' := by
  induction h with
  | here h =>
    cases h' with
    | here => rfl
    | later hp => exact absurd hp h
  | later h _ ih =>
    cases h' with
    | here hp => exact absurd h hp
    | later _ hrest => exact ih hrest

theorem isTypeChar_iff {c : Char} :
    isTypeChar c = true ↔ Text.isAlphanumeric c = true ∨ c = '-' ∨ c = '_' ∨ c = '.' := by
  simp [isTypeChar, or_assoc]

/-- A template has no defect and meets everything, or the first unmet condition is told. -/
theorem defect?_cases (t : Template) :
    (Meets (t.conditions String.utf8ByteSize) ∧ t.defect? = none) ∨
      ∃ d, FirstUnmet (t.conditions String.utf8ByteSize) d ∧ t.defect? = some d := by
  have hmax : maxTypeSize = 128 := rfl
  unfold defect?
  split
  case isTrue hsize =>
    refine .inr ⟨_, .here ?_, rfl⟩
    simp only [Bool.or_eq_true, decide_eq_true_eq] at hsize
    omega
  case isFalse hsize =>
  have size : 1 ≤ t.templateType.utf8ByteSize ∧ t.templateType.utf8ByteSize ≤ 128 := by
    simp only [Bool.or_eq_true, decide_eq_true_eq] at hsize
    omega
  split
  case isTrue hchars =>
    refine .inr ⟨_, .later size (.here fun hall => ?_), rfl⟩
    have hall : t.templateType.toList.all isTypeChar = true :=
      List.all_eq_true.2 fun c hc => isTypeChar_iff.2 (hall c hc)
    rw [hall] at hchars
    cases hchars
  case isFalse hchars =>
  have chars : ∀ c ∈ t.templateType.toList,
      Text.isAlphanumeric c = true ∨ c = '-' ∨ c = '_' ∨ c = '.' := by
    simp only [Bool.not_eq_true', Bool.not_eq_false, List.all_eq_true] at hchars
    exact fun c hc => isTypeChar_iff.1 (hchars c hc)
  split
  case isTrue hlocale => exact .inr ⟨_, .later size (.later chars (.here hlocale)), rfl⟩
  case isFalse hlocale =>
  have locale : Locale.canonicalize? t.locale = some t.locale := Decidable.not_not.1 hlocale
  split
  case isTrue hbody =>
    refine .inr ⟨_, .later size (.later chars (.later locale (.here ?_))), rfl⟩
    rintro ⟨c, hc, hn⟩
    exact hn (List.all_eq_true.1 hbody c hc)
  case isFalse hbody =>
    have body : ∃ c ∈ t.body.toList, ¬ Text.isBlank c = true := by
      simpa [Text.isBlankText] using hbody
    refine .inl ⟨?_, rfl⟩
    simp only [Meets, Template.conditions, List.forall_mem_cons]
    exact ⟨size, chars, locale, body, List.forall_mem_nil _⟩

theorem defect?_eq_none_iff : t.defect? = none ↔ Meets (t.conditions String.utf8ByteSize) := by
  rcases t.defect?_cases with ⟨hmeets, hnone⟩ | ⟨d, hfirst, hsome⟩
  · exact iff_of_true hnone hmeets
  · rw [hsome]
    exact iff_of_false nofun hfirst.not_meets

theorem defect?_eq_some_iff :
    t.defect? = some d ↔ FirstUnmet (t.conditions String.utf8ByteSize) d := by
  rcases t.defect?_cases with ⟨hmeets, hnone⟩ | ⟨d', hfirst, hsome⟩
  · rw [hnone]
    exact iff_of_false nofun fun h => h.not_meets hmeets
  · rw [hsome, Option.some.injEq]
    exact ⟨fun h => h ▸ hfirst, hfirst.unique⟩

/-- Every character takes a byte or more. -/
theorem length_le_utf8ByteSize (s : String) : s.length ≤ s.utf8ByteSize := by
  induction s using String.push_induction with
  | empty => exact Nat.le_refl 0
  | push s c ih =>
    have hc : 0 < c.utf8Size := c.utf8Size_pos
    rw [String.length_push, String.utf8ByteSize_push]
    omega

/-- In bytes and in characters the same is asked of a type, but for one that is too long in bytes
only. -/
theorem conditions_congr
    (h : t.templateType.length ≤ 128 → t.templateType.utf8ByteSize ≤ 128) :
    t.conditions String.utf8ByteSize = t.conditions String.length := by
  have hle := length_le_utf8ByteSize t.templateType
  have hempty : 1 ≤ t.templateType.utf8ByteSize ↔ 1 ≤ t.templateType.length := by
    by_cases he : t.templateType = ""
    · simp [he]
    · have hb : t.templateType.utf8ByteSize ≠ 0 := fun hb =>
        he (String.utf8ByteSize_eq_zero_iff.1 hb)
      have hl : t.templateType.length ≠ 0 := fun hl => he (String.length_eq_zero_iff.1 hl)
      omega
  have hsize : (1 ≤ t.templateType.utf8ByteSize ∧ t.templateType.utf8ByteSize ≤ 128) =
      (1 ≤ t.templateType.length ∧ t.templateType.length ≤ 128) :=
    propext (and_congr hempty ⟨fun hb => Nat.le_trans hle hb, h⟩)
  simp only [Template.conditions, hsize]

theorem utf8ByteSize_of_ascii {s : String} (h : ∀ c ∈ s.toList, c.toNat < 0x80) :
    s.utf8ByteSize = s.length := by
  induction s using String.push_induction with
  | empty => rfl
  | push s c ih =>
    simp only [String.toList_push, List.forall_mem_append, List.forall_mem_singleton] at h
    have hc : c.utf8Size = 1 := Char.utf8Size_eq_one_iff.2 (Nat.le_of_lt_succ h.2)
    rw [String.length_push, String.utf8ByteSize_push, ih h.1, hc]

/-- A template is accepted if it meets all conditions, and else the first one that it does not meet
is told. The length of its type is counted in bytes. Whether in bytes or in characters makes no
difference to ASCII types, nor to any type but one of at most 128 characters in more than 128 bytes,
which is told to be too long. The display name, the content type, the subject and the footer have no
part in it. -/
theorem validation_exact (t : Template) :
    (t.defect? = none ↔ Meets (t.conditions String.utf8ByteSize)) ∧
    (∀ d, t.defect? = some d ↔ FirstUnmet (t.conditions String.utf8ByteSize) d) ∧
    ((∀ c ∈ t.templateType.toList, c.toNat < 0x80) ∨
        ¬ (t.templateType.length ≤ 128 ∧ 128 < t.templateType.utf8ByteSize) →
      (t.defect? = none ↔ Meets (t.conditions String.length)) ∧
      ∀ d, t.defect? = some d ↔ FirstUnmet (t.conditions String.length) d) ∧
    (128 < t.templateType.utf8ByteSize → t.defect? = some .typeLength) ∧
    (∀ displayName contentType subject footer,
      { t with displayName, contentType, subject, footer }.defect? = t.defect?) ∧
    t.normalized.defect? = t.defect? := by
  refine ⟨defect?_eq_none_iff, fun d => defect?_eq_some_iff, fun h => ?_, fun h => ?_,
    fun _ _ _ _ => rfl, rfl⟩
  · have hsize : t.templateType.length ≤ 128 → t.templateType.utf8ByteSize ≤ 128 := by
      intro hl
      rcases h with h | h
      · exact utf8ByteSize_of_ascii h ▸ hl
      · exact Nat.not_lt.1 fun hb => h ⟨hl, hb⟩
    rw [← conditions_congr hsize]
    exact ⟨defect?_eq_none_iff, fun d => defect?_eq_some_iff⟩
  · exact defect?_eq_some_iff.2 (.here fun hsize => absurd hsize.2 (Nat.not_le.2 h))

/-- A type of 65 letters, of two bytes each. -/
def longType : Template :=
  { templateType := String.ofList (List.replicate 65 'ä'), locale := "en_US", body := "Hello" }

/-- The template meets all that is asked, in characters. It is told that its type is too long. -/
theorem long_type_refused :
    Meets (longType.conditions String.length) ∧ longType.defect? = some .typeLength := by
  have hletter : Text.isAlphanumeric 'ä' = true := by decide +kernel
  have chars : ∀ c ∈ longType.templateType.toList,
      Text.isAlphanumeric c = true ∨ c = '-' ∨ c = '_' ∨ c = '.' := by
    rw [show longType.templateType = String.ofList _ from rfl, String.toList_ofList]
    intro c hc
    rw [List.eq_of_mem_replicate hc]
    exact .inl hletter
  have body : ∃ c ∈ longType.body.toList, ¬ Text.isBlank c = true :=
    ⟨'H', by decide +kernel, by decide +kernel⟩
  refine ⟨?_, by decide +kernel⟩
  simp only [Meets, conditions, List.forall_mem_cons]
  exact ⟨by decide +kernel, chars, by decide +kernel, body, List.forall_mem_nil _⟩

end Herald.Template
