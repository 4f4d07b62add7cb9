import Mathlib.Data.List.TakeWhile
import Herald.Number.Read

/-!
# Herald.Proofs.Number.Spelling

Which texts are read as numbers.

* `readInt?_padded`: digits behind zeros. `readInt?_toString`: what is written for a number.
* `Numeric`: the characters of numbers. `numeric_of_readInt?`, `numeric_of_readDouble?`: no others
  are read, but for the names of what is no finite number.
-/

namespace Herald.Number

/-- A number in digits behind some zeros. -/
def padded (zeros n : Nat) : List Char := List.replicate zeros '0' ++ Nat.toDigits 10 n

theorem digitsValue_padded (zeros n : Nat) : digitsValue (padded zeros n) = n := by
  have h : digitsValue (padded zeros n) = Nat.ofDigitChars 10 (padded zeros n) 0 := rfl
  rw [h, padded, Nat.ofDigitChars_append, Nat.ofDigitChars_replicate_zero, Nat.mul_zero,
    Nat.ofDigitChars_ten_toDigits]

theorem isDigits_padded (zeros n : Nat) : isDigits (padded zeros n) = true := by
  have hd : ∀ c ∈ padded zeros n, c.isDigit = true := by
    intro c hc
    rcases List.mem_append.1 hc with hc | hc
    · rw [List.eq_of_mem_replicate hc]
      rfl
    · exact Nat.isDigit_of_mem_toDigits (by decide) (by decide) hc
  have hn : padded zeros n ≠ [] := by simp [padded, Nat.toDigits_ne_nil]
  simpa [isDigits, hn] using hd

theorem splitSign_of_isDigits {ds : List Char} (h : isDigits ds = true) :
    splitSign ds = (false, ds) := by
  unfold splitSign
  split
  · simp [isDigits] at h
  · simp [isDigits] at h
  · rfl

theorem readInt?_padded (zeros : Nat) {n : Nat} (h : fitsSigned n = true) :
    readInt? (String.ofList (padded zeros n)) = some (n : Int) := by
  have hd := isDigits_padded zeros n
  simp [readInt?, splitSign_of_isDigits hd, hd, digitsValue_padded, h]

theorem readInt?_toString {i : Int} (h : fitsSigned i = true) : readInt? (toString i) = some i := by
  cases i with
  | ofNat n => exact readInt?_padded 0 h
  | negSucc n =>
    have ht : toString (Int.negSucc n) = String.ofList ('-' :: padded 0 (n + 1)) := by
      simp [Int.toString_eq_repr, Int.repr, padded, Nat.repr_eq_ofList_toDigits]
    have hd := isDigits_padded 0 (n + 1)
    have hs : splitSign ('-' :: padded 0 (n + 1)) = (true, padded 0 (n + 1)) := rfl
    have hv : -((n + 1 : Nat) : Int) = Int.negSucc n := rfl
    rw [readInt?, ht, String.toList_ofList, hs]
    simp only [hd, digitsValue_padded, if_true, hv, h, Bool.and_self]

/-- The characters of numbers. -/
def Numeric (c : Char) : Prop := c.isDigit = true ∨ c ∈ ['+', '-', '.', 'e', 'E']

instance (c : Char) : Decidable (Numeric c) := inferInstanceAs (Decidable (_ ∨ _))

theorem mem_splitSign {cs : List Char} {c : Char} (hc : c ∈ cs) :
    c = '-' ∨ c = '+' ∨ c ∈ (splitSign cs).2 := by
  unfold splitSign
  split
  · exact (List.mem_cons.1 hc).imp_right .inr
  · exact .inr (List.mem_cons.1 hc)
  · exact .inr (.inr hc)

theorem toLower_of_isDigit {c : Char} (h : c.isDigit = true) : c.toLower = c := by
  have all : ∀ n < 0x80, (Char.ofNat n).isDigit = true →
      (Char.ofNat n).toLower = Char.ofNat n := by decide
  have hc : c.toNat < 0x80 := by
    simp [Char.isDigit, UInt32.le_iff_toNat_le] at h
    omega
  have hl := all c.toNat hc
  rw [Char.ofNat_toNat] at hl
  exact hl h

theorem Numeric.toLower {c : Char} (h : Numeric c) : Numeric c.toLower := by
  rcases h with h | h
  · exact .inl ((toLower_of_isDigit h).symm ▸ h)
  · simp only [List.mem_cons, List.not_mem_nil, or_false] at h
    rcases h with rfl | rfl | rfl | rfl | rfl <;> decide

theorem numeric_of_splitSign {cs : List Char} (h : ∀ c ∈ (splitSign cs).2, Numeric c) :
    ∀ c ∈ cs, Numeric c := by
  intro c hc
  rcases mem_splitSign hc with rfl | rfl | hc
  · exact .inr (by decide)
  · exact .inr (by decide)
  · exact h c hc

theorem numeric_of_isDigits {ds : List Char} (h : isDigits ds = true) : ∀ c ∈ ds, Numeric c := by
  intro c hc
  simp only [isDigits, Bool.and_eq_true, List.all_eq_true] at h
  exact .inl (h.2 c hc)

theorem numeric_of_readInt? {s : String} {i : Int} (h : readInt? s = some i) :
    ∀ c ∈ s.toList, Numeric c := by
  simp only [readInt?, Option.ite_none_right_eq_some, Bool.and_eq_true] at h
  exact numeric_of_splitSign (numeric_of_isDigits h.1.1)

theorem numeric_takeWhile (cs : List Char) : ∀ c ∈ cs.takeWhile Char.isDigit, Numeric c :=
  fun _ hc => .inl (List.mem_takeWhile_imp hc)

theorem numeric_of_readExponent? {cs : List Char} {e : Int} (h : readExponent? cs = some e) :
    ∀ c ∈ cs, Numeric c := by
  cases cs with
  | nil => exact fun c hc => nomatch hc
  | cons x r =>
    simp only [readExponent?, Option.ite_none_right_eq_some, Bool.and_eq_true, Bool.or_eq_true,
      decide_eq_true_eq] at h
    obtain ⟨⟨hx, hd⟩, -⟩ := h
    intro c hc
    rcases List.mem_cons.1 hc with rfl | hc
    · rcases hx with rfl | rfl
      · exact .inr (by decide)
      · exact .inr (by decide)
    · exact numeric_of_splitSign (numeric_of_isDigits hd) c hc

theorem numeric_of_readDecimal? {negative : Bool} {cs : List Char} {d : Double}
    (h : readDecimal? negative cs = some d) : ∀ c ∈ cs, Numeric c := by
  have tail {r : List Char} (hr : ∀ c ∈ r, Numeric c) :
      ∀ c ∈ cs.takeWhile Char.isDigit ++ r, Numeric c := fun c hc =>
    (List.mem_append.1 hc).elim (numeric_takeWhile cs c) (hr c)
  rw [← List.takeWhile_append_dropWhile (p := Char.isDigit) (l := cs)]
  refine tail ?_
  unfold readDecimal? at h
  split at h
  next fraction rest hf =>
    simp only [Option.ite_none_left_eq_some] at h
    obtain ⟨-, h⟩ := h
    obtain ⟨e, he, -⟩ := Option.map_eq_some_iff.1 h
    have hr := numeric_of_readExponent? he
    split at hf
    · next r hd =>
      cases hf
      intro c hc
      rw [hd, List.mem_cons] at hc
      rcases hc with rfl | hc
      · exact .inr (by decide)
      · rw [← List.takeWhile_append_dropWhile (p := Char.isDigit) (l := r), List.mem_append] at hc
        exact hc.elim (numeric_takeWhile r c) (hr c)
    · next hd =>
      cases hf
      exact hr

theorem numeric_of_readDouble? {s : String} {d : Double} (h : readDouble? s = some d) :
    (∀ c ∈ s.toList, Numeric c) ∨
      String.ofList ((splitSign s.toList).2.map Char.toLower) ∈ ["inf", "infinity", "nan"] := by
  simp only [readDouble?] at h
  split at h
  · next hs => exact .inr (by simp [hs])
  · next hs => exact .inr (by simp [hs])
  · next hs => exact .inr (by simp [hs])
  · exact .inl (numeric_of_splitSign (numeric_of_readDecimal? h))

end Herald.Number
