import Herald.Text.Lowercase

/-!
# Herald.Proofs.Text.Lowercase

Small letters stay small letters.

* `Small`: a character that is no capital letter.
* `CaseRow.Apart`: no small letter of a row is a capital letter of another one.
* `small_of_mem_lowercase`, `lowercase_of_small`: `lowercase` gives small characters, and leaves
  them alone. `mem_of_mem_lowercase`: it makes no signs.
-/

namespace Herald.Text

/-- A character that has no other small form. -/
structure Small (c : Char) : Prop where
  lowercase : lowercaseChar c = [c]
  ne_sigma : c ≠ 'Σ'

instance (c : Char) : Decidable (Small c) :=
  decidable_of_iff (lowercaseChar c = [c] ∧ c ≠ 'Σ') ⟨fun h => ⟨h.1, h.2⟩, fun h => ⟨h.1, h.2⟩⟩

namespace CaseRow

/-- The last small letter of a row. -/
def smallLast (r : CaseRow) : Nat := r.small + (r.last - r.first)

/-- The small letters of `r` are no capital letters of `q`: they stand before or behind them, or, in
steps of two, between them. -/
def Apart (r q : CaseRow) : Prop :=
  r.smallLast < q.first ∨ q.last < r.small ∨
    (r.step = 2 ∨ r.first = r.last) ∧ q.step = 2 ∧ (r.small + q.first) % 2 = 1

instance (r q : CaseRow) : Decidable (Apart r q) := inferInstanceAs (Decidable (_ ∨ _))

/-- The small letters of a row are characters, and not ASCII. The small letter of the sign for
Kelvin is. -/
def Beyond (r : CaseRow) : Prop :=
  (0x80 ≤ r.small ∧ r.smallLast < 0xd800 ∨ 0xdfff < r.small ∧ r.smallLast < 0x110000) ∨
    r.first = r.last ∧ r.small = 'k'.toNat

instance (r : CaseRow) : Decidable (Beyond r) := inferInstanceAs (Decidable (_ ∨ _))

/-- The capital letter in place of which there are two characters. -/
def dotted : CaseRow := ⟨0x130, 0x130, 1, 'i'.toNat⟩

theorem caseRows_apart : caseRows.all fun r => (dotted :: caseRows).all fun q => r.Apart q := by
  decide +kernel

theorem caseRows_beyond : caseRows.all fun r => r.Beyond := by decide +kernel

theorem has_iff {r : CaseRow} {n : Nat} :
    r.has n = true ↔ r.first ≤ n ∧ n ≤ r.last ∧ (n - r.first) % r.step = 0 := by
  simp [has, and_assoc]

theorem Apart.not_has {r q : CaseRow} {n : Nat} (h : r.Apart q) (hn : r.has n = true) :
    q.has (r.small + (n - r.first)) = false := by
  obtain ⟨hfirst, hlast, hstep⟩ := has_iff.1 hn
  rw [Bool.eq_false_iff]
  intro hq
  obtain ⟨hqfirst, hqlast, hqstep⟩ := has_iff.1 hq
  rcases h with h | h | ⟨hr, hs, hparity⟩
  · rw [smallLast] at h
    omega
  · omega
  · -- the steps of both rows keep to even or to odd numbers
    rw [hs] at hqstep
    rcases hr with hr | hr
    · rw [hr] at hstep
      omega
    · omega

end CaseRow

theorem small_of_not_capital {c : Char} (hascii : ¬ c.toNat < 0x80)
    (h : ∀ q ∈ CaseRow.dotted :: caseRows, q.has c.toNat = false) : Small c := by
  obtain ⟨hdotted, hrows⟩ := List.forall_mem_cons.1 h
  have hdot : c ≠ '\u0130' := by
    rintro rfl
    revert hdotted
    decide
  have hnone : caseRows.find? (·.has c.toNat) = none := by
    rw [List.find?_eq_none]
    intro q hq
    simp [hrows q hq]
  refine ⟨?_, ?_⟩
  · rw [lowercaseChar, if_neg hascii, if_neg hdot, hnone]
  · rintro rfl
    revert hnone
    decide +kernel

/-- The small letter of a capital one is a character, and but for the sign for Kelvin not ASCII. -/
theorem small_letter_cases {r : CaseRow} (hr : r ∈ caseRows) {n : Nat} (hn : r.has n = true) :
    0x80 ≤ r.small + (n - r.first) ∧
        (Char.ofNat (r.small + (n - r.first))).toNat = r.small + (n - r.first) ∨
      Char.ofNat (r.small + (n - r.first)) = 'k' := by
  obtain ⟨hfirst, hlast, -⟩ := CaseRow.has_iff.1 hn
  have hbeyond : r.Beyond := of_decide_eq_true (List.all_eq_true.1 CaseRow.caseRows_beyond r hr)
  rcases hbeyond with hrange | ⟨hsingle, hk⟩
  · have hle : r.small + (n - r.first) ≤ r.smallLast := by
      rw [CaseRow.smallLast]
      omega
    have hvalid : (r.small + (n - r.first)).isValidChar := by
      rw [Nat.isValidChar]
      omega
    refine .inl ⟨by omega, ?_⟩
    rw [Char.ofNat, dif_pos hvalid]
    rfl
  · have hsum : r.small + (n - r.first) = 'k'.toNat := by omega
    rw [hsum]
    exact .inr (Char.ofNat_toNat 'k')

theorem small_of_row {r : CaseRow} (hr : r ∈ caseRows) {n : Nat} (hn : r.has n = true) :
    Small (Char.ofNat (r.small + (n - r.first))) := by
  rcases small_letter_cases hr hn with ⟨hbeyond, hnat⟩ | hk
  · refine small_of_not_capital (by omega) fun q hq => ?_
    have hrow := List.all_eq_true.1 CaseRow.caseRows_apart r hr
    have hapart : r.Apart q := of_decide_eq_true (List.all_eq_true.1 hrow q hq)
    rw [hnat]
    exact hapart.not_has hn
  · rw [hk]
    decide +kernel

theorem small_of_ascii {c : Char} (h : c.toNat < 0x80) : Small c.toLower := by
  have all : ∀ n < 0x80, Small (Char.ofNat n).toLower := by decide +kernel
  have hc := all c.toNat h
  rwa [Char.ofNat_toNat] at hc

theorem small_of_mem_lowercaseChar {c d : Char} (hc : c ≠ 'Σ') (h : d ∈ lowercaseChar c) :
    Small d := by
  unfold lowercaseChar at h
  split at h
  case isTrue hascii =>
    obtain rfl := List.mem_singleton.1 h
    exact small_of_ascii hascii
  case isFalse hascii =>
  split at h
  case isTrue hdot =>
    have hall : ['i', '\u0307'].all fun d => Small d := by decide +kernel
    exact of_decide_eq_true (List.all_eq_true.1 hall d h)
  case isFalse hdot =>
  split at h
  case h_1 r hr =>
    obtain rfl := List.mem_singleton.1 h
    have hhas := List.find?_some hr
    exact small_of_row (List.mem_of_find?_eq_some hr) hhas
  case h_2 hnone =>
    obtain rfl := List.mem_singleton.1 h
    refine small_of_not_capital hascii (List.forall_mem_cons.2 ⟨?_, fun q hq => ?_⟩)
    · rw [Bool.eq_false_iff]
      intro hq
      obtain ⟨hfirst, hlast, -⟩ := CaseRow.has_iff.1 hq
      refine hdot (Char.toNat_inj.1 ?_)
      exact Nat.le_antisymm hlast hfirst
    · simpa using List.find?_eq_none.1 hnone q hq

theorem small_of_mem_lowercaseAfter {before cs : List Char} {c : Char}
    (h : c ∈ lowercaseAfter before cs) : Small c := by
  induction cs generalizing before with
  | nil => cases h
  | cons d cs ih =>
    rw [lowercaseAfter, List.mem_append] at h
    rcases h with h | h
    · split at h
      case isTrue =>
        have hc : c = if endsWord before cs then 'ς' else 'σ' := List.mem_singleton.1 h
        rw [hc]
        split
        · decide +kernel
        · decide +kernel
      case isFalse hd => exact small_of_mem_lowercaseChar hd h
    · exact ih h

theorem small_of_mem_lowercase {cs : List Char} {c : Char} (h : c ∈ lowercase cs) : Small c :=
  small_of_mem_lowercaseAfter h

theorem lowercase_of_small {cs : List Char} (h : ∀ c ∈ cs, Small c) : lowercase cs = cs := by
  suffices ∀ before, lowercaseAfter before cs = cs from this []
  induction cs with
  | nil => exact fun _ => rfl
  | cons c cs ih =>
    intro before
    obtain ⟨hc, hcs⟩ := List.forall_mem_cons.1 h
    rw [lowercaseAfter, if_neg hc.ne_sigma, hc.lowercase, ih hcs]
    rfl

/-- What is new among small characters is a letter of ASCII or no character of ASCII. -/
theorem new_of_mem_lowercaseChar {c d : Char} (h : d ∈ lowercaseChar c) :
    d = c ∨ d.isLower = true ∨ 0x80 ≤ d.toNat := by
  unfold lowercaseChar at h
  split at h
  case isTrue hascii =>
    obtain rfl := List.mem_singleton.1 h
    have all : ∀ n < 0x80, (Char.ofNat n).toLower = Char.ofNat n ∨
        (Char.ofNat n).toLower.isLower = true ∨ 0x80 ≤ (Char.ofNat n).toLower.toNat := by
      decide +kernel
    have hc := all c.toNat hascii
    rwa [Char.ofNat_toNat] at hc
  case isFalse hascii =>
  split at h
  case isTrue hdot =>
    rcases List.mem_cons.1 h with rfl | h
    · exact .inr (.inl (by decide))
    · obtain rfl := List.mem_singleton.1 h
      exact .inr (.inr (by decide))
  case isFalse hdot =>
  split at h
  case h_1 r hr =>
    obtain rfl := List.mem_singleton.1 h
    have hhas := List.find?_some hr
    rcases small_letter_cases (List.mem_of_find?_eq_some hr) hhas with ⟨hbeyond, hnat⟩ | hk
    · refine .inr (.inr ?_)
      rwa [hnat]
    · refine .inr (.inl ?_)
      rw [hk]
      decide
  case h_2 => exact .inl (List.mem_singleton.1 h)

/-- A sign of ASCII that is in a text in small letters was in it before. -/
theorem mem_of_mem_lowercase {cs : List Char} {c : Char} (hascii : c.toNat < 0x80)
    (hlower : c.isLower = false) (h : c ∈ lowercase cs) : c ∈ cs := by
  suffices ∀ before, c ∈ lowercaseAfter before cs → c ∈ cs from this [] h
  clear h
  induction cs with
  | nil => exact fun _ h => h
  | cons d cs ih =>
    intro before h
    rw [lowercaseAfter, List.mem_append] at h
    rcases h with h | h
    · split at h
      case isTrue =>
        have hc : c = if endsWord before cs then 'ς' else 'σ' := List.mem_singleton.1 h
        rw [hc] at hascii
        split at hascii
        · exact absurd hascii (by decide)
        · exact absurd hascii (by decide)
      case isFalse =>
        rcases new_of_mem_lowercaseChar h with rfl | hl | hb
        · exact List.mem_cons_self
        · rw [hlower] at hl
          cases hl
        · exact absurd hascii (Nat.not_lt.2 hb)
    · exact List.mem_cons_of_mem _ (ih _ h)

end Herald.Text
