import Herald.Locale

/-!
# Herald.Proofs.Locale.Canonical

Canonical forms are canonical.

* `Locale.Names`: a language of two or three letters, alone or with a region of two to four.
  `names_of_canonicalizeChars?`: what has a canonical form names a locale.
* `canonicalizeChars?_join`: what a language and a region are joined to is its own canonical form.
* `canonicalize?_idem`: so is every canonical form.
* `Locales.normalize_default`, `Locales.normalize_idem`: the locales that a deployment uses.
-/

namespace Herald

namespace Text

theorem dropWhile_eq_self {p : Char → Bool} {cs : List Char} (h : ∀ c ∈ cs, p c = false) :
    cs.dropWhile p = cs := by
  cases cs with
  | nil => rfl
  | cons c cs => rw [List.dropWhile_cons, h c List.mem_cons_self, if_neg Bool.false_ne_true]

theorem trimChars_eq_self {cs : List Char} (h : ∀ c ∈ cs, isBlank c = false) :
    trimChars cs = cs := by
  have hr : ∀ c ∈ cs.reverse, isBlank c = false := fun c hc => h c (List.mem_reverse.1 hc)
  rw [trimChars, dropWhile_eq_self h, dropWhile_eq_self hr, List.reverse_reverse]

theorem cutAt_eq_none {p : Char → Bool} {cs : List Char} (h : ∀ c ∈ cs, p c = false) :
    cutAt p cs = none := by
  induction cs with
  | nil => rfl
  | cons c cs ih =>
    have hc : p c = false := h c List.mem_cons_self
    simp [cutAt, hc, ih fun d hd => h d (List.mem_cons_of_mem _ hd)]

theorem cutAt_append {p : Char → Bool} {a b : List Char} {c : Char} (ha : ∀ x ∈ a, p x = false)
    (hc : p c = true) : cutAt p (a ++ c :: b) = some (a, b) := by
  induction a with
  | nil => simp [cutAt, hc]
  | cons x a ih =>
    have hx : p x = false := ha x List.mem_cons_self
    simp [cutAt, hx, ih fun y hy => ha y (List.mem_cons_of_mem _ hy)]

end Text

namespace Locale

/-- Letters of a number between two bounds. -/
structure Letters (least most : Nat) (cs : List Char) : Prop where
  least_le : least ≤ cs.length
  le_most : cs.length ≤ most
  letters : ∀ c ∈ cs, 'a' ≤ c ∧ c ≤ 'z' ∨ 'A' ≤ c ∧ c ≤ 'Z'

/-- A text names a locale of a language and a region. A language alone is a region, too. -/
inductive Names : List Char → List Char → List Char → Prop where
  | language {language : List Char} (hl : Letters 2 3 language) : Names language language language
  | region {language region : List Char} {separator : Char} (hl : Letters 2 3 language)
    (hs : separator = '_' ∨ separator = '-') (hr : Letters 2 4 region) :
    Names (language ++ separator :: region) language region

variable {cs language region : List Char}

theorem isLetter_iff {c : Char} :
    isLetter c = true ↔ 'a' ≤ c ∧ c ≤ 'z' ∨ 'A' ≤ c ∧ c ≤ 'Z' := by
  have h : isLetter c = (decide ('A' ≤ c ∧ c ≤ 'Z') || (decide ('a' ≤ c) && decide (c ≤ 'z'))) :=
    rfl
  simp only [h, Bool.or_eq_true, Bool.and_eq_true, decide_eq_true_eq]
  exact or_comm

theorem isLanguage_iff : isLanguage cs = true ↔ Letters 2 3 cs := by
  simp only [isLanguage, Bool.and_eq_true, Bool.or_eq_true, decide_eq_true_eq, List.all_eq_true,
    isLetter_iff]
  constructor
  · rintro ⟨hl, hc⟩
    exact ⟨by omega, by omega, hc⟩
  · rintro ⟨hleast, hmost, hc⟩
    exact ⟨by omega, hc⟩

theorem isRegion_iff : isRegion cs = true ↔ Letters 2 4 cs := by
  simp only [isRegion, Bool.and_eq_true, decide_eq_true_eq, List.all_eq_true, isLetter_iff]
  constructor
  · rintro ⟨⟨hleast, hmost⟩, hc⟩
    exact ⟨hleast, hmost, hc⟩
  · rintro ⟨hleast, hmost, hc⟩
    exact ⟨⟨hleast, hmost⟩, hc⟩

theorem isSeparator_iff {c : Char} : isSeparator c = true ↔ c = '_' ∨ c = '-' := by
  simp [isSeparator]

theorem names_of_canonicalizeChars? {ds : List Char} (h : canonicalizeChars? cs = some ds) :
    ∃ language region, Names cs language region ∧ ds = join language region := by
  unfold canonicalizeChars? at h
  split at h
  · split at h
    · next hl => exact ⟨cs, cs, .language (isLanguage_iff.1 hl), (Option.some.inj h).symm⟩
    · cases h
  · next language region hc =>
    split at h
    · next hlr =>
      obtain ⟨hl, hr⟩ := Bool.and_eq_true_iff.1 hlr
      obtain ⟨separator, hs, rfl, -⟩ := Text.cutAt_eq_some hc
      exact ⟨language, region,
        .region (isLanguage_iff.1 hl) (isSeparator_iff.1 hs) (isRegion_iff.1 hr),
        (Option.some.inj h).symm⟩
    · cases h

/-- A language, alone or with a region, has two to four letters for a region. -/
theorem Names.letters (h : Names cs language region) :
    Letters 2 3 language ∧ Letters 2 4 region := by
  cases h with
  | language hl => exact ⟨hl, hl.least_le, Nat.le_trans hl.le_most (by decide), hl.letters⟩
  | region hl _ hr => exact ⟨hl, hr⟩

/-- Letters are few enough to be looked at one by one. -/
theorem forall_letter {p : Char → Prop}
    (h : ∀ n < 123, isLetter (Char.ofNat n) → p (Char.ofNat n)) {c : Char} (hc : isLetter c) :
    p c := by
  have hn : c.toNat < 123 := by
    rcases isLetter_iff.1 hc with ⟨-, hz⟩ | ⟨-, hz⟩
    · exact Nat.lt_of_le_of_lt hz (by decide)
    · exact Nat.lt_of_le_of_lt hz (by decide)
  have hp := h c.toNat hn
  rw [Char.ofNat_toNat] at hp
  exact hp hc

/-- A letter that a change of case leaves a letter, and that is not changed again. -/
structure Settled (f : Char → Char) (c : Char) : Prop where
  letter : isLetter (f c)
  again : f (f c) = f c
  separator : isSeparator (f c) = false
  blank : Text.isBlank (f c) = false

theorem settled_toLower {c : Char} (h : isLetter c) : Settled Char.toLower c := by
  have hs : isLetter c.toLower ∧ c.toLower.toLower = c.toLower ∧
      isSeparator c.toLower = false ∧ Text.isBlank c.toLower = false :=
    forall_letter (p := fun c => isLetter c.toLower ∧ c.toLower.toLower = c.toLower ∧
      isSeparator c.toLower = false ∧ Text.isBlank c.toLower = false) (by decide) h
  exact ⟨hs.1, hs.2.1, hs.2.2.1, hs.2.2.2⟩

theorem settled_toUpper {c : Char} (h : isLetter c) : Settled Char.toUpper c := by
  have hs : isLetter c.toUpper ∧ c.toUpper.toUpper = c.toUpper ∧
      isSeparator c.toUpper = false ∧ Text.isBlank c.toUpper = false :=
    forall_letter (p := fun c => isLetter c.toUpper ∧ c.toUpper.toUpper = c.toUpper ∧
      isSeparator c.toUpper = false ∧ Text.isBlank c.toUpper = false) (by decide) h
  exact ⟨hs.1, hs.2.1, hs.2.2.1, hs.2.2.2⟩

section

variable {f : Char → Char}

theorem map_settled (h : ∀ c ∈ cs, Settled f c) :
    (cs.map f).all isLetter = true ∧ (cs.map f).map f = cs.map f ∧
      (∀ c ∈ cs.map f, isSeparator c = false) ∧ ∀ c ∈ cs.map f, Text.isBlank c = false := by
  refine ⟨?_, ?_, ?_, ?_⟩
  · simp only [List.all_map, List.all_eq_true, Function.comp]
    exact fun c hc => (h c hc).letter
  · simp only [List.map_map]
    exact List.map_congr_left fun c hc => (h c hc).again
  · intro c hc
    obtain ⟨d, hd, rfl⟩ := List.mem_map.1 hc
    exact (h d hd).separator
  · intro c hc
    obtain ⟨d, hd, rfl⟩ := List.mem_map.1 hc
    exact (h d hd).blank

theorem canonicalizeChars?_join (hl : isLanguage language) (hr : isRegion region) :
    canonicalizeChars? (Text.trimChars (join language region)) = some (join language region) := by
  simp only [isLanguage, isRegion, Bool.and_eq_true, List.all_eq_true] at hl hr
  obtain ⟨lLetters, lAgain, lPlain, lFull⟩ :=
    map_settled (f := Char.toLower) fun c hc => settled_toLower (hl.2 c hc)
  obtain ⟨rLetters, rAgain, rPlain, rFull⟩ :=
    map_settled (f := Char.toUpper) fun c hc => settled_toUpper (hr.2 c hc)
  have hb : ∀ c ∈ join language region, Text.isBlank c = false := by
    intro c hc
    rcases List.mem_append.1 hc with hc | hc
    · exact lFull c hc
    · rcases List.mem_cons.1 hc with rfl | hc
      · decide
      · exact rFull c hc
  have hc : Text.cutAt isSeparator (join language region) =
      some (language.map Char.toLower, region.map Char.toUpper) :=
    Text.cutAt_append lPlain (by decide)
  have hl' : isLanguage (language.map Char.toLower) = true := by
    simp only [isLanguage, List.length_map, Bool.and_eq_true]
    exact ⟨hl.1, lLetters⟩
  have hr' : isRegion (region.map Char.toUpper) = true := by
    simp only [isRegion, List.length_map, Bool.and_eq_true]
    exact ⟨hr.1, rLetters⟩
  rw [Text.trimChars_eq_self hb, canonicalizeChars?, hc]
  simp only [hl', hr', Bool.and_self, if_true, join, lAgain, rAgain]

end

theorem canonicalize?_idem {raw s : String} (h : canonicalize? raw = some s) :
    canonicalize? s = some s := by
  obtain ⟨ds, hds, rfl⟩ := Option.map_eq_some_iff.1 h
  obtain ⟨language, region, hn, rfl⟩ := names_of_canonicalizeChars? hds
  obtain ⟨hl, hr⟩ := hn.letters
  rw [canonicalize?, String.toList_ofList,
    canonicalizeChars?_join (isLanguage_iff.2 hl) (isRegion_iff.2 hr)]
  rfl

theorem canonicalize?_fallback : canonicalize? fallback = some fallback := by decide

end Locale

namespace Locales

variable {configured : String}

theorem normalize_default :
    (ofConfigured configured).normalize (ofConfigured configured).default =
      (ofConfigured configured).default := by
  unfold ofConfigured normalize
  cases h : Locale.canonicalize? configured with
  | none => simp [Locale.canonicalize?_fallback]
  | some s => simp [Locale.canonicalize?_idem h]

theorem normalize_idem (raw : String) :
    (ofConfigured configured).normalize ((ofConfigured configured).normalize raw) =
      (ofConfigured configured).normalize raw := by
  cases h : Locale.canonicalize? raw with
  | none =>
    have hn : (ofConfigured configured).normalize raw = (ofConfigured configured).default := by
      simp [normalize, h]
    rw [hn, normalize_default]
  | some s => simp [normalize, h, Locale.canonicalize?_idem h]

end Locales

end Herald
