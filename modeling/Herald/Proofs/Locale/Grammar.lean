import Herald.Proofs.Locale.Canonical
import Herald.Proofs.Text.Trim
import Herald.Resolution.Resolve

/-!
# Herald.Proofs.Locale.Grammar

Which texts name a locale, and what canonical form they have.

* `canonicalize?_eq_some_iff`: the texts that have a canonical form are those that name a locale
  between blanks.
* `canonicalize?_self_iff`: the texts that are their own canonical form are the canonical locales.
* `locale_exact`: both, and what they say of the locales that a deployment looks in.
-/

namespace Herald

namespace Locale

variable {cs language region : List Char} {s r : String}

/-- No letter is a separator. -/
theorem Letters.plain {least most : Nat} (h : Letters least most cs) :
    ∀ c ∈ cs, isSeparator c = false :=
  fun c hc => forall_letter (p := fun c => isSeparator c = false) (by decide)
    (isLetter_iff.2 (h.letters c hc))

theorem canonicalizeChars?_of_names (h : Names cs language region) :
    canonicalizeChars? cs = some (join language region) := by
  cases h with
  | language hl =>
    have hc : Text.cutAt isSeparator cs = none :=
      Text.cutAt_eq_none hl.plain
    simp only [canonicalizeChars?, hc, isLanguage_iff.2 hl, if_true]
  | region hl hs hr =>
    have hc : Text.cutAt isSeparator (language ++ _ :: region) = some (language, region) :=
      Text.cutAt_append hl.plain (isSeparator_iff.2 hs)
    simp only [canonicalizeChars?, hc, isLanguage_iff.2 hl, isRegion_iff.2 hr, Bool.and_self,
      if_true]

theorem canonicalize?_eq_some_iff : canonicalize? s = some r ↔
    ∃ core language region, Text.Trims s.toList core ∧ Names core language region ∧
      r.toList = language.map Char.toLower ++ '_' :: region.map Char.toUpper := by
  constructor
  · intro h
    obtain ⟨ds, hds, rfl⟩ := Option.map_eq_some_iff.1 h
    obtain ⟨language, region, hn, rfl⟩ := names_of_canonicalizeChars? hds
    exact ⟨_, language, region, Text.trims_trimChars _, hn, String.toList_ofList⟩
  · rintro ⟨core, language, region, ht, hn, hr⟩
    rw [canonicalize?, ht.trimChars_eq, canonicalizeChars?_of_names hn]
    exact congrArg some (String.toList_inj.1 (String.toList_ofList.trans hr.symm))

/-- The cases of letters. -/
theorem case_letter {c : Char} (h : isLetter c = true) :
    ('a' ≤ c.toLower ∧ c.toLower ≤ 'z') ∧ 'A' ≤ c.toUpper ∧ c.toUpper ≤ 'Z' :=
  forall_letter (p := fun c => ('a' ≤ c.toLower ∧ c.toLower ≤ 'z') ∧
    'A' ≤ c.toUpper ∧ c.toUpper ≤ 'Z') (by decide) h

theorem toLower_small {c : Char} (h : 'a' ≤ c ∧ c ≤ 'z') : c.toLower = c :=
  forall_letter (p := fun c => 'a' ≤ c ∧ c ≤ 'z' → c.toLower = c) (by decide)
    (isLetter_iff.2 (.inl h)) h

theorem toUpper_capital {c : Char} (h : 'A' ≤ c ∧ c ≤ 'Z') : c.toUpper = c :=
  forall_letter (p := fun c => 'A' ≤ c ∧ c ≤ 'Z' → c.toUpper = c) (by decide)
    (isLetter_iff.2 (.inr h)) h

theorem isCanonical_of_canonicalize? (h : canonicalize? s = some r) : IsCanonical r := by
  obtain ⟨core, language, region, -, hn, hr⟩ := canonicalize?_eq_some_iff.1 h
  obtain ⟨hl, hg⟩ := hn.letters
  refine ⟨language.map Char.toLower, region.map Char.toUpper, hr, ?_, ?_, ?_, ?_⟩
  · rw [List.length_map]
    exact ⟨hl.least_le, hl.le_most⟩
  · intro c hc
    obtain ⟨d, hd, rfl⟩ := List.mem_map.1 hc
    exact (case_letter (isLetter_iff.2 (hl.letters d hd))).1
  · rw [List.length_map]
    exact ⟨hg.least_le, hg.le_most⟩
  · intro c hc
    obtain ⟨d, hd, rfl⟩ := List.mem_map.1 hc
    exact (case_letter (isLetter_iff.2 (hg.letters d hd))).2

/-- The texts that are their own canonical form are the canonical locales. -/
theorem canonicalize?_self_iff : canonicalize? s = some s ↔ IsCanonical s := by
  refine ⟨isCanonical_of_canonicalize?, ?_⟩
  rintro ⟨language, region, hs, ⟨hl2, hl3⟩, hsmall, ⟨hr2, hr4⟩, hcapital⟩
  have hl : Letters 2 3 language := ⟨hl2, hl3, fun c hc => .inl (hsmall c hc)⟩
  have hr : Letters 2 4 region := ⟨hr2, hr4, fun c hc => .inr (hcapital c hc)⟩
  have hlower : language.map Char.toLower = language :=
    (List.map_congr_left fun c hc => toLower_small (hsmall c hc)).trans (List.map_id language)
  have hupper : region.map Char.toUpper = region :=
    (List.map_congr_left fun c hc => toUpper_capital (hcapital c hc)).trans (List.map_id region)
  have hj : s.toList = join language region := by
    rw [join, hlower, hupper]
    exact hs
  rw [canonicalize?, hj, canonicalizeChars?_join (isLanguage_iff.2 hl) (isRegion_iff.2 hr), ← hj,
    Option.map_some, String.ofList_toList]

end Locale

namespace Locales

open Herald.Locale

variable {configured : String}

theorem isCanonical_default (configured : String) :
    IsCanonical (ofConfigured configured).default := by
  unfold ofConfigured
  cases h : canonicalize? configured with
  | none => exact canonicalize?_self_iff.1 canonicalize?_fallback
  | some s => exact isCanonical_of_canonicalize? h

theorem isCanonical_normalize (raw : String) :
    IsCanonical ((ofConfigured configured).normalize raw) := by
  unfold normalize
  cases h : canonicalize? raw with
  | none => exact isCanonical_default configured
  | some s => exact isCanonical_of_canonicalize? h

/-- The locales that a lookup looks in are canonical. -/
theorem isCanonical_localesFor {key : TemplateKey} {locale : String}
    (hk : IsCanonical key.locale)
    (h : locale ∈ Resolution.localesFor (ofConfigured configured) key) : IsCanonical locale := by
  unfold Resolution.localesFor at h
  split at h
  · rw [List.mem_singleton.1 h]
    exact hk
  · rcases List.mem_cons.1 h with rfl | h
    · exact hk
    · rw [List.mem_singleton.1 h]
      exact isCanonical_default configured

end Locales

/-- A template in a canonical locale has no fault in its locale. -/
theorem Template.defect?_ne_locale {t : Template} (h : Locale.IsCanonical t.locale) (l : String) :
    t.defect? ≠ some (.locale l) := by
  unfold defect?
  rw [Locale.canonicalize?_self_iff.2 h]
  split
  · nofun
  · split
    · nofun
    · simp only [ne_eq, not_true_eq_false, if_false]
      split <;> nofun

open Herald.Locale in
/-- A text has a canonical form exactly if it names a locale between blanks: the language in small
letters, and the region, or else the language, in capital ones. The canonical forms are the texts
that have themselves for one. So whatever default is configured, a deployment uses canonical locales
only: for its default, for every text that a request may hold, and for the keys and the passes of
lookups, where templates with these locales may stand. -/
theorem locale_exact :
    (∀ s r, canonicalize? s = some r ↔
      ∃ core language region, Text.Trims s.toList core ∧ Names core language region ∧
        r.toList = language.map Char.toLower ++ '_' :: region.map Char.toUpper) ∧
    (∀ s, canonicalize? s = some s ↔ IsCanonical s) ∧
    (∀ s r, canonicalize? s = some r → IsCanonical r) ∧
    ∀ configured,
      let l := Locales.ofConfigured configured
      IsCanonical l.default ∧
      (∀ raw, IsCanonical (l.normalize raw) ∧ l.normalize (l.normalize raw) = l.normalize raw ∧
        (l.isDefault raw = true ↔ l.normalize raw = l.default)) ∧
      ∀ tenant application channel templateType raw,
        let key := Resolution.keyFor l tenant application channel templateType raw
        IsCanonical key.locale ∧ ∀ locale ∈ Resolution.localesFor l key,
          IsCanonical locale ∧
            ∀ t : Template, t.locale = locale → ∀ l', t.defect? ≠ some (.locale l') := by
  refine ⟨fun s r => canonicalize?_eq_some_iff, fun s => canonicalize?_self_iff,
    fun s r => isCanonical_of_canonicalize?, fun configured => ⟨?_, fun raw => ⟨?_, ?_, ?_⟩, ?_⟩⟩
  · exact Locales.isCanonical_default configured
  · exact Locales.isCanonical_normalize raw
  · exact Locales.normalize_idem raw
  · exact decide_eq_true_iff
  · intro tenant application channel templateType raw key
    have hk : IsCanonical key.locale := Locales.isCanonical_normalize raw
    refine ⟨hk, fun locale hl => ?_⟩
    have hc := Locales.isCanonical_localesFor hk hl
    exact ⟨hc, fun t ht => t.defect?_ne_locale (ht ▸ hc)⟩

end Herald
