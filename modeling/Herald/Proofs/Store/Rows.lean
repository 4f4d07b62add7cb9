import Herald.Proofs.Ordered
import Herald.Proofs.Store.Paths
import Herald.Proofs.Table
import Herald.Cache.Invalidation
import Herald.Resolution.Resolve

/-!
# Herald.Proofs.Store.Rows

What reads of a store go by.

* `Mutation`: a write, accepted or not; `Store.after`: a store after some writes.
* `Store.Sound`: every row is valid and stands where it belongs. `sound_after`: every store that is
  written is.
* `find?_listTemplates`: a list has just the rows that are there one by one.
* `listTemplates_congr`, `listTemplateTypes_congr`: a list is told by the rows of its scope and
  channel.
-/

namespace Herald

namespace Template

variable {a b c : Template}

theorem listedBefore_iff : a.listedBefore b = true ↔
    a.templateType < b.templateType ∨ a.templateType = b.templateType ∧ a.locale ≤ b.locale := by
  simp [listedBefore]

theorem listedBefore_trans (hab : a.listedBefore b = true) (hbc : b.listedBefore c = true) :
    a.listedBefore c = true := by
  rw [listedBefore_iff] at *
  rcases hab with hab | ⟨hab, hl⟩
  · rcases hbc with hbc | ⟨hbc, -⟩
    · exact .inl (String.lt_trans hab hbc)
    · exact .inl (hbc ▸ hab)
  · rcases hbc with hbc | ⟨hbc, hl'⟩
    · exact .inl (hab ▸ hbc)
    · exact .inr ⟨hab.trans hbc, String.le_trans hl hl'⟩

theorem listedBefore_total (a b : Template) : (a.listedBefore b || b.listedBefore a) = true := by
  rw [Bool.or_eq_true, listedBefore_iff, listedBefore_iff]
  grind

theorem listedBefore_antisymm (hab : a.listedBefore b = true) (hba : b.listedBefore a = true) :
    a.templateType = b.templateType ∧ a.locale = b.locale := by
  rw [listedBefore_iff] at *
  grind

theorem pairwise_listedBefore (ts : List Template) :
    (ts.mergeSort listedBefore).Pairwise fun a b => a.listedBefore b = true :=
  @List.pairwise_mergeSort _ listedBefore (fun _ _ _ => listedBefore_trans) listedBefore_total ts

/-- Templates that their types and locales tell apart are listed in one order only. -/
theorem mergeSort_congr {ts us : List Template} (hp : ts.Perm us)
    (h : ∀ a ∈ ts, ∀ b ∈ ts, a.templateType = b.templateType → a.locale = b.locale → a = b) :
    ts.mergeSort listedBefore = us.mergeSort listedBefore := by
  have hs : (ts.mergeSort listedBefore).Perm (us.mergeSort listedBefore) :=
    (List.mergeSort_perm ..).trans (hp.trans (List.mergeSort_perm ..).symm)
  refine hs.eq_of_pairwise (fun a b ha hb hab hba => ?_) (pairwise_listedBefore ts)
    (pairwise_listedBefore us)
  obtain ⟨ht, hl⟩ := listedBefore_antisymm hab hba
  exact h a (List.mem_mergeSort.1 ha) b (hp.mem_iff.2 (List.mem_mergeSort.1 hb)) ht hl

end Template

/-- A write to a store. -/
inductive Mutation where
  | create (scope : Scope) (channel : Channel) (template : Template)
  | update (scope : Scope) (channel : Channel) (template : Template)
  | remove (scope : Scope) (channel : Channel) (templateType locale : String)
  deriving DecidableEq, Repr

namespace Mutation

/-- The store after a write. One that is refused changes nothing. -/
def apply (s : Store) : Mutation → Store
  | create scope channel t =>
    match s.create scope channel t with
    | .ok s' => s'
    | .error _ => s
  | update scope channel t =>
    match s.update scope channel t with
    | .ok r => r.2
    | .error _ => s
  | remove scope channel templateType locale =>
    match s.remove scope channel templateType locale with
    | .ok r => r.2
    | .error _ => s

/-- Whether a store accepts a write. -/
def accepted (s : Store) : Mutation → Bool
  | create scope channel t => (s.create scope channel t).isOk
  | update scope channel t => (s.update scope channel t).isOk
  | remove scope channel templateType locale => (s.remove scope channel templateType locale).isOk

/-- What has to be reported of a write. -/
def change : Mutation → Change
  | create scope channel t => ⟨scope, channel, t.templateType⟩
  | update scope channel t => ⟨scope, channel, t.templateType⟩
  | remove scope channel templateType _ => ⟨scope, channel, templateType⟩

/-- Where a write takes place. -/
def rowKey : Mutation → RowKey
  | create scope channel t => t.rowKey scope channel
  | update scope channel t => t.rowKey scope channel
  | remove scope channel templateType locale => ⟨scope, channel.templatePath templateType, locale⟩

end Mutation

theorem apply_of_refused {m : Mutation} {s : Store} (h : m.accepted s = false) : m.apply s = s := by
  cases m with
  | create scope channel t =>
    simp only [Mutation.accepted] at h
    simp only [Mutation.apply]
    cases hs : s.create scope channel t with
    | ok s' => simp [hs, Except.isOk, Except.toBool] at h
    | error e => rfl
  | update scope channel t =>
    simp only [Mutation.accepted] at h
    simp only [Mutation.apply]
    cases hs : s.update scope channel t with
    | ok r => simp [hs, Except.isOk, Except.toBool] at h
    | error e => rfl
  | remove scope channel templateType locale =>
    simp only [Mutation.accepted] at h
    simp only [Mutation.apply]
    cases hs : s.remove scope channel templateType locale with
    | ok r => simp [hs, Except.isOk, Except.toBool] at h
    | error e => rfl

namespace Store

/-- The store after some writes. -/
def after (s : Store) (ms : List Mutation) : Store := ms.foldl Mutation.apply s

/-- Every row is valid and stands where it belongs. -/
def Sound (s : Store) : Prop :=
  ∀ k t, s.rows.get? k = some t → t.valid = true ∧ ∃ c, k = t.rowKey k.scope c

end Store

/-- A write is refused, or it puts a valid template in its place, or it frees the place. -/
theorem apply_cases (m : Mutation) (s : Store) :
    m.apply s = s ∨
      (∃ t c, t.valid = true ∧ m.rowKey = t.rowKey m.rowKey.scope c ∧
        m.apply s = ⟨s.rows.insert m.rowKey t⟩) ∨
      ∃ t, s.rows.get? m.rowKey = some t ∧ m.apply s = ⟨s.rows.erase m.rowKey⟩ := by
  cases m with
  | create scope channel t =>
    simp only [Mutation.apply, Store.create, Mutation.rowKey]
    cases hd : t.defect? with
    | some d => exact .inl rfl
    | none =>
      cases hr : s.rows.get? (t.rowKey scope channel) with
      | some old => exact .inl rfl
      | none => exact .inr (.inl ⟨t, channel, by simp [Template.valid, hd], rfl, rfl⟩)
  | update scope channel t =>
    simp only [Mutation.apply, Store.update, Mutation.rowKey]
    cases hd : t.defect? with
    | some d => exact .inl rfl
    | none =>
      cases hr : s.rows.get? (t.rowKey scope channel) with
      | none => exact .inl rfl
      | some old =>
        exact .inr (.inl ⟨t, channel, by simp [Template.valid, hd], rfl, rfl⟩)
  | remove scope channel templateType locale =>
    simp only [Mutation.apply, Store.remove, Mutation.rowKey]
    cases hr : s.rows.get? ⟨scope, channel.templatePath templateType, locale⟩ with
    | none => exact .inl rfl
    | some old => exact .inr (.inr ⟨old, rfl, rfl⟩)

/-- The row at the place of a write is all that it may change. -/
theorem get?_apply {s : Store} {m : Mutation} {k : RowKey} (h : k ≠ m.rowKey) :
    (m.apply s).rows.get? k = s.rows.get? k := by
  rcases apply_cases m s with he | ⟨t, c, -, -, he⟩ | ⟨t, -, he⟩
  · rw [he]
  · rw [he]
    show (s.rows.insert m.rowKey t).get? k = _
    rw [Table.get?_insert, if_neg h]
  · rw [he]
    show (s.rows.erase m.rowKey).get? k = _
    rw [Table.get?_erase, if_neg h]

theorem rowKey_eq (m : Mutation) : ∃ locale,
    m.rowKey = ⟨m.change.scope, m.change.channel.templatePath m.change.templateType, locale⟩ := by
  cases m <;> exact ⟨_, rfl⟩

namespace Store.Sound

variable {s s' : Store}

theorem empty : Store.empty.Sound := by
  intro k t h
  cases h

theorem apply (hs : s.Sound) (m : Mutation) : (m.apply s).Sound := by
  intro k t hk
  rcases apply_cases m s with he | ⟨t', c, hv, hr, he⟩ | ⟨t', -, he⟩
  · rw [he] at hk
    exact hs k t hk
  · rw [he] at hk
    have hk : (s.rows.insert m.rowKey t').get? k = some t := hk
    rw [Table.get?_insert] at hk
    split at hk
    · next hkm =>
      cases hk
      rw [hkm]
      exact ⟨hv, c, hr⟩
    · exact hs k t hk
  · rw [he] at hk
    have hk : (s.rows.erase m.rowKey).get? k = some t := hk
    rw [Table.get?_erase] at hk
    split at hk
    · cases hk
    · exact hs k t hk

theorem after (hs : s.Sound) (ms : List Mutation) : (s.after ms).Sound := by
  induction ms generalizing s with
  | nil => exact hs
  | cons m ms ih => exact ih (hs.apply m)

theorem type_ne_empty (hs : s.Sound) {k : RowKey} {t : Template} (h : s.rows.get? k = some t) :
    t.templateType ≠ "" := by
  intro he
  have hv := (hs k t h).1
  simp [Template.valid, Template.defect?, he] at hv

theorem getTemplate_empty (hs : s.Sound) {scope : Scope} {c : Channel} {locale : String} :
    s.getTemplate scope (c.templatePath "") locale = none := by
  cases h : s.getTemplate scope (c.templatePath "") locale with
  | none => rfl
  | some t =>
    obtain ⟨-, d, hd⟩ := hs _ t h
    have hp : c.templatePath "" = d.templatePath t.templateType := congrArg RowKey.path hd
    exact absurd (templatePath_inj hp).2.symm (hs.type_ne_empty h)

end Store.Sound

/-- A write that changes anything concerns a type that a valid template has. -/
theorem exists_valid {s : Store} {m : Mutation} (hs : s.Sound) (h : m.apply s ≠ s) :
    ∃ t : Template, t.valid = true ∧ t.templateType = m.change.templateType := by
  obtain ⟨locale, hk⟩ := rowKey_eq m
  have type_of {t : Template} {c : Channel} (hr : m.rowKey = t.rowKey m.rowKey.scope c) :
      t.templateType = m.change.templateType := by
    have hp := congrArg RowKey.path (hk.symm.trans hr)
    exact (templatePath_inj hp).2.symm
  rcases apply_cases m s with he | ⟨t, c, hv, hr, -⟩ | ⟨t, ht, -⟩
  · exact absurd he h
  · exact ⟨t, hv, type_of hr⟩
  · obtain ⟨hv, c, hc⟩ := hs _ t ht
    exact ⟨t, hv, type_of hc⟩

section

variable {s s' : Store} {scope : Scope} {c : Channel} {t : Template}

theorem mem_templatesBelow {base : String} :
    t ∈ s.templatesBelow scope base ↔
      ∃ k, s.rows.get? k = some t ∧ k.scope = scope ∧ isBelow base k.path = true := by
  simp only [Store.templatesBelow, List.mem_map, List.mem_filter, Bool.and_eq_true,
    decide_eq_true_eq]
  constructor
  · rintro ⟨⟨k, t'⟩, ⟨hm, hk⟩, rfl⟩
    exact ⟨k, Table.mem_entries.1 hm, hk⟩
  · rintro ⟨k, hm, hk⟩
    exact ⟨⟨k, t⟩, ⟨Table.mem_entries.2 hm, hk⟩, rfl⟩

/-- A list of a channel holds the rows that are there. -/
theorem mem_templatesBelow_basePath (hs : s.Sound) :
    t ∈ s.templatesBelow scope c.basePath ↔ s.rows.get? (t.rowKey scope c) = some t := by
  rw [mem_templatesBelow]
  constructor
  · rintro ⟨k, hk, rfl, hb⟩
    obtain ⟨-, d, hd⟩ := hs k t hk
    rw [hd] at hb
    obtain ⟨rfl, -⟩ := isBelow_templatePath.1 hb
    rwa [← hd]
  · intro h
    exact ⟨_, h, rfl, isBelow_templatePath.2 ⟨rfl, hs.type_ne_empty h⟩⟩

theorem mem_listTemplates (hs : s.Sound) :
    t ∈ s.listTemplates scope c.basePath ↔ s.rows.get? (t.rowKey scope c) = some t := by
  rw [Store.listTemplates, List.mem_mergeSort, mem_templatesBelow_basePath hs]

/-- A search in a list finds just the row that is there. -/
theorem find?_listTemplates (hs : s.Sound) (templateType locale : String) :
    Resolution.find? (s.listTemplates scope c.basePath) templateType locale =
      s.getTemplate scope (c.templatePath templateType) locale := by
  have hfound {x : Template} (h : x ∈ s.listTemplates scope c.basePath)
      (hx : x.templateType = templateType ∧ x.locale = locale) :
      s.getTemplate scope (c.templatePath templateType) locale = some x := by
    have hr := (mem_listTemplates hs).1 h
    rw [Template.rowKey, hx.1, hx.2] at hr
    exact hr
  cases hf : Resolution.find? (s.listTemplates scope c.basePath) templateType locale with
  | some x =>
    have hx := List.find?_some hf
    simp only [Bool.and_eq_true, decide_eq_true_eq] at hx
    exact (hfound (List.mem_of_find?_eq_some hf) hx).symm
  | none =>
    cases hg : s.getTemplate scope (c.templatePath templateType) locale with
    | none => rfl
    | some x =>
      obtain ⟨-, d, hd⟩ := hs _ x hg
      have hp : c.templatePath templateType = d.templatePath x.templateType :=
        congrArg RowKey.path hd
      have hl : locale = x.locale := congrArg RowKey.locale hd
      obtain ⟨rfl, rfl⟩ := templatePath_inj hp
      subst hl
      have hn := List.find?_eq_none.1 hf x ((mem_listTemplates hs).2 hg)
      simp at hn

/-- Two stores with the same rows in a scope and a channel. -/
def Store.SameAt (scope : Scope) (c : Channel) (s s' : Store) : Prop :=
  ∀ templateType locale, s.getTemplate scope (c.templatePath templateType) locale =
    s'.getTemplate scope (c.templatePath templateType) locale

theorem nodup_templatesBelow (hs : s.Sound) : (s.templatesBelow scope c.basePath).Nodup := by
  have key {e : RowKey × Template}
      (he : e ∈ s.rows.entries.filter fun e => e.1.scope = scope && isBelow c.basePath e.1.path) :
      e.1 = e.2.rowKey scope c := by
    obtain ⟨hm, hp⟩ := List.mem_filter.1 he
    obtain ⟨rfl, hb⟩ := Bool.and_eq_true_iff.1 hp |>.imp_left of_decide_eq_true
    obtain ⟨-, d, hd⟩ := hs e.1 e.2 (Table.mem_entries.1 hm)
    rw [hd] at hb
    obtain ⟨rfl, -⟩ := isBelow_templatePath.1 hb
    exact hd
  have hn : (s.rows.entries.filter
      fun e => e.1.scope = scope && isBelow c.basePath e.1.path).Pairwise (·.1 ≠ ·.1) :=
    (List.pairwise_map.1 s.rows.nodup).sublist List.filter_sublist
  refine List.pairwise_map.2 (hn.imp_of_mem fun ha hb hne heq => hne ?_)
  rw [key ha, key hb, heq]

theorem templatesBelow_perm (hs : s.Sound) (hs' : s'.Sound) (h : Store.SameAt scope c s s') :
    (s.templatesBelow scope c.basePath).Perm (s'.templatesBelow scope c.basePath) := by
  refine (List.perm_ext_iff_of_nodup (nodup_templatesBelow hs) (nodup_templatesBelow hs')).2
    fun t => ?_
  rw [mem_templatesBelow_basePath hs, mem_templatesBelow_basePath hs']
  exact iff_of_eq (congrArg (· = some t) (h t.templateType t.locale))

theorem eq_of_mem_templatesBelow (hs : s.Sound) {a b : Template}
    (ha : a ∈ s.templatesBelow scope c.basePath) (hb : b ∈ s.templatesBelow scope c.basePath)
    (ht : a.templateType = b.templateType) (hl : a.locale = b.locale) : a = b := by
  have hra := (mem_templatesBelow_basePath hs).1 ha
  have hrb := (mem_templatesBelow_basePath hs).1 hb
  rw [Template.rowKey, ht, hl] at hra
  exact Option.some.inj (hra.symm.trans hrb)

theorem listTemplates_congr (hs : s.Sound) (hs' : s'.Sound) (h : Store.SameAt scope c s s') :
    s.listTemplates scope c.basePath = s'.listTemplates scope c.basePath :=
  Template.mergeSort_congr (templatesBelow_perm hs hs' h) fun _ ha _ hb =>
    eq_of_mem_templatesBelow hs ha hb

theorem listTemplateTypes_congr {tenant : String} (hs : s.Sound) (hs' : s'.Sound)
    (h : Store.SameAt (.tenant tenant) c s s') :
    s.listTemplateTypes c.basePath tenant = s'.listTemplateTypes c.basePath tenant := by
  have hp := (templatesBelow_perm hs hs' h).map Template.templateType
  unfold Store.listTemplateTypes
  exact Ordered.distinct_congr fun x => hp.mem_iff

end

end Herald
