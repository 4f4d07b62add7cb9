import Herald.Json.Writer
import Herald.Proofs.Store.Rows
import Herald.Store.Seed

/-!
# Herald.Proofs.Store.Catalogue

A store is a finite map from identities to valid templates.

* `Identity`: what a template is found by; `Store.catalogue`: a store as the map it stands for.
* `Catalogue.Admits`, `Catalogue.Refuses`, `Catalogue.write`: when the map admits a write, why it
  refuses it, and what it is afterwards.
* `Store.reply`: what a write is answered with. `reply_ok_iff`, `reply_error_iff`,
  `catalogue_apply`: the store goes by the map.
* `store_refines_catalogue`: it does so after any writes, and all its reads tell of the same map.
-/

namespace Herald

structure Identity where
  scope : Scope
  channel : Channel
  templateType : String
  locale : String
  deriving DecidableEq, Repr

namespace Identity

def rowKey (i : Identity) : RowKey := ⟨i.scope, i.channel.templatePath i.templateType, i.locale⟩

theorem rowKey_inj {i j : Identity} : i.rowKey = j.rowKey ↔ i = j := by
  constructor
  · intro h
    obtain ⟨hc, ht⟩ := templatePath_inj (congrArg RowKey.path h)
    obtain ⟨scope, channel, templateType, locale⟩ := i
    obtain ⟨scope', channel', templateType', locale'⟩ := j
    have hs : scope = scope' := congrArg RowKey.scope h
    have hl : locale = locale' := congrArg RowKey.locale h
    subst hs hl
    cases hc
    cases ht
    rfl
  · rintro rfl
    rfl

end Identity

def Template.identity (t : Template) (scope : Scope) (channel : Channel) : Identity :=
  ⟨scope, channel, t.templateType, t.locale⟩

namespace Mutation

def identity : Mutation → Identity
  | create scope channel t => t.identity scope channel
  | update scope channel t => t.identity scope channel
  | remove scope channel templateType locale => ⟨scope, channel, templateType, locale⟩

/-- What a write would put in its place. -/
def template? : Mutation → Option Template
  | create _ _ t => some t
  | update _ _ t => some t
  | remove .. => none

end Mutation

abbrev Catalogue := Identity → Option Template

namespace Catalogue

variable (f : Catalogue)

/-- A valid template may be created where none is and put in the place of one that is there. What is
there may be removed. -/
def Admits : Mutation → Prop
  | .create scope channel t => t.valid = true ∧ f (t.identity scope channel) = none
  | .update scope channel t => t.valid = true ∧ f (t.identity scope channel) ≠ none
  | .remove scope channel templateType locale => f ⟨scope, channel, templateType, locale⟩ ≠ none

/-- Why a write is refused. What is wrong with the template is told first. -/
inductive Refuses : Mutation → StoreError → Prop where
  | invalid {m : Mutation} {t : Template} {d : Template.Defect} (ht : m.template? = some t)
    (hd : t.defect? = some d) : Refuses m (.invalid (EngineError.invalidTemplate d.message).message)
  | taken {scope : Scope} {channel : Channel} {t : Template} (hv : t.valid = true)
    (hf : f (t.identity scope channel) ≠ none) :
    Refuses (.create scope channel t) (.alreadyExists (t.rowKey scope channel).display)
  | absent {m : Mutation} (hm : ∀ scope channel t, m ≠ .create scope channel t)
    (hv : ∀ t, m.template? = some t → t.valid = true) (hf : f m.identity = none) :
    Refuses m (.notFound m.rowKey.display)

/-- What was there before a write, handed back by an update or a removal. -/
def handsBack : Mutation → Option Template
  | .create .. => none
  | m => f m.identity

def write (m : Mutation) : Catalogue := fun i => if i = m.identity then m.template? else f i

end Catalogue

namespace Store

/-- A store as the map it stands for. -/
def catalogue (s : Store) : Catalogue := fun i =>
  s.getTemplate i.scope (i.channel.templatePath i.templateType) i.locale

/-- What a write is answered with: the template it replaces or removes, or why it is refused. -/
def reply (s : Store) : Mutation → Except StoreError (Option Template)
  | .create scope channel t => (s.create scope channel t).map fun _ => none
  | .update scope channel t => (s.update scope channel t).map fun r => some r.1
  | .remove scope channel templateType locale =>
    (s.remove scope channel templateType locale).map fun r => some r.1

end Store

section

variable {s : Store} {m : Mutation}

theorem valid_iff {t : Template} : t.valid = true ↔ t.defect? = none := by
  simp [Template.valid]

theorem not_valid {t : Template} {d : Template.Defect} (hd : t.defect? = some d) :
    ¬ t.valid = true := by
  rw [valid_iff, hd]
  nofun

theorem catalogue_insert (s : Store) (i : Identity) (t : Template) :
    (⟨s.rows.insert i.rowKey t⟩ : Store).catalogue =
      fun j => if j = i then some t else s.catalogue j := by
  funext j
  show (s.rows.insert i.rowKey t).get? j.rowKey = _
  simp only [Table.get?_insert, Identity.rowKey_inj]
  rfl

theorem catalogue_erase (s : Store) (i : Identity) :
    (⟨s.rows.erase i.rowKey⟩ : Store).catalogue =
      fun j => if j = i then none else s.catalogue j := by
  funext j
  show (s.rows.erase i.rowKey).get? j.rowKey = _
  simp only [Table.get?_erase, Identity.rowKey_inj]
  rfl

/-- A store refuses a write and stays as it is, or does to its map what the write says. -/
theorem reply_cases (s : Store) (m : Mutation) :
    (∃ e, s.reply m = .error e ∧ s.catalogue.Refuses m e ∧ m.apply s = s) ∨
      s.reply m = .ok (s.catalogue.handsBack m) ∧ s.catalogue.Admits m ∧
        (m.apply s).catalogue = s.catalogue.write m := by
  cases m with
  | create scope channel t =>
    have hf : s.catalogue (t.identity scope channel) = s.rows.get? (t.rowKey scope channel) := rfl
    simp only [Store.reply, Store.create, Mutation.apply]
    cases hd : t.defect? with
    | some d => exact .inl ⟨_, rfl, .invalid rfl hd, rfl⟩
    | none =>
      cases hr : s.rows.get? (t.rowKey scope channel) with
      | some old =>
        refine .inl ⟨_, rfl, .taken (valid_iff.2 hd) ?_, rfl⟩
        rw [hf, hr]
        exact Option.some_ne_none old
      | none =>
        exact .inr ⟨rfl, ⟨valid_iff.2 hd, hf.trans hr⟩,
          catalogue_insert s (t.identity scope channel) t⟩
  | update scope channel t =>
    have hf : s.catalogue (t.identity scope channel) = s.rows.get? (t.rowKey scope channel) := rfl
    simp only [Store.reply, Store.update, Mutation.apply]
    cases hd : t.defect? with
    | some d => exact .inl ⟨_, rfl, .invalid rfl hd, rfl⟩
    | none =>
      cases hr : s.rows.get? (t.rowKey scope channel) with
      | none =>
        refine .inl ⟨_, rfl, .absent (fun _ _ _ hc => ?_) (fun u hu => ?_) (hf.trans hr), rfl⟩
        · cases hc
        · cases hu
          exact valid_iff.2 hd
      | some old =>
        refine .inr ⟨congrArg Except.ok (hf.trans hr).symm, ⟨valid_iff.2 hd, ?_⟩,
          catalogue_insert s (t.identity scope channel) t⟩
        rw [hf, hr]
        exact Option.some_ne_none old
  | remove scope channel templateType locale =>
    have hf : s.catalogue ⟨scope, channel, templateType, locale⟩ =
        s.rows.get? ⟨scope, channel.templatePath templateType, locale⟩ := rfl
    simp only [Store.reply, Store.remove, Mutation.apply]
    cases hr : s.rows.get? ⟨scope, channel.templatePath templateType, locale⟩ with
    | none =>
      refine .inl ⟨_, rfl, .absent (fun _ _ _ hc => ?_) (fun u hu => ?_) (hf.trans hr), rfl⟩
      · cases hc
      · cases hu
    | some old =>
      refine .inr ⟨congrArg Except.ok (hf.trans hr).symm, ?_,
        catalogue_erase s ⟨scope, channel, templateType, locale⟩⟩
      rw [Catalogue.Admits, hf, hr]
      exact Option.some_ne_none old

namespace Catalogue

variable {f : Catalogue} {e e' : StoreError}

theorem Refuses.not_admits (h : f.Refuses m e) : ¬ f.Admits m := by
  cases h with
  | invalid ht hd =>
    cases m with
    | create scope channel t =>
      cases ht
      exact fun ha => not_valid hd ha.1
    | update scope channel t =>
      cases ht
      exact fun ha => not_valid hd ha.1
    | remove => cases ht
  | taken hv hf => exact fun ha => hf ha.2
  | absent hm hv hf =>
    cases m with
    | create scope channel t => exact absurd rfl (hm scope channel t)
    | update scope channel t => exact fun ha => ha.2 hf
    | remove scope channel templateType locale => exact fun ha => ha hf

theorem Refuses.unique (h : f.Refuses m e) (h' : f.Refuses m e') : e = e' := by
  cases h with
  | invalid ht hd =>
    cases h' with
    | invalid ht' hd' =>
      cases ht.symm.trans ht'
      cases hd.symm.trans hd'
      rfl
    | taken hv =>
      cases ht
      exact absurd hv (not_valid hd)
    | absent hm hv => exact absurd (hv _ ht) (not_valid hd)
  | taken hv hf =>
    cases h' with
    | invalid ht hd =>
      cases ht
      exact absurd hv (not_valid hd)
    | taken => rfl
    | absent hm => exact absurd rfl (hm _ _ _)
  | absent hm hv =>
    cases h' with
    | invalid ht hd => exact absurd (hv _ ht) (not_valid hd)
    | taken => exact absurd rfl (hm _ _ _)
    | absent => rfl

end Catalogue

theorem reply_ok_iff {r : Option Template} :
    s.reply m = .ok r ↔ s.catalogue.Admits m ∧ r = s.catalogue.handsBack m := by
  rcases reply_cases s m with ⟨e, hr, href, -⟩ | ⟨hr, had, -⟩
  · rw [hr]
    exact ⟨nofun, fun h => absurd h.1 href.not_admits⟩
  · rw [hr, Except.ok.injEq]
    exact ⟨fun h => ⟨had, h.symm⟩, fun h => h.2.symm⟩

theorem reply_error_iff {e : StoreError} : s.reply m = .error e ↔ s.catalogue.Refuses m e := by
  rcases reply_cases s m with ⟨e', hr, href, -⟩ | ⟨hr, had, -⟩
  · rw [hr, Except.error.injEq]
    exact ⟨fun h => h ▸ href, fun h => href.unique h⟩
  · rw [hr]
    exact ⟨nofun, fun h => absurd had h.not_admits⟩

theorem catalogue_apply (h : s.catalogue.Admits m) :
    (m.apply s).catalogue = s.catalogue.write m := by
  rcases reply_cases s m with ⟨e, -, href, -⟩ | ⟨-, -, hc⟩
  · exact absurd h href.not_admits
  · exact hc

theorem apply_of_not_admits (h : ¬ s.catalogue.Admits m) : m.apply s = s := by
  rcases reply_cases s m with ⟨e, -, -, hs⟩ | ⟨-, had, -⟩
  · exact hs
  · exact absurd had h

end

/-! ## What is read -/

/-- Listed strictly before: by type, then by locale. -/
def Template.Precedes (a b : Template) : Prop :=
  a.templateType < b.templateType ∨ a.templateType = b.templateType ∧ a.locale < b.locale

section

variable {s : Store}

theorem pairwise_listTemplates (hs : s.Sound) (scope : Scope) (channel : Channel) :
    (s.listTemplates scope channel.basePath).Pairwise Template.Precedes := by
  have hn : (s.listTemplates scope channel.basePath).Nodup :=
    (List.mergeSort_perm ..).nodup_iff.2 (nodup_templatesBelow hs)
  refine ((Template.pairwise_listedBefore _).and hn).imp_of_mem fun {a b} ha hb h => ?_
  obtain ⟨hle, hne⟩ := h
  rcases Template.listedBefore_iff.1 hle with ht | ⟨ht, hl⟩
  · exact .inl ht
  · -- two templates with one identity would be one row
    have ha := List.mem_mergeSort.1 ha
    have hb := List.mem_mergeSort.1 hb
    exact .inr ⟨ht, Std.lt_of_le_of_ne hl fun hl =>
      hne (eq_of_mem_templatesBelow hs ha hb ht hl)⟩

theorem mem_listTemplateTypes {channel : Channel} {tenant templateType : String} :
    templateType ∈ s.listTemplateTypes channel.basePath tenant ↔
      ∃ t ∈ s.listTemplates (.tenant tenant) channel.basePath, t.templateType = templateType := by
  rw [Store.listTemplateTypes, Ordered.mem_distinct, List.mem_map]
  simp only [Store.listTemplates, List.mem_mergeSort]

theorem exists_map_eq {α β : Type} {f : α → β} {bs : List β} (h : ∀ b ∈ bs, ∃ a, f a = b) :
    ∃ as : List α, as.map f = bs := by
  induction bs with
  | nil => exact ⟨[], rfl⟩
  | cons b bs ih =>
    obtain ⟨⟨a, ha⟩, hbs⟩ := List.forall_mem_cons.1 h
    obtain ⟨as, has⟩ := ih hbs
    exact ⟨a :: as, by rw [List.map_cons, ha, has]⟩

/-- The map is finite: it has as many identities as the store has templates. -/
theorem exists_identities (hs : s.Sound) : ∃ is : List Identity,
    is.Nodup ∧ is.length = s.size ∧ ∀ i, i ∈ is ↔ s.catalogue i ≠ none := by
  -- in a sound store, every row stands where an identity says
  have hkey : ∀ k ∈ s.rows.entries.map Prod.fst, ∃ i : Identity, i.rowKey = k := by
    intro k hk
    obtain ⟨⟨k, t⟩, he, rfl⟩ := List.mem_map.1 hk
    obtain ⟨-, c, hc⟩ := hs k t (Table.mem_entries.1 he)
    exact ⟨t.identity k.scope c, hc.symm⟩
  obtain ⟨is, his⟩ := exists_map_eq hkey
  refine ⟨is, ?_, ?_, fun i => ?_⟩
  · have hn := s.rows.nodup
    rw [← his] at hn
    exact (List.pairwise_map.1 hn).imp fun hne he => hne (congrArg _ he)
  · rw [← List.length_map Identity.rowKey, his, List.length_map]
    rfl
  · have hi : i ∈ is ↔ i.rowKey ∈ s.rows.entries.map Prod.fst := by
      rw [← his, List.mem_map]
      exact ⟨fun h => ⟨i, h, rfl⟩, fun ⟨j, hj, hk⟩ => Identity.rowKey_inj.1 hk ▸ hj⟩
    rw [hi, Option.ne_none_iff_exists', List.mem_map]
    constructor
    · rintro ⟨⟨k, t⟩, he, hk⟩
      have hk : k = i.rowKey := hk
      subst hk
      exact ⟨t, Table.mem_entries.1 he⟩
    · rintro ⟨t, ht⟩
      exact ⟨⟨i.rowKey, t⟩, Table.mem_entries.2 ht, rfl⟩

end

/-- A store with seeds is one into which they were written. -/
theorem addSeeds_eq_after {s s' : Store} {seeds : List Seed} (h : s.addSeeds seeds = .ok s') :
    s' = s.after (seeds.map fun x => .create x.scope x.channel x.template) := by
  induction seeds generalizing s with
  | nil =>
    cases h
    rfl
  | cons x seeds ih =>
    rw [Store.addSeeds, List.foldlM_cons] at h
    cases hc : s.create x.scope x.channel x.template with
    | error e =>
      rw [hc] at h
      cases h
    | ok s₁ =>
      rw [hc] at h
      have hs : (Mutation.create x.scope x.channel x.template).apply s = s₁ := by
        rw [Mutation.apply, hc]
      have hs' := ih h
      rw [← hs] at hs'
      exact hs'

/-- Empty, or filled with the seeds of a text. -/
def Store.Seeded (s : Store) : Prop := s = .empty ∨ ∃ text, Store.ofSeedText text = .ok s

theorem Store.Seeded.sound {s : Store} (h : s.Seeded) : s.Sound := by
  rcases h with rfl | ⟨text, h⟩
  · exact .empty
  · unfold ofSeedText at h
    split at h
    · rw [addSeeds_eq_after h]
      exact Sound.empty.after _
    · cases h

/-- After any writes, a store goes by the map that it stands for. A write succeeds just when the map
admits it, with what was there before, and otherwise changes nothing. Every template is valid and
stands where its type and its locale say. The lists of a channel tell of the map what single reads
tell, in strict order, and depend on nothing else. -/
theorem store_refines_catalogue {start : Store} (hstart : start.Seeded) (ms : List Mutation) :
    let s := start.after ms
    (∀ m, (∀ r, s.reply m = .ok r ↔ s.catalogue.Admits m ∧ r = s.catalogue.handsBack m) ∧
      (∀ e, s.reply m = .error e ↔ s.catalogue.Refuses m e) ∧
      (s.catalogue.Admits m → (m.apply s).catalogue = s.catalogue.write m) ∧
      (¬ s.catalogue.Admits m → m.apply s = s)) ∧
    s.Sound ∧
    (∃ is : List Identity, is.Nodup ∧ is.length = s.size ∧ ∀ i, i ∈ is ↔ s.catalogue i ≠ none) ∧
    (∀ scope (channel : Channel) t, t ∈ s.listTemplates scope channel.basePath ↔
      s.getTemplate scope (channel.templatePath t.templateType) t.locale = some t) ∧
    (∀ scope (channel : Channel),
      (s.listTemplates scope channel.basePath).Pairwise Template.Precedes) ∧
    (∀ (channel : Channel) tenant templateType,
      templateType ∈ s.listTemplateTypes channel.basePath tenant ↔
        ∃ t ∈ s.listTemplates (.tenant tenant) channel.basePath, t.templateType = templateType) ∧
    (∀ (channel : Channel) tenant, (s.listTemplateTypes channel.basePath tenant).Pairwise (· < ·)) ∧
    ∀ (start' : Store) (ms' : List Mutation), start'.Seeded →
      (start'.after ms').catalogue = s.catalogue →
      (∀ scope (channel : Channel), (start'.after ms').listTemplates scope channel.basePath =
        s.listTemplates scope channel.basePath) ∧
      ∀ (channel : Channel) tenant, (start'.after ms').listTemplateTypes channel.basePath tenant =
        s.listTemplateTypes channel.basePath tenant := by
  intro s
  have hs : s.Sound := hstart.sound.after ms
  refine ⟨fun m => ⟨fun r => reply_ok_iff, fun e => reply_error_iff, catalogue_apply,
    apply_of_not_admits⟩, hs, exists_identities hs, fun scope channel t => mem_listTemplates hs,
    pairwise_listTemplates hs, fun channel tenant templateType => mem_listTemplateTypes,
    fun channel tenant => Ordered.pairwise_distinct _, fun start' ms' hstart' hc => ?_⟩
  have hs' : (start'.after ms').Sound := hstart'.sound.after ms'
  have same (scope : Scope) (channel : Channel) :
      Store.SameAt scope channel (start'.after ms') s := fun templateType locale =>
    congrFun hc ⟨scope, channel, templateType, locale⟩
  exact ⟨fun scope channel => listTemplates_congr hs' hs (same scope channel),
    fun channel tenant => listTemplateTypes_congr hs' hs (same (.tenant tenant) channel)⟩

/-- One template was seeded, and another is added. Then the list has the first, as a single read
has, and it is not added again. -/
theorem store_refines_catalogue_seeded :
    let welcome : Template := { templateType := "welcome", locale := "en_US", body := "Hello" }
    let alert : Template := { templateType := "alert", locale := "en_US", body := "Look" }
    let acme : Scope := .tenant "acme"
    let text := (Json.arr [(Seed.mk acme .email welcome).toJson]).compact
    ∃ start, Store.ofSeedText text = .ok start ∧
      let s := start.after [.create acme .email alert]
      s.getTemplate acme "/identity/email/welcome" "en_US" = some welcome ∧
      welcome ∈ s.listTemplates acme "/identity/email" ∧
      s.listTemplateTypes "/identity/email" "acme" = ["alert", "welcome"] ∧
      s.reply (.create acme .email welcome) =
        .error (.alreadyExists "tenant:acme /identity/email/welcome (en_US)") := by
  intro welcome alert acme text
  have h : (Store.ofSeedText text).toOption.map (fun start =>
      let s := start.after [.create acme .email alert]
      (s.getTemplate acme "/identity/email/welcome" "en_US",
        s.listTemplateTypes "/identity/email" "acme")) =
        some (some welcome, ["alert", "welcome"]) := by
    subst text alert welcome acme
    decide +kernel
  cases hstart : Store.ofSeedText text with
  | error e =>
    rw [hstart] at h
    cases h
  | ok start =>
    rw [hstart] at h
    obtain ⟨hget, htypes⟩ := Prod.mk.inj (Option.some.inj h)
    have hs := store_refines_catalogue (.inr ⟨text, hstart⟩) [.create acme .email alert]
    obtain ⟨hreply, -, -, hlist, -⟩ := hs
    refine ⟨start, rfl, hget, (hlist acme .email welcome).2 hget, htypes, ?_⟩
    refine ((hreply _).2.1 _).2 (.taken (by decide) fun hf => ?_)
    cases hget.symm.trans hf

end Herald
