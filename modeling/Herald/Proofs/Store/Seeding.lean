import Mathlib.Data.List.Forall2
import Mathlib.Data.List.Induction
import Herald.Proofs.Json.Literal
import Herald.Proofs.Json.SeedForm
import Herald.Proofs.Store.Catalogue

/-!
# Herald.Proofs.Store.Seeding

Seeding is all or nothing, and the order of the seeds does not matter.

* `Seed.Listed`: the seeds that a text lists. `Seed.listed_listing`: every list of seeds has such a
  text.
* `Seed.Consistent`: seeds that can stand in one store. `Seed.Fault`: why one cannot be added.
* `Store.Holds`: a store with just the templates of some seeds. `Store.SameReads`: two stores that
  cannot be told apart by reading.
* `ofSeeds_cases`: seeds are consistent and all held, or the first faulty one is told.
* `seeding_exact`: what seeding with a text comes to.
-/

namespace Herald

namespace Seed

/-- The seeds that a text lists: it is an array, and each item is the form of one seed. -/
def Listed (text : String) (xs : List Seed) : Prop :=
  ∃ items, Json.read? text = some (.arr items) ∧
    List.Forall₂ (fun v x => ∃ ms, v = .obj ms ∧ Written (Json.maxDepth - 1) ms x) items xs

def identity (x : Seed) : Identity := x.template.identity x.scope x.channel

/-- Every template is valid, and no two share scope, channel, type and locale. -/
structure Consistent (xs : List Seed) : Prop where
  valid : ∀ x ∈ xs, x.template.valid = true
  nodup : (xs.map identity).Nodup

/-- Why a seed cannot be added to earlier ones. What is wrong with its template is told first. -/
inductive Fault (before : List Seed) (x : Seed) : StoreError → Prop where
  | invalid {d : Template.Defect} (hd : x.template.defect? = some d) :
    Fault before x (.invalid (EngineError.invalidTemplate d.message).message)
  | repeated (hv : x.template.valid = true) (hr : ∃ y ∈ before, y.identity = x.identity) :
    Fault before x (.alreadyExists (x.template.rowKey x.scope x.channel).display)

/-- Some seeds as the map from identities to templates. -/
def Maps (xs : List Seed) (f : Catalogue) : Prop :=
  ∀ i t, f i = some t ↔ ∃ x ∈ xs, x.identity = i ∧ x.template = t

end Seed

namespace Store

/-- The templates of some seeds are found, each in its place, and nothing else is there. -/
structure Holds (s : Store) (xs : List Seed) : Prop where
  found : ∀ scope path locale t, s.getTemplate scope path locale = some t ↔
    ∃ x ∈ xs, x.scope = scope ∧ x.channel.templatePath x.template.templateType = path ∧
      x.template.locale = locale ∧ x.template = t
  count : s.size = xs.length

/-- Every read tells the same of two stores. Only where a path lies above several channels, the
order of two templates of one type and locale is open. -/
structure SameReads (s s' : Store) : Prop where
  get : ∀ scope path locale, s.getTemplate scope path locale = s'.getTemplate scope path locale
  types : ∀ base tenant, s.listTemplateTypes base tenant = s'.listTemplateTypes base tenant
  list : ∀ scope (c : Channel), s.listTemplates scope c.basePath = s'.listTemplates scope c.basePath
  listed : ∀ scope base, (s.listTemplates scope base).Perm (s'.listTemplates scope base)
  ordered : ∀ scope base, (∀ a ∈ s.listTemplates scope base, ∀ b ∈ s.listTemplates scope base,
    a.templateType = b.templateType → a.locale = b.locale → a = b) →
    s.listTemplates scope base = s'.listTemplates scope base
  size : s.size = s'.size

end Store

/-! ## What a text lists -/

theorem mapM_eq_some_iff {α β : Type} {f : α → Option β} {as : List α} {bs : List β} :
    as.mapM f = some bs ↔ List.Forall₂ (fun a b => f a = some b) as bs := by
  induction as generalizing bs with
  | nil => simp [eq_comm]
  | cons a as ih =>
    simp only [List.mapM_cons, Option.bind_eq_bind, Option.bind_eq_some_iff, ih,
      List.forall₂_cons_left_iff, Option.pure_def, Option.some.injEq]
    constructor
    · rintro ⟨b, hb, bs', hbs, rfl⟩
      exact ⟨b, bs', hb, hbs, rfl⟩
    · rintro ⟨b, bs', hb, hbs, rfl⟩
      exact ⟨b, hb, bs', hbs, rfl⟩

theorem readSeeds?_eq_some_iff {text : String} {xs : List Seed} :
    Store.readSeeds? text = some xs ↔ Seed.Listed text xs := by
  simp only [Store.readSeeds?, Option.bind_eq_bind, Option.bind_eq_some_iff, Seed.Listed]
  constructor
  · rintro ⟨v, hv, hxs⟩
    cases v with
    | arr items =>
      refine ⟨items, hv, (mapM_eq_some_iff.1 hxs).imp fun w x hx => ?_⟩
      exact Seed.ofJson?_iff.1 hx
    | _ => cases hxs
  · rintro ⟨items, hv, hxs⟩
    exact ⟨_, hv, mapM_eq_some_iff.2 (hxs.imp fun w x hx => Seed.ofJson?_iff.2 hx)⟩

theorem ofSeedText_listed {text : String} {xs : List Seed} (h : Seed.Listed text xs) :
    Store.ofSeedText text = Store.ofSeeds xs := by
  rw [Store.ofSeedText, readSeeds?_eq_some_iff.2 h]

theorem textual_member? (name : String) (o : Option String) :
    ∀ m ∈ Json.member? name o, m.2.Textual := by
  cases o with
  | none => exact List.forall_mem_nil _
  | some s => exact List.forall_mem_singleton.2 (.str s)

theorem Scope.textual_toJson (s : Scope) : s.toJson.Textual := by
  cases s with
  | tenant t => exact .obj (by simp [Json.Textual.str])
  | application t a => exact .obj (by simp [Json.Textual.str])
  | organization o a =>
    refine .obj (List.forall_mem_append.2 ⟨by simp [Json.Textual.str], ?_⟩)
    exact textual_member? "application_id" a

theorem Seed.textual_toJson (x : Seed) : x.toJson.Textual := by
  refine .obj (List.forall_mem_append.2 ⟨?_, fun m hm => ?_⟩)
  · simp [x.scope.textual_toJson, Channel.toJson, Json.Textual.str]
  · obtain ⟨-, s, hs⟩ := x.template.members_eq_str hm
    rw [hs]
    exact .str s

/-- The text of some seeds. -/
def Seed.listing (xs : List Seed) : String := Json.compact (.arr (xs.map toJson))

theorem Seed.listed_listing (xs : List Seed) : Listed (listing xs) xs := by
  have htextual : (Json.arr (xs.map toJson)).Textual := by
    refine .arr fun v hv => ?_
    obtain ⟨x, -, rfl⟩ := List.mem_map.1 hv
    exact x.textual_toJson
  refine ⟨xs.map toJson, htextual.read?_compact, ?_⟩
  rw [List.forall₂_map_left_iff, List.forall₂_same]
  exact fun x _ => ofJson?_iff.1 (x.ofJson?_toJson (by decide))

/-! ## One seed after another -/

section

variable {s s' : Store} {xs ys before after : List Seed} {x : Seed} {e : StoreError}

theorem Seed.Consistent.perm (h : Consistent xs) (hp : ys.Perm xs) : Consistent ys :=
  ⟨fun x hx => h.valid x (hp.mem_iff.1 hx), (hp.map identity).nodup_iff.2 h.nodup⟩

theorem Seed.Fault.not_consistent (h : Fault before x e) :
    ¬ Consistent (before ++ x :: after) := by
  intro hc
  cases h with
  | invalid hd => exact not_valid hd (hc.valid x (by simp))
  | repeated _ hr =>
    obtain ⟨y, hy, hi⟩ := hr
    have hn := hc.nodup
    rw [List.map_append, List.map_cons] at hn
    exact (List.nodup_append.1 hn).2.2 _ (List.mem_map.2 ⟨y, hy, rfl⟩) _ List.mem_cons_self hi

theorem Seed.Maps.eq_none_iff {f : Catalogue} (h : Maps xs f) {i : Identity} :
    f i = none ↔ ∀ x ∈ xs, x.identity ≠ i := by
  constructor
  · intro hf x hx hi
    have hs := (h i x.template).2 ⟨x, hx, hi, rfl⟩
    cases hf.symm.trans hs
  · intro hx
    cases hf : f i with
    | none => rfl
    | some t =>
      obtain ⟨x, hm, hi, -⟩ := (h i t).1 hf
      exact absurd hi (hx x hm)

/-- A store refuses the next seed just when it is at fault. -/
theorem create_eq_error_iff (h : Seed.Maps xs s.catalogue) :
    s.create x.scope x.channel x.template = .error e ↔ Seed.Fault xs x e := by
  have hreply : s.create x.scope x.channel x.template = .error e ↔
      s.reply (.create x.scope x.channel x.template) = .error e := by
    simp only [Store.reply]
    cases s.create x.scope x.channel x.template <;> simp [Except.map]
  rw [hreply, reply_error_iff]
  constructor
  · intro hr
    cases hr with
    | invalid ht hd =>
      cases ht
      exact .invalid hd
    | taken hv hf =>
      refine .repeated hv (by_contra fun hn => hf (h.eq_none_iff.2 fun y hy hi => hn ?_))
      exact ⟨y, hy, hi⟩
    | absent hm => exact absurd rfl (hm _ _ _)
  · intro hf
    cases hf with
    | invalid hd => exact .invalid rfl hd
    | repeated hv hr =>
      obtain ⟨y, hy, hi⟩ := hr
      exact .taken hv fun hn => h.eq_none_iff.1 hn y hy hi

theorem Seed.Consistent.concat (h : Consistent xs) (hv : x.template.valid = true)
    (hfree : ∀ y ∈ xs, y.identity ≠ x.identity) : Consistent (xs ++ [x]) := by
  constructor
  · intro y hy
    rcases List.mem_append.1 hy with hy | hy
    · exact h.valid y hy
    · rw [List.mem_singleton.1 hy]
      exact hv
  · rw [List.map_append, List.map_singleton]
    refine List.nodup_append.2 ⟨h.nodup, List.nodup_singleton _, ?_⟩
    intro i hi j hj
    obtain ⟨y, hy, rfl⟩ := List.mem_map.1 hi
    rw [List.mem_singleton.1 hj]
    exact hfree y hy

theorem Seed.Maps.concat {f : Catalogue} (h : Maps xs f)
    (hfree : ∀ y ∈ xs, y.identity ≠ x.identity) :
    Maps (xs ++ [x]) (f.write (.create x.scope x.channel x.template)) := by
  intro i t
  rw [Catalogue.write]
  split
  · next hi =>
    -- the place of the new seed, which no earlier one has
    subst hi
    constructor
    · intro ht
      cases ht
      exact ⟨x, by simp, rfl, rfl⟩
    · rintro ⟨y, hy, hi, rfl⟩
      rcases List.mem_append.1 hy with hy | hy
      · exact absurd hi (hfree y hy)
      · rw [List.mem_singleton.1 hy]
        rfl
  · next hi =>
    rw [h i t]
    constructor
    · rintro ⟨y, hy, h⟩
      exact ⟨y, List.mem_append_left _ hy, h⟩
    · rintro ⟨y, hy, hiy, ht⟩
      rcases List.mem_append.1 hy with hy | hy
      · exact ⟨y, hy, hiy, ht⟩
      · rw [List.mem_singleton.1 hy] at hiy
        exact absurd hiy.symm hi

/-- A store that takes the next seed maps it, too. -/
theorem create_eq_ok (hm : Seed.Maps xs s.catalogue) (hc : Seed.Consistent xs)
    (h : s.create x.scope x.channel x.template = .ok s') :
    Seed.Consistent (xs ++ [x]) ∧ Seed.Maps (xs ++ [x]) s'.catalogue := by
  have hreply : s.reply (.create x.scope x.channel x.template) = .ok none := by
    rw [Store.reply, h]
    rfl
  have happly : (Mutation.create x.scope x.channel x.template).apply s = s' := by
    rw [Mutation.apply, h]
  obtain ⟨had, -⟩ := reply_ok_iff.1 hreply
  have hfree := hm.eq_none_iff.1 had.2
  rw [← happly, catalogue_apply had]
  exact ⟨hc.concat had.1 hfree, hm.concat hfree⟩

theorem ofSeeds_append (xs ys : List Seed) :
    Store.ofSeeds (xs ++ ys) = (Store.ofSeeds xs).bind fun s => s.addSeeds ys := by
  rw [Store.ofSeeds, Store.addSeeds, List.foldlM_append]
  rfl

theorem addSeeds_cons (s : Store) (x : Seed) (ys : List Seed) :
    s.addSeeds (x :: ys) =
      (s.create x.scope x.channel x.template).bind fun s' => s'.addSeeds ys := rfl

/-- Seeds are consistent and make up a store, or the first faulty one is told. -/
theorem ofSeeds_cases (xs : List Seed) :
    (∃ s, Store.ofSeeds xs = .ok s ∧ Seed.Consistent xs ∧ Seed.Maps xs s.catalogue) ∨
      ∃ before x after e, xs = before ++ x :: after ∧ Seed.Consistent before ∧
        Seed.Fault before x e ∧ Store.ofSeeds xs = .error e := by
  -- from the front: what the seeds so far have come to decides on the next
  induction xs using List.reverseRecOn with
  | nil => exact .inl ⟨.empty, rfl, ⟨nofun, .nil⟩, fun i t => ⟨nofun, nofun⟩⟩
  | append_singleton xs x ih =>
    rcases ih with ⟨s, hs, hc, hm⟩ | ⟨before, y, after, e, rfl, hc, hf, he⟩
    · have hx : Store.ofSeeds (xs ++ [x]) = s.create x.scope x.channel x.template := by
        rw [ofSeeds_append, hs]
        exact bind_pure _
      cases hcreate : s.create x.scope x.channel x.template with
      | ok s' => exact .inl ⟨s', hx.trans hcreate, create_eq_ok hm hc hcreate⟩
      | error e =>
        exact .inr ⟨xs, x, [], e, rfl, hc, (create_eq_error_iff hm).1 hcreate, hx.trans hcreate⟩
    · refine .inr ⟨before, y, after ++ [x], e, by simp, hc, hf, ?_⟩
      rw [ofSeeds_append, he]
      rfl

theorem ofSeeds_ok_iff : (∃ s, Store.ofSeeds xs = .ok s) ↔ Seed.Consistent xs := by
  rcases ofSeeds_cases xs with ⟨s, hs, hc, -⟩ | ⟨before, x, after, e, rfl, -, hf, he⟩
  · exact iff_of_true ⟨s, hs⟩ hc
  · rw [he]
    exact iff_of_false nofun hf.not_consistent

theorem maps_of_ofSeeds (h : Store.ofSeeds xs = .ok s) : Seed.Maps xs s.catalogue := by
  rcases ofSeeds_cases xs with ⟨s', hs, -, hm⟩ | ⟨before, x, after, e, -, -, -, he⟩
  · cases h.symm.trans hs
    exact hm
  · cases h.symm.trans he

theorem ofSeeds_error_iff : Store.ofSeeds xs = .error e ↔
    ∃ before x after, xs = before ++ x :: after ∧ Seed.Consistent before ∧
      Seed.Fault before x e := by
  constructor
  · intro h
    rcases ofSeeds_cases xs with ⟨s, hs, -⟩ | ⟨before, x, after, e', hxs, hc, hf, he⟩
    · cases h.symm.trans hs
    · cases h.symm.trans he
      exact ⟨before, x, after, hxs, hc, hf⟩
  · rintro ⟨before, x, after, rfl, hc, hf⟩
    obtain ⟨s, hs⟩ := ofSeeds_ok_iff.2 hc
    rw [ofSeeds_append, hs]
    show s.addSeeds (x :: after) = _
    rw [addSeeds_cons, (create_eq_error_iff (maps_of_ofSeeds hs)).2 hf]
    rfl

theorem sound_of_ofSeeds (h : Store.ofSeeds xs = .ok s) : s.Sound := by
  rw [addSeeds_eq_after h]
  exact Store.Sound.empty.after _

/-! ## What the store tells -/

theorem Store.Sound.get?_iff (hs : s.Sound) {k : RowKey} {t : Template} :
    s.rows.get? k = some t ↔ ∃ i : Identity, i.rowKey = k ∧ s.catalogue i = some t := by
  constructor
  · intro h
    obtain ⟨-, c, hk⟩ := hs k t h
    refine ⟨t.identity k.scope c, hk.symm, ?_⟩
    rw [hk] at h
    exact h
  · rintro ⟨i, rfl, h⟩
    exact h

theorem holds_of_maps (hs : s.Sound) (hm : Seed.Maps xs s.catalogue) (hc : Seed.Consistent xs) :
    s.Holds xs where
  found scope path locale t := by
    refine hs.get?_iff.trans ?_
    constructor
    · rintro ⟨i, hk, hi⟩
      obtain ⟨x, hx, rfl, rfl⟩ := (hm i t).1 hi
      cases hk
      exact ⟨x, hx, rfl, rfl, rfl, rfl⟩
    · rintro ⟨x, hx, rfl, rfl, rfl, rfl⟩
      exact ⟨x.identity, rfl, (hm _ _).2 ⟨x, hx, rfl, rfl⟩⟩
  count := by
    obtain ⟨is, hn, hlen, hmem⟩ := exists_identities hs
    have hp : is.Perm (xs.map Seed.identity) := by
      refine (List.perm_ext_iff_of_nodup hn hc.nodup).2 fun i => ?_
      rw [hmem, ne_eq, hm.eq_none_iff, List.mem_map]
      simp
    rw [← hlen, hp.length_eq, List.length_map]

theorem sameReads_of_catalogue (hs : s.Sound) (hs' : s'.Sound)
    (h : s.catalogue = s'.catalogue) : s.SameReads s' := by
  have hget (k : RowKey) : s.rows.get? k = s'.rows.get? k := by
    refine Option.ext fun t => ?_
    rw [hs.get?_iff, hs'.get?_iff, h]
  have hentries := Table.entries_perm hget
  have hbelow (scope : Scope) (base : String) :
      (s.templatesBelow scope base).Perm (s'.templatesBelow scope base) :=
    (hentries.filter _).map _
  exact {
    get := fun scope path locale => hget _
    types := fun base tenant =>
      Ordered.distinct_congr fun x => ((hbelow _ base).map Template.templateType).mem_iff
    list := fun scope c => Template.mergeSort_congr (hbelow scope c.basePath)
      fun _ ha _ hb => eq_of_mem_templatesBelow hs ha hb
    listed := fun scope base =>
      (List.mergeSort_perm ..).trans ((hbelow scope base).trans (List.mergeSort_perm ..).symm)
    ordered := fun scope base ht => Template.mergeSort_congr (hbelow scope base)
      fun a ha b hb => ht a (List.mem_mergeSort.2 ha) b (List.mem_mergeSort.2 hb)
    size := hentries.length_eq }

theorem Seed.Maps.catalogue_eq {f g : Catalogue} (hf : Maps xs f) (hg : Maps ys g)
    (hp : ys.Perm xs) : f = g := by
  funext i
  refine Option.ext fun t => ?_
  rw [hf, hg]
  exact exists_congr fun x => and_congr_left fun _ => hp.mem_iff.symm

end

/-- A text that is no array of seeds is told as such. Another one fills a store just when its seeds
are consistent, and then the store holds just them. Otherwise the first seed is told that is invalid
or repeats an earlier one. The same seeds in another order make up a store that reads the same, or
fail as well. -/
theorem seeding_exact (text : String) :
    ((∃ reason, Store.ofSeedText text = .error (.data reason)) ↔ ¬ ∃ xs, Seed.Listed text xs) ∧
    ∀ xs, Seed.Listed text xs →
      ((∃ s, Store.ofSeedText text = .ok s) ↔ Seed.Consistent xs) ∧
      (∀ s, Store.ofSeedText text = .ok s → s.Holds xs) ∧
      (∀ e, Store.ofSeedText text = .error e ↔ ∃ before x after, xs = before ++ x :: after ∧
        Seed.Consistent before ∧ Seed.Fault before x e) ∧
      ∀ text' ys, Seed.Listed text' ys → ys.Perm xs →
        (∃ s s', Store.ofSeedText text = .ok s ∧ Store.ofSeedText text' = .ok s' ∧
          s.SameReads s') ∨
        ∃ e e', Store.ofSeedText text = .error e ∧ Store.ofSeedText text' = .error e' := by
  refine ⟨?_, fun xs hxs => ?_⟩
  · constructor
    · rintro ⟨reason, hr⟩ ⟨xs, hxs⟩
      rw [ofSeedText_listed hxs, ofSeeds_error_iff] at hr
      obtain ⟨before, x, after, -, -, hf⟩ := hr
      cases hf
    · intro hn
      cases h : Store.readSeeds? text with
      | none => exact ⟨_, by rw [Store.ofSeedText, h]⟩
      | some xs => exact absurd ⟨xs, readSeeds?_eq_some_iff.1 h⟩ hn
  · rw [ofSeedText_listed hxs]
    refine ⟨ofSeeds_ok_iff, fun s hs => ?_, fun e => ofSeeds_error_iff, fun text' ys hys hp => ?_⟩
    · exact holds_of_maps (sound_of_ofSeeds hs) (maps_of_ofSeeds hs) (ofSeeds_ok_iff.1 ⟨s, hs⟩)
    · rw [ofSeedText_listed hys]
      cases hx : Store.ofSeeds xs with
      | ok s =>
        obtain ⟨s', hy⟩ := ofSeeds_ok_iff.2 ((ofSeeds_ok_iff.1 ⟨s, hx⟩).perm hp)
        refine .inl ⟨s, s', rfl, hy, sameReads_of_catalogue (sound_of_ofSeeds hx)
          (sound_of_ofSeeds hy) ?_⟩
        exact (maps_of_ofSeeds hx).catalogue_eq (maps_of_ofSeeds hy) hp
      | error e =>
        cases hy : Store.ofSeeds ys with
        | ok s' =>
          obtain ⟨s, hs⟩ := ofSeeds_ok_iff.2 ((ofSeeds_ok_iff.1 ⟨s', hy⟩).perm hp.symm)
          cases hx.symm.trans hs
        | error e' => exact .inr ⟨e, e', rfl, rfl⟩

/-- The same type in another channel has its own place. Of two faults the earlier is told. -/
theorem seeding_exact_repeated :
    let welcome : Template := { templateType := "welcome", locale := "en_US", body := "Hello" }
    let acme : Scope := .tenant "acme"
    let xs : List Seed := [⟨acme, .email, welcome⟩, ⟨acme, .sms, welcome⟩]
    let ys := xs ++ [⟨acme, .email, welcome⟩, ⟨acme, .push, { welcome with body := "" }⟩]
    Seed.Listed (Seed.listing xs) xs ∧ Seed.Listed (Seed.listing ys) ys ∧
      (∃ s, Store.ofSeedText (Seed.listing xs) = .ok s ∧ s.Holds xs) ∧
      Store.ofSeedText (Seed.listing ys) =
        .error (.alreadyExists "tenant:acme /identity/email/welcome (en_US)") := by
  intro welcome acme xs ys
  have hx := Seed.listed_listing xs
  have hy := Seed.listed_listing ys
  have hc : Seed.Consistent xs := ⟨by decide, by decide⟩
  obtain ⟨hok, hholds, -⟩ := (seeding_exact (Seed.listing xs)).2 xs hx
  obtain ⟨-, -, herror, -⟩ := (seeding_exact (Seed.listing ys)).2 ys hy
  obtain ⟨s, hs⟩ := hok.2 hc
  have hfault : Seed.Fault xs ⟨acme, .email, welcome⟩
      (.alreadyExists "tenant:acme /identity/email/welcome (en_US)") :=
    .repeated (by decide) ⟨_, List.mem_cons_self, rfl⟩
  exact ⟨hx, hy, ⟨s, hs, hholds s hs⟩, (herror _).2 ⟨xs, _, [_], rfl, hc, hfault⟩⟩

end Herald
