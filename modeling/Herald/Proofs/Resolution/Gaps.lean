import Herald.Proofs.Cache.Clock
import Herald.Proofs.Resolution.Scene

/-!
# Herald.Proofs.Resolution.Gaps

What a lookup does to the caches, if nothing in them grows old: it fills gaps.

* `Lookup.FillsGaps`: a lookup fills in only what it has missed, of the resolved lookups only its
  own. The lemmas named `fillsGaps_` say so of each lookup.
* `Caches.Lasting`: the caches are in use, and no time is too long for an entry.
* `Caches.Filled`: caches beside which others have nothing more than some gaps filled.
* `Scene.Filling`: what a scene and the exchanges with it have in common. `Filling.answer`: every
  step of a lookup keeps it. `Scene.filled_perform`: so a lookup leaves every entry in its place.
-/

namespace Herald

open Resolution Lookup

variable {α β : Type} {key : Option TemplateKey}

/-! ## Lookups -/

/-- The keys that may be filled in: every list, and the one resolved lookup that is wanted. -/
def Tier.Wanted (key : Option TemplateKey) : (t : Tier) → t.Key → Prop
  | .resolved, k => key = some k
  | _, _ => True

/-- What may be asked after some exchanges: a key is filled in only after it was missed. -/
def Due (key : Option TemplateKey) (log : Log Unit) : Request → Prop
  | .fill t k _ _ => t.Wanted key k ∧ ⟨.lookup t k, none, ()⟩ ∈ log
  | _ => True

theorem due_note (log : Log Unit) (o : Observation) : Due key log (.note o) := trivial

/-- A lookup fills in only what it has missed. -/
def Lookup.FillsGaps (key : Option TemplateKey) (l : Lookup α) : Prop :=
  ∀ log : Log Unit, l.run.Follows (Due key) (fun _ _ => True) log

theorem fillsGaps_pure {a : α} : (pure a : Lookup α).FillsGaps key := fun _ => trivial

theorem Lookup.FillsGaps.bind {l : Lookup β} {f : β → Lookup α} (hl : l.FillsGaps key)
    (hf : ∀ a, (f a).FillsGaps key) : (l >>= f).FillsGaps key := by
  refine fun log => follows_bind.2 ((hl log).imp fun log' r _ => ?_)
  cases r with
  | ok a => exact hf a log'
  | error e => trivial

theorem fillsGaps_callStore {operation : String} {call : Program (Except StoreError α)}
    (h : ∀ log, call.Follows (Due key) (fun _ _ => True) log) :
    (callStore operation call).FillsGaps key :=
  fun log => (follows_callStore due_note).2 (h log)

/-- A key is filled in right after it was missed. -/
theorem fillsGaps_cached {t : Tier} {k : t.Key} {read : Lookup t.Value} (hk : t.Wanted key k)
    (hread : read.FillsGaps key) : (cached t k read).FillsGaps key := by
  refine fun log => follows_ask.2 ⟨trivial, fun g b => follows_ask.2 ⟨trivial, fun x b' => ?_⟩⟩
  cases x with
  | some v => trivial
  | none =>
    refine follows_bind.2 (((hread _).and (Program.follows_mem List.mem_cons_self)).imp
      fun log' r hr => ?_)
    cases r with
    | ok v => exact follows_ask.2 ⟨⟨hk, hr.2⟩, fun _ _ => trivial⟩
    | error e => trivial

theorem fillsGaps_templateTypes {tenant : String} {channel : Channel} :
    (templateTypes tenant channel).FillsGaps key :=
  fillsGaps_cached trivial (fillsGaps_callStore fun _ => ⟨trivial, fun _ _ => trivial⟩)

theorem fillsGaps_applicationTemplates {tenant application : String} {channel : Channel} :
    (applicationTemplates tenant application channel).FillsGaps key :=
  fillsGaps_cached trivial (fillsGaps_callStore fun _ => ⟨trivial, fun _ _ => trivial⟩)

theorem fillsGaps_organizationTemplates {organization : String} {application : Option String}
    {channel : Channel} : (organizationTemplates organization application channel).FillsGaps key :=
  fillsGaps_cached trivial (fillsGaps_callStore fun _ => ⟨trivial, fun _ _ => trivial⟩)

section

variable {k : TemplateKey}

theorem fillsGaps_look (p : Probe) : (p.look k).FillsGaps key := by
  cases p with
  | row scope locale => exact fillsGaps_callStore fun _ => ⟨trivial, fun _ _ => trivial⟩
  | listed scope locale =>
    cases scope with
    | tenant => exact fillsGaps_pure
    | application =>
      exact fillsGaps_applicationTemplates.bind fun _ => fillsGaps_pure
    | organization =>
      exact fillsGaps_organizationTemplates.bind fun _ => fillsGaps_pure
  | membership => exact fillsGaps_pure

theorem fillsGaps_probe (level : Precedence) (organization : Option String) (locale : String) :
    (probe level k organization locale).FillsGaps key := by
  rw [probe_eq_look]
  induction k.probesAt level organization locale with
  | nil => exact fillsGaps_pure
  | cons p ps ih =>
    refine (fillsGaps_look p).bind fun found => ?_
    cases found with
    | none => exact ih
    | some t => exact fillsGaps_pure

theorem fillsGaps_accept {level : Precedence} {locale : String} {t : Template} :
    (accept k level locale t).FillsGaps key := fun _ => (follows_accept due_note).2 trivial

theorem fillsGaps_search {known : Option (Option String)} {steps : List (String × Precedence)} :
    (search k known steps).FillsGaps key := by
  induction steps generalizing known with
  | nil => exact fillsGaps_pure
  | cons step steps ih =>
    obtain ⟨locale, level⟩ := step
    have later (known : Option (Option String)) :
        (searchOn k known locale level steps).FillsGaps key := by
      refine (fillsGaps_probe level known.join locale).bind fun found => ?_
      cases found with
      | none => exact ih
      | some t => exact fun log => follows_map.2 (fillsGaps_accept log)
    rcases search_cases k known locale level steps with ⟨-, h⟩ | ⟨rfl, rfl, h⟩
    · exact h ▸ later known
    · have asked : (ofExcept (.request (.organizationOf k.tenant))).FillsGaps key :=
        fun _ => ⟨trivial, fun _ _ => trivial⟩
      exact h ▸ asked.bind fun organization => later (some organization)

theorem fillsGaps_resolveKey {locales : Locales} : (resolveKey locales k).FillsGaps (some k) := by
  refine fun log => follows_ask.2 ⟨trivial, fun g b => follows_ask.2 ⟨trivial, fun x b' => ?_⟩⟩
  cases x with
  | some t => simp only [follows_bind, follows_note, follows_pure, due_note, true_and]
  | none =>
    rw [follows_bind, follows_lift]
    refine ((fillsGaps_search _).and (Program.follows_mem List.mem_cons_self)).imp
      fun log' r hr => ?_
    exact follows_conclude due_note (fun t _ => ⟨⟨rfl, hr.2⟩, fun _ _ => trivial⟩) trivial

end

theorem fillsGaps_resolve {locales : Locales} {tenant : String} {application : Option String}
    {channel : Channel} {templateType raw : String} :
    (resolve locales tenant application channel templateType raw).FillsGaps
      (some (keyFor locales tenant application channel templateType raw)) := by
  intro log
  rw [resolve, follows_inSpan due_note, follows_bind, follows_lift, follows_notes due_note]
  exact fillsGaps_resolveKey log

/-! ## Caches -/

namespace Caches

/-- The value that the caches have for a key, whatever its age. -/
def value? (c : Caches) (t : Tier) (k : t.Key) : Option t.Value := (c.tier t).value? k

/-- All caches are in use, and no time is too long for an entry. -/
def Lasting (c : Caches) : Prop := ∀ t, (c.tier t).enabled = true ∧ (c.tier t).lifetime = none

variable {c c' : Caches} {t : Tier} {k : t.Key} {v : t.Value} {now g : Nat}

theorem lasting_new : (new true none).Lasting := by
  intro t
  cases t <;> exact ⟨rfl, rfl⟩

theorem Lasting.fill (h : c.Lasting) : (c.onTier t (·.fill now k v g)).state.Lasting := by
  have hm := (c.tier t).fill_make now k v g
  exact onTier_forall (R := fun _ x => x.enabled = true ∧ x.lifetime = none) h
    ⟨hm.enabled.trans (h t).1, hm.lifetime.trans (h t).2⟩

theorem withTier_tier (c : Caches) (t : Tier) : c.withTier t (c.tier t) = c := by
  cases t <;> rfl

/-- Looking up tells what is there, and changes nothing. -/
theorem Lasting.get (h : c.Lasting) (t : Tier) (k : t.Key) (now : Nat) :
    (c.onTier t (·.get now k)).answer = c.value? t k ∧ (c.onTier t (·.get now k)).state = c := by
  obtain ⟨ha, hs⟩ := Cache.get_eq (h t).1 (h t).2 now k
  refine ⟨ha, ?_⟩
  show c.withTier t ((c.tier t).get now k).state = c
  rw [hs, withTier_tier]

/-- What is filled in without an invalidation before is there. -/
theorem Lasting.value?_fill (h : c.Lasting) (hg : g = (c.tier t).generation) :
    (c.onTier t (·.fill now k v g)).state.value? t k = some v := by
  rw [value?, onTier_tier_self, Cache.fill_state (h t).1, if_pos hg, Cache.value?_put (h t).1,
    if_pos rfl]

/-- Filling in changes no other key. -/
theorem Lasting.value?_fill_ne (h : c.Lasting) {u : Tier} {l : u.Key}
    (hne : (⟨u, l⟩ : (t : Tier) × t.Key) ≠ ⟨t, k⟩) :
    (c.onTier t (·.fill now k v g)).state.value? u l = c.value? u l := by
  by_cases hu : u = t
  · subst hu
    have hl : l ≠ k := fun he => hne (by rw [he])
    rw [value?, onTier_tier_self, Cache.fill_state (h u).1]
    split
    · rw [Cache.value?_put (h u).1, if_neg hl]
      rfl
    · rfl
  · rw [value?, onTier_tier_ne hu]
    rfl

/-- Other caches have what these have, and beside that only gaps filled. -/
structure Filled (key : Option TemplateKey) (c c' : Caches) : Prop where
  lasting : c'.Lasting
  generation : ∀ t, (c'.tier t).generation = (c.tier t).generation
  value : ∀ t k, c'.value? t k = c.value? t k ∨ t.Wanted key k ∧ c.value? t k = none

namespace Filled

theorem refl (h : c.Lasting) : c.Filled key c := ⟨h, fun _ => rfl, fun _ _ => .inl rfl⟩

theorem fill (h : c.Filled key c') (hk : t.Wanted key k) (hn : c.value? t k = none) :
    c.Filled key (c'.onTier t (·.fill now k v g)).state where
  lasting := h.lasting.fill
  generation u := (onTier_generation Cache.fill_generation u).trans (h.generation u)
  value u l := by
    by_cases hl : (⟨u, l⟩ : (t : Tier) × t.Key) = ⟨t, k⟩
    · cases hl
      exact .inr ⟨hk, hn⟩
    · rw [h.lasting.value?_fill_ne hl]
      exact h.value u l

theorem kept (h : c.Filled key c') (hv : c.value? t k = some v) : c'.value? t k = some v := by
  rcases h.value t k with he | ⟨-, hn⟩
  · exact he.trans hv
  · rw [hn] at hv
    cases hv

theorem missed (h : c.Filled key c') (hn : c'.value? t k = none) : c.value? t k = none := by
  rcases h.value t k with he | ⟨-, hn⟩
  · exact he.symm.trans hn
  · exact hn

end Filled

end Caches

/-! ## Scenes -/

/-- What a scene and a lookup have in common, if there were the caches `c` when it began. -/
structure Scene.Filling (key : Option TemplateKey) (c : Caches) (s : Scene) (log : Log Unit) :
    Prop where
  filled : c.Filled key s.caches
  missed : ∀ t k, ⟨.lookup t k, none, ()⟩ ∈ log → c.value? t k = none

namespace Scene.Filling

variable {c : Caches} {s s' : Scene} {log : Log Unit}

theorem add {x : Exchange Unit} (h : s.Filling key c log) (hs : c.Filled key s'.caches)
    (hx : ∀ t k, x.request ≠ .lookup t k) : s'.Filling key c (x :: log) where
  filled := hs
  missed t k hk := by
    rcases List.mem_cons.1 hk with hk | hk
    · exact absurd (congrArg Exchange.request hk.symm) (hx t k)
    · exact h.missed t k hk

/-- A miss tells of a gap that was there from the beginning. -/
theorem lookup (h : s.Filling key c log) (t : Tier) (k : t.Key) :
    let reply := s.ofCaches (s.caches.onTier t (·.get (s.time s.asked) k))
    reply.state.Filling key c (⟨.lookup t k, reply.answer, ()⟩ :: log) := by
  intro reply
  obtain ⟨ha, hs⟩ := h.filled.lasting.get t k (s.time s.asked)
  refine ⟨?_, fun u l hl => ?_⟩
  · show c.Filled key (s.caches.onTier t (·.get (s.time s.asked) k)).state
    rw [hs]
    exact h.filled
  · rcases List.mem_cons.1 hl with hl | hl
    · have hr : Request.lookup u l = .lookup t k := congrArg Exchange.request hl
      cases hr
      have hn : reply.answer = none := by
        injection hl with _ hn
        exact hn.symm
      exact h.filled.missed (ha.symm.trans hn)
    · exact h.missed u l hl

/-- Every step of a lookup keeps it. -/
theorem answer {r : Request} (hr : Due key log r) (h : s.Filling key c log) :
    (Scene.answer r s).state.Filling key c (log.record r (Scene.answer r s).answer ()) := by
  cases r with
  | generation t => exact h.add h.filled nofun
  | lookup t k => exact h.lookup t k
  | fill t k v g => exact h.add (h.filled.fill hr.1 (h.missed t k hr.2)) nofun
  | note o => exact h
  | _ => exact h.add h.filled nofun

end Scene.Filling

/-- A lookup leaves every entry in its place, and fills nothing but gaps. -/
theorem Scene.filled_perform {l : Lookup α} {s : Scene} (hl : l.FillsGaps key)
    (hs : s.caches.Lasting) : s.caches.Filled key (s.perform l).state.caches := by
  have start : s.Filling key s.caches [] := ⟨.refl hs, fun _ _ hk => by cases hk⟩
  obtain ⟨log, h, -⟩ := (hl []).run (b := ()) (fun _ _ _ hr h => h.answer hr) start
  exact h.filled

end Herald
