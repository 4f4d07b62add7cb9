import Herald.Proofs.Resolution.Window

/-!
# Herald.Proofs.Resolution.ReadThrough

Lists read through their caches.

* `ReadThrough`: the three courses of such a lookup: the cache has the list, or it is read and
  filled in, or the reading fails.
* `follows_cached`: there is no fourth. `follows_cached_allowed`: none of the three fills in what
  was not read.
-/

namespace Herald

open Resolution Lookup

variable {β : Type} {locales : Locales} {log : Log β}

/-- The courses of a lookup through the cache of a tier. `called` is its exchange with the store. -/
inductive ReadThrough (t : Tier) (k : t.Key) (called : Except StoreError t.Value → β → Exchange β)
    (log : Log β) : Log β → Except EngineError t.Value → Prop where
  | hit (g : Nat) (v : t.Value) (b b' : β) :
    ReadThrough t k called log (⟨.lookup t k, some v, b'⟩ :: ⟨.generation t, g, b⟩ :: log) (.ok v)
  | filled (g : Nat) (v : t.Value) (written : Bool) (b b' c b'' : β) :
    ReadThrough t k called log
      (⟨.fill t k v g, written, b''⟩ :: called (.ok v) c :: ⟨.lookup t k, none, b'⟩ ::
        ⟨.generation t, g, b⟩ :: log) (.ok v)
  | failed (g : Nat) (e : StoreError) (b b' c : β) :
    ReadThrough t k called log
      (called (.error e) c :: ⟨.lookup t k, none, b'⟩ :: ⟨.generation t, g, b⟩ :: log)
      (.error (.store e))

/-- No window on a tier of lists is open. -/
def Shut (log : Log β) : Prop := ∀ u, u ≠ .resolved → window u log = none

theorem allowed_note (log : Log β) (o : Observation) : Allowed locales log (.note o) := trivial

section

variable [Nonempty β]

theorem follows_cached {allows : Log β → Request → Prop} {t : Tier} {k : t.Key}
    {operation : String} {call : Program (Except StoreError t.Value)}
    {called : Except StoreError t.Value → β → Exchange β}
    (hnote : ∀ log o, allows log (.note o))
    (hcall : ∀ (Q : Log β → Except StoreError t.Value → Prop) log,
      (∀ x b, Q (called x b :: log) x) → call.Follows allows Q log)
    (hgeneration : allows log (.generation t))
    (hlookup : ∀ g b, allows (⟨.generation t, g, b⟩ :: log) (.lookup t k))
    (hfill : ∀ g b b' v c, allows (called (.ok v) c :: ⟨.lookup t k, none, b'⟩ ::
      ⟨.generation t, g, b⟩ :: log) (.fill t k v g)) :
    (cached t k (callStore operation call)).run.Follows allows
      (ReadThrough t k called log) log := by
  refine follows_ask.2 ⟨hgeneration, fun g b => follows_ask.2 ⟨hlookup g b, fun x b' => ?_⟩⟩
  cases x with
  | some v => exact .hit g v b b'
  | none =>
    refine follows_bind.2 ((follows_callStore hnote).2 (hcall _ _ fun x c => ?_))
    cases x with
    | error e => exact .failed g e b b' c
    | ok v =>
      exact follows_ask.2
        ⟨hfill g b b' v c, fun written b'' => .filled g v written b b' c b''⟩

/-- A list is filled in with the generation of its own window. -/
theorem follows_cached_allowed {t : Tier} {k : t.Key} {operation : String}
    {call : Program (Except StoreError t.Value)}
    {called : Except StoreError t.Value → β → Exchange β}
    (hcall : ∀ (Q : Log β → Except StoreError t.Value → Prop) log,
      (∀ x b, Q (called x b :: log) x) → call.Follows (Allowed locales) Q log)
    (hplain : ∀ x b u, (called x b).opens? u = none ∧ (called x b).closes u = false)
    (hsupports : ∀ v b b', Supports locales t k v [called (.ok v) b, ⟨.lookup t k, none, b'⟩])
    (ht : t ≠ .resolved) (hshut : Shut log) :
    (cached t k (callStore operation call)).run.Follows (Allowed locales)
      (ReadThrough t k called log) log := by
  refine follows_cached allowed_note hcall trivial (fun g b => ⟨fun u hu hr => ?_, fun h => ?_⟩)
    fun g b b' v c => ?_
  · show window u (⟨.generation t, g, b⟩ :: log) = none
    rw [window_adds (by simp [Exchange.opens?, Ne.symm hu]) rfl, hshut u hr]
    rfl
  · exact absurd h ht
  · have hw : window t (called (.ok v) c :: ⟨.lookup t k, none, b'⟩ :: ⟨.generation t, g, b⟩ ::
        log) = some ⟨g, [called (.ok v) c, ⟨.lookup t k, none, b'⟩]⟩ := by
      rw [window_adds (hplain _ _ t).1 (hplain _ _ t).2, window_adds rfl rfl,
        window_opens (g := g) (by simp [Exchange.opens?])]
      rfl
    exact ⟨_, hw, rfl, hsupports v c b'⟩

theorem follows_templateTypes {tenant : String} {channel : Channel} (hshut : Shut log) :
    (templateTypes tenant channel).run.Follows (Allowed locales)
      (ReadThrough .types ⟨tenant, channel⟩
        (fun x b => ⟨.listTemplateTypes channel.basePath tenant, x, b⟩) log) log :=
  follows_cached_allowed (fun _ _ h => ⟨trivial, h⟩) (fun _ _ _ => ⟨rfl, rfl⟩)
    (fun _ b _ => ⟨b, rfl⟩) nofun hshut

theorem follows_applicationTemplates {tenant application : String} {channel : Channel}
    (hshut : Shut log) :
    (applicationTemplates tenant application channel).run.Follows (Allowed locales)
      (ReadThrough .apps ⟨tenant, application, channel⟩
        (fun x b => ⟨.listTemplates (.application tenant application) channel.basePath, x, b⟩)
        log) log :=
  follows_cached_allowed (fun _ _ h => ⟨trivial, h⟩) (fun _ _ _ => ⟨rfl, rfl⟩)
    (fun _ b _ => ⟨b, rfl⟩) nofun hshut

theorem follows_organizationTemplates {organization : String} {application : Option String}
    {channel : Channel} (hshut : Shut log) :
    (organizationTemplates organization application channel).run.Follows (Allowed locales)
      (ReadThrough .orgs ⟨organization, application, channel⟩
        (fun x b => ⟨.listTemplates (.organization organization application) channel.basePath, x,
          b⟩) log) log :=
  follows_cached_allowed (fun _ _ h => ⟨trivial, h⟩) (fun _ _ _ => ⟨rfl, rfl⟩)
    (fun _ b _ => ⟨b, rfl⟩) nofun hshut

end

/-- A course that succeeds leaves no window open. -/
theorem ReadThrough.shut {t : Tier} {k : t.Key}
    {called : Except StoreError t.Value → β → Exchange β} {log' : Log β} {v : t.Value}
    (h : ReadThrough t k called log log' (.ok v))
    (hplain : ∀ x b u, (called x b).opens? u = none ∧ (called x b).closes u = false)
    (hshut : Shut log) : Shut log' := by
  intro u hu
  by_cases ht : t = u
  · cases h with
    | hit g v b b' => exact window_closes rfl (by simp [Exchange.closes, ht])
    | filled g v written b b' c b'' => exact window_closes rfl (by simp [Exchange.closes, ht])
  · have hg (g : Nat) (b : β) : window u (⟨.generation t, g, b⟩ :: log) = none := by
      rw [window_adds (by simp [Exchange.opens?, ht]) rfl, hshut u hu]
      rfl
    cases h with
    | hit g v b b' =>
      rw [window_adds rfl (by simp [Exchange.closes, ht]), hg]
      rfl
    | filled g v written b b' c b'' =>
      rw [window_adds rfl (by simp [Exchange.closes, ht]),
        window_adds (hplain _ _ u).1 (hplain _ _ u).2, window_adds rfl rfl, hg]
      rfl

end Herald
