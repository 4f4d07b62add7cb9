import Herald.Proofs.Resolution.Reads

/-!
# Herald.Proofs.Cache.ByPath

Writes told by the path that was written.

* `Channel.Leads`: the paths under a channel. `Channel.leads_unique`: no path is under two.
* `Channel.ofPath_eq_ok_iff`, `ofPath_eq_error_iff`: what paths are read as a channel.
* `Change.ofPath_eq_ok_iff`, `ofPath_eq_error_iff`: what paths are read as a change, and how the
  others fail.
* `path_tells_change`: paths and changes are two forms of one thing.
-/

namespace Herald

/-- The path leads to the channel: it is its base path, or it goes on from there. -/
def Channel.Leads (c : Channel) (path : String) : Prop :=
  path = c.basePath ∨ ∃ rest, path = c.templatePath rest

namespace Channel

variable {c d : Channel} {p : String}

theorem owns_basePath : d.owns c.basePath = (d = c : Bool) := by
  cases c <;> cases d <;> rfl

theorem owns_of_leads (h : c.Leads p) : d.owns p = (d = c : Bool) := by
  rcases h with rfl | ⟨rest, rfl⟩
  · exact owns_basePath
  · exact owns_templatePath

theorem leads_of_owns (h : c.owns p = true) : c.Leads p := by
  unfold owns at h
  split at h
  · next ha =>
    have hp : p.toList = c.basePath.toList := by simpa using Text.after?_eq_some_iff.1 ha
    exact .inl (String.toList_inj.1 hp)
  · next rest ha =>
    refine .inr ⟨String.ofList rest, String.toList_inj.1 ?_⟩
    rw [toList_templatePath, String.toList_ofList]
    exact Text.after?_eq_some_iff.1 ha
  · cases h

theorem leads_unique (hc : c.Leads p) (hd : d.Leads p) : c = d := by
  have h : decide (c = c) = decide (c = d) := (owns_of_leads hc).symm.trans (owns_of_leads hd)
  exact of_decide_eq_true (h.symm.trans (decide_eq_true rfl))

theorem owns_of_ofPath? (h : ofPath? p = some c) : c.owns p = true :=
  List.find?_some (p := fun d : Channel => d.owns p) h

/-- A path is read as the channel that it leads to. -/
theorem ofPath_eq_ok_iff : ofPath p = .ok c ↔ c.Leads p := by
  constructor
  · intro h
    unfold ofPath at h
    split at h
    · next d hf =>
      cases h
      exact leads_of_owns (owns_of_ofPath? hf)
    · cases h
  · intro h
    have hf : ofPath? p = some c := by
      cases c <;> simp [ofPath?, all, owns_of_leads h]
    rw [ofPath, hf]

theorem ofPath_eq_error_iff {e : EngineError} :
    ofPath p = .error e ↔
      (∀ c : Channel, ¬ c.Leads p) ∧ e = .invalidChannel ("unknown template path " ++ p) := by
  constructor
  · intro h
    refine ⟨fun c hc => ?_, ?_⟩
    · rw [ofPath_eq_ok_iff.2 hc] at h
      cases h
    · unfold ofPath at h
      split at h
      · cases h
      · exact (Except.error.inj h).symm
  · rintro ⟨hn, rfl⟩
    cases h : ofPath p with
    | ok c => exact (hn c (ofPath_eq_ok_iff.1 h)).elim
    | error e =>
      unfold ofPath at h
      split at h
      · cases h
      · rw [← h]

theorem below?_eq_some_iff {a : String} : c.below? p = some a ↔ p = c.templatePath a := by
  constructor
  · intro h
    unfold below? at h
    split at h
    · next rest ha =>
      cases h
      refine String.toList_inj.1 ?_
      rw [toList_templatePath, String.toList_ofList]
      exact Text.after?_eq_some_iff.1 ha
    · cases h
  · rintro rfl
    simp [below?, toList_templatePath]

end Channel

namespace Change

variable {scope : Scope} {p : String}

/-- What follows the channel has to be one segment. -/
theorem ofPath_of_leads {c : Channel} (h : c.Leads p) :
    (∃ a, IsSegment a ∧ p = c.templatePath a ∧ ofPath scope p = .ok ⟨scope, c, a⟩) ∨
      (∀ a, IsSegment a → p ≠ c.templatePath a) ∧
        ofPath scope p = .error (.invalidTemplate ("No template type in path " ++ p)) := by
  by_cases hs : ∃ a, IsSegment a ∧ p = c.templatePath a
  · obtain ⟨a, ha, rfl⟩ := hs
    exact .inl ⟨a, ha, rfl, ofPath_templatePath ha⟩
  · have hn : ∀ a, IsSegment a → p ≠ c.templatePath a := fun a ha hp => hs ⟨a, ha, hp⟩
    refine .inr ⟨hn, ?_⟩
    simp only [ofPath, Channel.ofPath_eq_ok_iff.2 h, bind, Except.bind]
    split
    · next a hb =>
      have ha : a = "" ∨ '/' ∈ a.toList := by
        have hc : ¬ IsSegment a := fun hc => hn a hc (Channel.below?_eq_some_iff.1 hb)
        rw [IsSegment, Decidable.not_and_iff_not_or_not] at hc
        exact hc.imp Decidable.not_not.1 Decidable.not_not.1
      simp [ha]
    · rfl

theorem ofPath_cases (scope : Scope) (p : String) :
    (∃ c a, IsSegment a ∧ p = c.templatePath a ∧ ofPath scope p = .ok ⟨scope, c, a⟩) ∨
      ((∀ c : Channel, ¬ c.Leads p) ∧
        ofPath scope p = .error (.invalidChannel ("unknown template path " ++ p))) ∨
      (∃ c : Channel, c.Leads p) ∧ (∀ (c : Channel) a, IsSegment a → p ≠ c.templatePath a) ∧
        ofPath scope p = .error (.invalidTemplate ("No template type in path " ++ p)) := by
  by_cases hl : ∃ c : Channel, c.Leads p
  · obtain ⟨c, hc⟩ := hl
    rcases ofPath_of_leads hc with ⟨a, ha, hp, hok⟩ | ⟨hn, he⟩
    · exact .inl ⟨c, a, ha, hp, hok⟩
    · refine .inr (.inr ⟨⟨c, hc⟩, fun d a ha hp => ?_, he⟩)
      cases Channel.leads_unique hc (.inr ⟨a, hp⟩)
      exact hn a ha hp
  · have hn : ∀ c : Channel, ¬ c.Leads p := fun c hc => hl ⟨c, hc⟩
    refine .inr (.inl ⟨hn, ?_⟩)
    simp only [ofPath, Channel.ofPath_eq_error_iff.2 ⟨hn, rfl⟩, bind, Except.bind]

variable {change : Change} {m : String}

theorem ofPath_eq_ok_iff :
    ofPath scope p = .ok change ↔
      change.channel.templatePath change.templateType = p ∧ change.scope = scope ∧
        IsSegment change.templateType := by
  constructor
  · intro h
    rcases ofPath_cases scope p with ⟨c, a, ha, hp, hok⟩ | ⟨-, he⟩ | ⟨-, -, he⟩
    · cases h.symm.trans hok
      exact ⟨hp.symm, rfl, ha⟩
    · cases h.symm.trans he
    · cases h.symm.trans he
  · rintro ⟨rfl, rfl, ha⟩
    exact ofPath_templatePath ha

theorem ofPath_eq_invalidChannel_iff :
    ofPath scope p = .error (.invalidChannel m) ↔
      (∀ c : Channel, ¬ c.Leads p) ∧ m = "unknown template path " ++ p := by
  rcases ofPath_cases scope p with ⟨c, a, ha, hp, h⟩ | ⟨hn, h⟩ | ⟨⟨c, hc⟩, -, h⟩
  · rw [h]
    exact ⟨fun he => (nomatch he), fun hn => (hn.1 c (.inr ⟨a, hp⟩)).elim⟩
  · rw [h]
    constructor
    · intro he
      cases he
      exact ⟨hn, rfl⟩
    · rintro ⟨-, rfl⟩
      rfl
  · rw [h]
    exact ⟨fun he => (nomatch he), fun hn => (hn.1 c hc).elim⟩

theorem ofPath_eq_invalidTemplate_iff :
    ofPath scope p = .error (.invalidTemplate m) ↔
      (∃ c : Channel, c.Leads p) ∧ (∀ (c : Channel) a, IsSegment a → p ≠ c.templatePath a) ∧
        m = "No template type in path " ++ p := by
  rcases ofPath_cases scope p with ⟨c, a, ha, hp, h⟩ | ⟨hn, h⟩ | ⟨hl, hn, h⟩
  · rw [h]
    exact ⟨fun he => (nomatch he), fun hn => (hn.2.1 c a ha hp).elim⟩
  · rw [h]
    exact ⟨fun he => (nomatch he), fun hl => hl.1.elim fun c hc => (hn c hc).elim⟩
  · rw [h]
    constructor
    · intro he
      cases he
      exact ⟨hl, hn, rfl⟩
    · rintro ⟨-, -, rfl⟩
      rfl

end Change

/-- Paths and changes are two forms of one thing. A change is read back from its path just if its
type is one segment, as those of valid templates are; and what is read from a path has that path.
Paths outside all channels and paths without a type fail, each in its own way. So a write that is
reported by its path removes from the caches what the change removes. -/
theorem path_tells_change :
    (∀ scope (c : Channel) a,
      Change.ofPath scope (c.templatePath a) = .ok ⟨scope, c, a⟩ ↔ IsSegment a) ∧
    (∀ t : Template, t.valid = true → IsSegment t.templateType) ∧
    (∀ (c : Channel) a, Channel.ofPath (c.templatePath a) = .ok c) ∧
    (∀ scope p change, Change.ofPath scope p = .ok change →
      change.channel.templatePath change.templateType = p ∧ change.scope = scope) ∧
    (∀ scope p m, Change.ofPath scope p = .error (.invalidChannel m) ↔
      (∀ c : Channel, p ≠ c.basePath ∧ ∀ rest, p ≠ c.basePath ++ "/" ++ rest) ∧
        m = "unknown template path " ++ p) ∧
    (∀ scope p m, Change.ofPath scope p = .error (.invalidTemplate m) ↔
      (∃ c : Channel, p = c.basePath ∨ ∃ rest, p = c.basePath ++ "/" ++ rest) ∧
        (∀ (c : Channel) a, IsSegment a → p ≠ c.templatePath a) ∧
        m = "No template type in path " ++ p) ∧
    (∀ (c d : Channel) a b, c.templatePath a = d.templatePath b → c = d ∧ a = b) ∧
    (∀ (caches : Caches) change, IsSegment change.templateType →
      (Change.ofPath change.scope (change.channel.templatePath change.templateType)).map
        caches.apply = .ok (caches.apply change)) ∧
    ∀ (caches : Caches) (s : Store) (m : Mutation), s.Sound → m.apply s ≠ s →
      (Change.ofPath m.change.scope m.rowKey.path).map caches.apply =
        .ok (caches.apply m.change) := by
  refine ⟨?_, ?_, ?_, ?_, ?_, ?_, ?_, ?_, ?_⟩
  · exact fun scope c a => ⟨fun h => (Change.ofPath_eq_ok_iff.1 h).2.2, ofPath_templatePath⟩
  · intro t ht
    exact isSegment_of_valid (Option.isNone_iff_eq_none.1 ht)
  · exact fun c a => Channel.ofPath_eq_ok_iff.2 (.inr ⟨a, rfl⟩)
  · intro scope p change h
    obtain ⟨hp, hs, -⟩ := Change.ofPath_eq_ok_iff.1 h
    exact ⟨hp, hs⟩
  · intro scope p m
    simp only [Change.ofPath_eq_invalidChannel_iff, Channel.Leads, Channel.templatePath, not_or,
      not_exists, ne_eq]
  · intro scope p m
    exact Change.ofPath_eq_invalidTemplate_iff
  · exact fun c d a b => templatePath_inj
  · intro caches change ha
    rw [ofPath_templatePath ha]
    rfl
  · intro caches s m hs hm
    rw [ofPath_change hs hm]
    rfl

end Herald
