import Herald.Proofs.Cache.Targets
import Herald.Proofs.Observation.Tally

/-!
# Herald.Proofs.Observation.Figures

How the statistics and the counters of lookups hang together.

* `Figures`: the figures of a course, given how many lookups it has, how many of them fell back to
  the default locale, and which calls it made of the store.
* `Figures.append`, `Figures.perm`: figures add up, in whatever order things happen.
* `Observation.loud`: what the figures of lookups are made of; `figures_of_marks`: the rest does
  not matter to them.
-/

namespace Herald

open Observation

namespace Observation

def timed? : Observation → Option String
  | .timed operation => some operation
  | _ => none

/-- The calls of the store whose time was taken, by their operations. -/
def timings (os : List Observation) : List String := os.filterMap timed?

@[simp] theorem timings_nil : timings [] = [] := rfl

@[simp] theorem timings_append (os os' : List Observation) :
    timings (os ++ os') = timings os ++ timings os' := List.filterMap_append

/-- The labels under which the end of a lookup is counted. -/
def outcomeLabels : List String :=
  ["cache", "tenant", "application", "organization", "not_found", "error"]

/-- Whether an observation counts in the figures of lookups, those of the store apart. -/
def loud : Observation → Bool
  | .statistic s => s ≠ .storeQueries
  | .counted c label _ =>
    c = .resolutions || c = .localeFallbacks ||
      (c = .cacheHits || c = .cacheMisses) && label = Tier.resolved.label
  | _ => false

variable {p : Observation → Bool} {os : List Observation}

theorem statisticCount_filter {s : Statistic} (h : p (.statistic s) = true) :
    statisticCount s (os.filter p) = statisticCount s os := by
  rw [statisticCount, List.countP_filter]
  refine List.countP_congr fun o _ => ?_
  by_cases ho : o = .statistic s <;> simp [ho, h]

theorem tally_filter {c : Counter} {label : String} (h : ∀ n, p (.counted c label n) = true) :
    tally c label (os.filter p) = tally c label os := by
  induction os with
  | nil => rfl
  | cons o os ih =>
    by_cases hp : p o = true
    · rw [List.filter_cons_of_pos hp, tally_cons, tally_cons, ih]
    · have hz : movement c label o = 0 := by
        cases o with
        | counted c' label' n =>
          refine if_neg fun he => hp ?_
          rw [he.1, he.2, h]
        | _ => rfl
      rw [List.filter_cons_of_neg hp, tally_cons, ih, hz, Nat.zero_add]

theorem total_filter {c : Counter} (h : ∀ label n, p (.counted c label n) = true) :
    total c (os.filter p) = total c os := by
  induction os with
  | nil => rfl
  | cons o os ih =>
    by_cases hp : p o = true
    · rw [List.filter_cons_of_pos hp, total_cons, total_cons, ih]
    · have hz : movementOfAny c o = 0 := by
        cases o with
        | counted c' label' n =>
          refine if_neg fun he => hp ?_
          rw [he, h]
        | _ => rfl
      rw [List.filter_cons_of_neg hp, total_cons, ih, hz, Nat.zero_add]

end Observation

/-- The figures of a course with `n` lookups, of which `m` fell back to the default locale, and with
some calls of the store. -/
structure Figures (enabled : Bool) (os : List Observation) (n m : Nat) (calls : List String) :
    Prop where
  lookups : statisticCount .lookups os = n
  resolutions : total .resolutions os = n
  /-- No outcome has another label. -/
  outcomes : (outcomeLabels.map fun label => tally .resolutions label os).sum = n
  recalled : statisticCount .cacheHits os = tally .resolutions "cache" os
  hits : tally .cacheHits Tier.resolved.label os = tally .resolutions "cache" os
  misses : enabled = true →
    statisticCount .cacheHits os + tally .cacheMisses Tier.resolved.label os = n
  disabled : enabled = false →
    tally .cacheHits Tier.resolved.label os = 0 ∧ tally .cacheMisses Tier.resolved.label os = 0
  missing : statisticCount .notFound os = tally .resolutions "not_found" os
  fallbacks : statisticCount .localeFallbacks os = m
  counted : total .localeFallbacks os = m
  queries : statisticCount .storeQueries os = calls.length
  timings : (timings os).Perm calls

namespace Figures

variable {enabled : Bool} {os os' : List Observation} {n n' m m' : Nat} {calls calls' : List String}

theorem nil : Figures enabled [] 0 0 [] := by
  constructor <;> simp [outcomeLabels]

theorem append (h : Figures enabled os n m calls) (h' : Figures enabled os' n' m' calls') :
    Figures enabled (os ++ os') (n + n') (m + m') (calls ++ calls') := by
  constructor
  · rw [statisticCount_append, h.lookups, h'.lookups]
  · rw [total_append, h.resolutions, h'.resolutions]
  · have ho := h.outcomes
    have ho' := h'.outcomes
    simp only [outcomeLabels, List.map_cons, List.map_nil, List.sum_cons, List.sum_nil,
      tally_append] at *
    omega
  · rw [statisticCount_append, tally_append, h.recalled, h'.recalled]
  · rw [tally_append, tally_append, h.hits, h'.hits]
  · intro he
    have hm := h.misses he
    have hm' := h'.misses he
    rw [statisticCount_append, tally_append]
    omega
  · intro he
    obtain ⟨hh, hm⟩ := h.disabled he
    obtain ⟨hh', hm'⟩ := h'.disabled he
    rw [tally_append, tally_append, hh, hm, hh', hm']
    exact ⟨rfl, rfl⟩
  · rw [statisticCount_append, tally_append, h.missing, h'.missing]
  · rw [statisticCount_append, h.fallbacks, h'.fallbacks]
  · rw [total_append, h.counted, h'.counted]
  · rw [statisticCount_append, List.length_append, h.queries, h'.queries]
  · rw [timings_append]
    exact h.timings.append h'.timings

/-- Only what is loud matters, but for the calls of the store. -/
theorem congr (h : Figures enabled os n m calls)
    (hs : ∀ s, s ≠ .storeQueries → statisticCount s os' = statisticCount s os)
    (ht : ∀ c label, (∀ n, loud (.counted c label n) = true) →
      tally c label os' = tally c label os)
    (ha : ∀ c, (∀ label n, loud (.counted c label n) = true) → total c os' = total c os)
    (hq : statisticCount .storeQueries os' = calls'.length)
    (hc : (Observation.timings os').Perm calls') : Figures enabled os' n m calls' := by
  have houtcome (label : String) := ht .resolutions label fun _ => rfl
  have hhits := ht .cacheHits Tier.resolved.label fun _ => rfl
  have hmisses := ht .cacheMisses Tier.resolved.label fun _ => rfl
  constructor
  · rw [hs .lookups nofun, h.lookups]
  · rw [ha _ fun _ _ => rfl, h.resolutions]
  · simp only [houtcome, h.outcomes]
  · rw [hs .cacheHits nofun, houtcome, h.recalled]
  · rw [hhits, houtcome, h.hits]
  · rw [hs .cacheHits nofun, hmisses]
    exact h.misses
  · rw [hhits, hmisses]
    exact h.disabled
  · rw [hs .notFound nofun, houtcome, h.missing]
  · rw [hs .localeFallbacks nofun, h.fallbacks]
  · rw [ha _ fun _ _ => rfl, h.counted]
  · exact hq
  · exact hc

theorem perm (h : Figures enabled os n m calls) (hp : os'.Perm os) :
    Figures enabled os' n m calls := by
  have hs (s : Statistic) : statisticCount s os' = statisticCount s os := hp.countP_eq _
  refine h.congr (fun s _ => hs s) (fun c label _ => (hp.map _).sum_nat)
    (fun c _ => (hp.map _).sum_nat) ((hs _).trans h.queries) ?_
  exact (hp.filterMap _).trans h.timings

/-- A course whose loud part has the figures of some lookups, and whose calls are entered. -/
theorem of_marks (h : Figures enabled (os.filter loud) n m [])
    (hq : statisticCount .storeQueries os = calls.length)
    (hc : (Observation.timings os).Perm calls) : Figures enabled os n m calls := by
  refine h.congr (fun s hs => ?_) (fun c label hl => (tally_filter hl).symm)
    (fun c hl => (total_filter hl).symm) hq hc
  have hl : loud (.statistic s) = true := by simpa [loud] using hs
  exact (statisticCount_filter hl).symm

/-- What is observed of neither lookups nor the store has no figures. -/
theorem of_unheard
    (h : ∀ o ∈ os, loud o = false ∧ o ≠ .statistic .storeQueries ∧ o.timed? = none) :
    Figures enabled os 0 0 [] := by
  have hf : os.filter loud = [] := List.filter_eq_nil_iff.2 fun o ho => by simp [(h o ho).1]
  have hq : statisticCount .storeQueries os = 0 :=
    List.countP_eq_zero.2 fun o ho => by simp [(h o ho).2.1]
  have ht : Observation.timings os = [] := List.filterMap_eq_nil_iff.2 fun o ho => (h o ho).2.2
  exact .of_marks (hf ▸ .nil) hq (ht ▸ .refl [])

end Figures

end Herald
