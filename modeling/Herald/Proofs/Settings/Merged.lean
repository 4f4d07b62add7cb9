import Herald.Proofs.Settings.Leaves
import Herald.Proofs.Settings.Names

/-!
# Herald.Proofs.Settings.Merged

One setting over the defaults.

* `lay`: values laid over each other, each at its place. `at?_lay`: the last one at a place stands
  there.
* `base`: the defaults. `leaf_base`: what stands where in them.
* `merge_single`: what the sources give together if they give one setting.
-/

namespace Herald.Settings

open Value

/-- Neither place is within the other. -/
def Apart (p q : List String) : Prop := ¬ p <+: q ∧ ¬ q <+: p

instance (p q : List String) : Decidable (Apart p q) := inferInstanceAs (Decidable (_ ∧ _))

theorem apart_of_ne {p q : List String} (hl : p.length = q.length) (h : p ≠ q) (r : List String) :
    Apart (p ++ r) q := by
  refine ⟨fun hp => ?_, fun hq => ?_⟩
  · exact h (((List.prefix_append p r).trans hp).eq_of_length hl)
  · have hqp : q <+: p := List.prefix_of_prefix_length_le hq (List.prefix_append p r) (by omega)
    exact h (hqp.eq_of_length hl.symm).symm

/-- Values laid over each other, each at its place. -/
def lay (v : Value) (given : List (List String × Value)) : Value :=
  given.foldl (fun v g => overlay (some v) (within g.2 g.1)) v

@[simp] theorem applyLayer_nil (v : Value) : applyLayer v [] = some v := rfl

theorem applyLayer_eq {given : List (List String × Value)}
    (h : ∀ g ∈ given, g.1 ≠ [] ∧ ∀ n ∈ g.1, Spelled n) (v : Value) :
    applyLayer v (given.map fun g => (Path.joined g.1, g.2)) = some (lay v given) := by
  induction given generalizing v with
  | nil => rfl
  | cons g given ih =>
    obtain ⟨hg, hn⟩ := h g List.mem_cons_self
    rw [applyLayer, List.map_cons, List.foldlM_cons, Path.ofKey_joined hg hn, setPath_member]
    exact ih (fun k hk => h k (List.mem_cons_of_mem _ hk)) _

/-- Of the values at a place the last one stands there, if all others are laid elsewhere. -/
theorem at?_lay {v : Value} {given : List (List String × Value)} {p : List String}
    (h : ∀ g ∈ given, Kept g.1 ∧ g.2.isTable = false ∧ (g.1 = p ∨ Apart g.1 p)) :
    at? (some (lay v given)) p = (given.reverse.lookup p).or (at? (some v) p) := by
  induction given generalizing v with
  | nil => simp [lay]
  | cons g given ih =>
    obtain ⟨q, w⟩ := g
    obtain ⟨hk, ht, hp⟩ := h (q, w) List.mem_cons_self
    have hi := @ih (overlay (some v) (within w q)) fun k hk => h k (List.mem_cons_of_mem _ hk)
    rw [List.reverse_cons, List.lookup_append, Option.or_assoc]
    refine hi.trans (congrArg _ ?_)
    rcases hp with rfl | ⟨hq, hp⟩
    · have ho := @at?_overlay (some v) w _ [] hk
      rw [List.append_nil, within, overlay_of_not_table ht] at ho
      simp [ho]
    · have hne : (p == q) = false := beq_eq_false_iff_ne.2 fun he => hq (he ▸ List.prefix_rfl)
      simp [List.lookup_cons, hne, at?_overlay_apart hk hq hp]

theorem Tabular.overlay {v w : Value} {n m : String} {ns : List String} (h : Tabular v)
    (hn : key n = n) : Tabular (overlay (some v) (within w (n :: m :: ns))) := by
  refine ⟨rfl, fun k hk x hx => ?_⟩
  rw [overlay_cons, hn, at?, members, Ordered.lookup_insert] at hx
  split at hx
  · cases hx
    rfl
  · exact h.2 k hk x hx

theorem Tabular.lay {v : Value} {given : List (List String × Value)} (h : Tabular v)
    (hg : ∀ g ∈ given, Kept g.1 ∧ 2 ≤ g.1.length) : Tabular (lay v given) := by
  induction given generalizing v with
  | nil => exact h
  | cons g given ih =>
    obtain ⟨q, w⟩ := g
    obtain ⟨hk, hl⟩ := hg (q, w) List.mem_cons_self
    refine ih ?_ fun k hk => hg k (List.mem_cons_of_mem _ hk)
    match q, hk, hl with
    | n :: m :: ns, hk, _ => exact h.overlay (hk n List.mem_cons_self)

/-- The defaults that are known from the start, at their places. -/
def known : List (List String × Value) :=
  let d : Settings := {}
  [(["engine", "default_locale"], .text d.engine.defaultLocale),
    (["engine", "url_charset"], .text d.engine.urlCharset),
    (["cache", "enabled"], .boolean d.cache.enabled),
    (["tenant", "passthrough"], .boolean d.tenant.passthrough),
    (["otel", "enabled"], .boolean d.telemetry.enabled)]

/-- What the defaults give together. -/
def base : Value := lay (.table []) known

theorem spelled_known : ∀ g ∈ known, g.1 ≠ [] ∧ ∀ n ∈ g.1, Spelled n := by
  simp only [known, List.forall_mem_cons, List.not_mem_nil, false_implies, forall_const]
  decide +kernel

theorem applyLayer_defaults : applyLayer (.table []) defaults = some base := by
  have hd : defaults = known.map fun g => (Path.joined g.1, g.2) := by
    simp only [defaults, known, List.map_cons, List.map_nil]
    congr
  rw [hd]
  exact applyLayer_eq spelled_known _

theorem kept_of_spelled {ns : List String} (h : ∀ n ∈ ns, Spelled n) : Kept ns :=
  fun n hn => (h n hn).key_eq

theorem tabular_base : Tabular base := by
  refine Tabular.lay ⟨rfl, fun n _ w hw => ?_⟩ fun g hg =>
    ⟨kept_of_spelled (spelled_known g hg).2, ?_⟩
  · cases hw
  · revert g
    simp [known]

/-- What stands where in the defaults. -/
theorem at?_base {q : List String} (hq : q ∈ places) :
    at? (some base) q = known.reverse.lookup q := by
  have ht : ∀ g ∈ known, g.2.isTable = false := by simp [known, isTable]
  have hp : ∀ g ∈ known, g.1 = q ∨ Apart g.1 q := by
    revert q
    simp only [known, List.forall_mem_cons, List.not_mem_nil, false_implies, forall_const]
    decide +kernel
  have hn : at? (some (.table [])) q = none := by
    cases q with
    | nil => revert hq; decide
    | cons n ns => exact at?_none ns
  rw [base, at?_lay fun g hg => ⟨kept_of_spelled (spelled_known g hg).2, ht g hg, hp g hg⟩, hn,
    Option.or_none]

theorem applyLayer_within {n : String} (hn : Spelled n) (v w : Value) (ns : List String) :
    applyLayer v [(n, within w ns)] = some (Value.overlay (some v) (within w (n :: ns))) := by
  have hp : Path.joined [n] = n := by simp [Path.joined]
  have hl := @applyLayer_eq [([n], within w ns)] (by simpa using hn) v
  rw [List.map_cons, List.map_nil, hp] at hl
  exact hl

/-- What the sources give together, if it is one setting. -/
theorem merge_single {sources : List (List (String × Value))} {n : String} {ns : List String}
    {w : Value} (h : sources.foldlM applyLayer (.table []) = some (within w (n :: ns)))
    (hn : Spelled n) : merge sources = some (Value.overlay (some base) (within w (n :: ns))) := by
  have hm : applyLayer base (members (some (within w (n :: ns)))) = _ :=
    applyLayer_within hn base w ns
  rw [merge, h]
  simp [applyLayer_defaults, hm]

end Herald.Settings
