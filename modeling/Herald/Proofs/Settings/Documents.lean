import Herald.Proofs.Settings.Merged
import Herald.Proofs.Settings.Overlay
import Mathlib.Data.List.Infix

/-!
# Herald.Proofs.Settings.Documents

Documents with settings, and stacks of them.

* `Leaf`: the settings one by one, each with its place, its form and how it is read. The entries of
  the two tables are settings of their own.
* `Shaped`: a document has tables where the settings have tables, and no table where they have none.
* `stack`: documents laid over each other. `Shaped.stack`: that has the same shape.
* `at?_stack`: of what the documents give for a setting, the last one's counts.
* `shaped_within`: a document with nothing but one value.
-/

namespace Herald.Settings

open Number Value

/-- A setting that has no settings within it. -/
inductive Leaf where
  | defaultLocale
  | urlCharset
  | cacheEnabled
  | lifetime
  | seedFile
  | passthrough
  | domain (name : String)
  | organization (tenant : String)
  | telemetryEnabled
  | endpoint
  | serviceName
  | samplingRatio

namespace Leaf

def place : Leaf → List String
  | defaultLocale => ["engine", "default_locale"]
  | urlCharset => ["engine", "url_charset"]
  | cacheEnabled => ["cache", "enabled"]
  | lifetime => ["cache", "ttl_seconds"]
  | seedFile => ["store", "seed_file"]
  | passthrough => ["tenant", "passthrough"]
  | domain name => ["tenant", "domains", name]
  | organization tenant => ["tenant", "organizations", tenant]
  | telemetryEnabled => ["otel", "enabled"]
  | endpoint => ["otel", "endpoint"]
  | serviceName => ["otel", "service_name"]
  | samplingRatio => ["otel", "sampling_ratio"]

/-- The form of a setting. Some may not be set at all. -/
abbrev Content : Leaf → Type
  | defaultLocale | urlCharset | endpoint | serviceName => String
  | cacheEnabled | passthrough | telemetryEnabled => Bool
  | lifetime => Option Nat
  | seedFile | domain _ | organization _ => Option String
  | samplingRatio => Double

/-- The value of a source in the form of the setting. -/
def decode : (x : Leaf) → Value → Option x.Content
  | defaultLocale, v | urlCharset, v | endpoint, v | serviceName, v => text? v
  | cacheEnabled, v | passthrough, v | telemetryEnabled, v => boolean? v
  | lifetime, v => optional? natural? v
  | seedFile, v => optional? text? v
  | domain _, v | organization _, v => (text? v).map some
  | samplingRatio, v => double? v

/-- The setting in the settings. -/
def read (s : Settings) : (x : Leaf) → x.Content
  | defaultLocale => s.engine.defaultLocale
  | urlCharset => s.engine.urlCharset
  | cacheEnabled => s.cache.enabled
  | lifetime => s.cache.lifetime
  | seedFile => s.store.seedFile
  | passthrough => s.tenant.passthrough
  | domain name => s.tenant.domains.lookup name
  | organization tenant => s.tenant.organizations.lookup tenant
  | telemetryEnabled => s.telemetry.enabled
  | endpoint => s.telemetry.endpoint
  | serviceName => s.telemetry.serviceName
  | samplingRatio => s.telemetry.samplingRatio

end Leaf

/-- The places at which the settings have tables. -/
def nodes : List (List String) :=
  sections.map ([·]) ++ [["tenant", "domains"], ["tenant", "organizations"]]

/-- Only tables lead to a table. -/
theorem prefix_of_node {q p : List String} (hp : p ∈ nodes) (h : q <+: p) : q = [] ∨ q ∈ nodes := by
  have all : ∀ p ∈ nodes, ∀ q ∈ p.inits, q = [] ∨ q ∈ nodes := by decide
  exact all p hp q ((List.mem_inits q p).2 h)

/-- A setting stands in a table. -/
theorem Leaf.place_eq (x : Leaf) : ∃ p ∈ nodes, ∃ n, x.place = p ++ [n] := by
  cases x with
  | domain name => exact ⟨["tenant", "domains"], by decide, name, rfl⟩
  | organization tenant => exact ⟨["tenant", "organizations"], by decide, tenant, rfl⟩
  | defaultLocale | urlCharset => exact ⟨["engine"], by decide, _, rfl⟩
  | cacheEnabled | lifetime => exact ⟨["cache"], by decide, _, rfl⟩
  | seedFile => exact ⟨["store"], by decide, _, rfl⟩
  | passthrough => exact ⟨["tenant"], by decide, _, rfl⟩
  | telemetryEnabled | endpoint | serviceName | samplingRatio =>
    exact ⟨["otel"], by decide, _, rfl⟩

theorem Leaf.place_ne_nil (x : Leaf) : x.place ≠ [] := by
  obtain ⟨p, -, n, hx⟩ := x.place_eq
  rw [hx]
  exact List.append_ne_nil_of_right_ne_nil p (List.cons_ne_nil n [])

theorem Leaf.prefix_of_place {x : Leaf} {q : List String} (h : q <+: x.place) (hne : q ≠ x.place) :
    q = [] ∨ q ∈ nodes := by
  obtain ⟨p, hp, n, hx⟩ := x.place_eq
  rw [hx] at h hne
  rcases List.prefix_concat_iff.1 h with he | h
  · exact absurd he hne
  · exact prefix_of_node hp h

/-- Tables where the settings have tables, and none where they have none. Names in the form under
which they are kept; those of the outermost table are steps of a path. -/
structure Shaped (v : Value) : Prop where
  table : v.isTable = true
  proper : Proper v
  steps : ∀ m ∈ members (some v), Path.ofKey m.1 = [.member m.1]
  nodes : ∀ q ∈ Settings.nodes, ∀ w, at? (some v) q = some w → w.isTable = true
  leaves : ∀ (x : Leaf) w, at? (some v) x.place = some w → w.isTable = false

variable {v w new : Value} {docs : List Value}

theorem Shaped.leads (h : Shaped new) {q : List String} (hq : q = [] ∨ q ∈ Settings.nodes)
    (w : Value) (hw : at? (some new) q = some w) : w.isTable = true := by
  rcases hq with rfl | hn
  · cases hw
    exact h.table
  · exact h.nodes q hn w hw

/-- A setting after a document was laid over another one. -/
theorem at?_leaf (h : Shaped new) (x : Leaf) :
    at? (some (overlay (some v) new)) x.place =
      (at? (some new) x.place).or (at? (some v) x.place) := by
  rw [at?_overlay_value h.proper fun q hq hne => h.leads (Leaf.prefix_of_place hq hne)]
  cases hw : at? (some new) x.place with
  | none => rfl
  | some w => rw [Option.map_some, overlay_of_not_table (h.leaves x w hw)]

theorem isTable_overlay {old : Option Value} (ho : ∀ w, old = some w → w.isTable = true)
    (h : new.isTable = true) : (overlay old new).isTable = true := by
  obtain ⟨ms, rfl⟩ := isTable_iff.1 h
  cases ms with
  | nil =>
    cases old with
    | none => rfl
    | some w => exact ho w rfl
  | cons m ms => rfl

theorem Shaped.overlay (hv : Shaped v) (h : Shaped new) : Shaped (overlay (some v) new) where
  table := isTable_overlay (fun w hw => Option.some.inj hw ▸ hv.table) h.table
  proper := h.proper.overlay fun w hw => Option.some.inj hw ▸ hv.proper
  steps := by
    intro m hm
    obtain ⟨ms, rfl⟩ := isTable_iff.1 h.table
    cases ms with
    | nil => exact hv.steps m hm
    | cons k ms =>
      have hn := mem_names_overlayMembers h.proper.orderly.kept (List.mem_map_of_mem hm)
      rcases hn with hn | hn
      · obtain ⟨l, hl, he⟩ := List.mem_map.1 hn
        exact he ▸ hv.steps l hl
      · obtain ⟨l, hl, he⟩ := List.mem_map.1 hn
        exact he ▸ h.steps l hl
  nodes := by
    intro q hq w hw
    have hlead : at? (some (Value.overlay (some v) new)) q =
        ((at? (some new) q).map (Value.overlay (at? (some v) q))).or (at? (some v) q) :=
      at?_overlay_value h.proper fun r hr _ => h.leads (prefix_of_node hq hr)
    rw [hlead] at hw
    cases hn : at? (some new) q with
    | none =>
      rw [hn] at hw
      exact hv.nodes q hq w hw
    | some u =>
      rw [hn] at hw
      cases hw
      exact isTable_overlay (hv.nodes q hq) (h.nodes q hq u hn)
  leaves := by
    intro x w hw
    rw [at?_leaf h] at hw
    rcases Option.or_eq_some_iff.1 hw with hw | ⟨-, hw⟩
    · exact h.leaves x w hw
    · exact hv.leaves x w hw

theorem at?_empty {p : List String} (h : p ≠ []) : at? (some (.table [])) p = none := by
  obtain ⟨n, p, rfl⟩ := List.exists_cons_of_ne_nil h
  exact at?_none p

theorem shaped_empty : Shaped (.table []) where
  table := rfl
  proper := by
    intro p ms hp
    cases p with
    | nil =>
      cases hp
      exact orderly_nil
    | cons n p => cases (at?_none p).symm.trans hp
  steps := List.forall_mem_nil _
  nodes := by
    intro p hp w hw
    have hne : p ≠ [] := by
      rintro rfl
      exact absurd hp (by decide)
    cases (at?_empty hne).symm.trans hw
  leaves x w hw := by cases (at?_empty x.place_ne_nil).symm.trans hw

/-- Documents laid over a value, the last one on top. -/
def stack (v : Value) (docs : List Value) : Value :=
  docs.foldl (fun v doc => overlay (some v) doc) v

theorem Shaped.stack (hv : Shaped v) (h : ∀ doc ∈ docs, Shaped doc) :
    Shaped (stack v docs) := by
  induction docs generalizing v with
  | nil => exact hv
  | cons doc docs ih =>
    obtain ⟨hdoc, hdocs⟩ := List.forall_mem_cons.1 h
    exact ih (hv.overlay hdoc) hdocs

/-- Of the documents that give a setting, the last one counts. -/
theorem at?_stack (h : ∀ doc ∈ docs, Shaped doc) (x : Leaf) :
    at? (some (stack v docs)) x.place =
      (docs.reverse.findSome? fun doc => at? (some doc) x.place).or (at? (some v) x.place) := by
  induction docs generalizing v with
  | nil => rfl
  | cons doc docs ih =>
    obtain ⟨hdoc, hdocs⟩ := List.forall_mem_cons.1 h
    have hrest := ih (v := overlay (some v) doc) hdocs
    rw [List.reverse_cons, List.findSome?_append, Option.or_assoc, List.findSome?_singleton,
      ← at?_leaf hdoc]
    exact hrest

/-! ## Documents with one value -/

/-- What stands in such a document: the value at its place, and tables on the way. -/
theorem at?_within (h : v.isTable = false) {p ns : List String} :
    at? (some (within v ns)) p = some w ↔ ∃ q, ns = p ++ q ∧ w = within v q := by
  induction p generalizing ns with
  | nil => simp [at?, eq_comm]
  | cons n p ih =>
    cases ns with
    | nil => simp [within, at?_of_not_table h]
    | cons m ns =>
      rw [within, at?_cons, members, List.lookup_cons]
      by_cases hm : n = m
      · subst hm
        simpa using ih
      · have hne : (n == m) = false := beq_eq_false_iff_ne.2 hm
        simp [hne, Ne.symm hm, at?_none]

theorem isTable_within (h : v.isTable = false) {q : List String} :
    (within v q).isTable = true ↔ q ≠ [] := by
  cases q with
  | nil => simp [within, h]
  | cons n q => simp [within, isTable]

/-- A document with one value that is no table, neither where the settings have tables nor within a
setting. -/
theorem shaped_within {n : String} {ns : List String} (h : v.isTable = false) (hk : Kept (n :: ns))
    (hn : Path.ofKey n = [.member n]) (hnode : n :: ns ∉ nodes)
    (hbelow : ∀ (x : Leaf) m ms, n :: ns ≠ x.place ++ m :: ms) : Shaped (within v (n :: ns)) where
  table := rfl
  proper := by
    intro p ms hp
    obtain ⟨q, hq, hw⟩ := (at?_within h).1 hp
    cases q with
    | nil =>
      cases hw
      cases h
    | cons m q =>
      cases hw
      have hm : key m = m := hk m (hq ▸ List.mem_append_right _ List.mem_cons_self)
      exact ⟨List.pairwise_singleton _ _, by simpa using hm⟩
  steps := by simpa [within, members] using hn
  nodes := by
    intro q hq w hw
    obtain ⟨r, hr, rfl⟩ := (at?_within h).1 hw
    rw [isTable_within h]
    rintro rfl
    rw [List.append_nil] at hr
    exact hnode (hr ▸ hq)
  leaves := by
    intro x w hw
    obtain ⟨r, hr, rfl⟩ := (at?_within h).1 hw
    cases r with
    | nil => exact h
    | cons m r => exact absurd hr (hbelow x m r)

/-- As the value of a place with names that can be spelled. -/
theorem shaped_within_spelled {ns : List String} (h : v.isTable = false) (hne : ns ≠ [])
    (hs : ∀ n ∈ ns, Spelled n) (hnode : ns ∉ nodes)
    (hbelow : ∀ (x : Leaf) m ms, ns ≠ x.place ++ m :: ms) : Shaped (within v ns) := by
  obtain ⟨n, ns, rfl⟩ := List.exists_cons_of_ne_nil hne
  have hn : Path.ofKey n = [.member n] := by
    have hj := Path.ofKey_joined (List.cons_ne_nil n []) (by simpa using hs n List.mem_cons_self)
    simpa [Path.joined] using hj
  exact shaped_within h (kept_of_spelled hs) hn hnode hbelow

theorem Leaf.two_le_length (x : Leaf) : 2 ≤ x.place.length := by
  cases x <;> simp [place]

theorem at?_within_place (h : v.isTable = false) {ns : List String} {x : Leaf}
    (hbelow : ∀ m ms, ns ≠ x.place ++ m :: ms) :
    at? (some (within v ns)) x.place = if ns = x.place then some v else none := by
  split
  case isTrue hx => exact (at?_within h).2 ⟨[], by rw [hx, List.append_nil], rfl⟩
  case isFalse hx =>
    rw [Option.eq_none_iff_forall_ne_some]
    intro w hw
    obtain ⟨q, hq, -⟩ := (at?_within h).1 hw
    cases q with
    | nil => exact hx (by rw [hq, List.append_nil])
    | cons m q => exact hbelow m q hq

end Herald.Settings
