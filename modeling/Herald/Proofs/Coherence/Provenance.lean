import Herald.Proofs.Coherence.State
import Herald.Proofs.Resolution.Reads

/-!
# Herald.Proofs.Coherence.Provenance

What entries are derived from.

* `Exchange.Honest`: what an exchange tells is what its label says.
* `Founded`: an entry is what the readings in its origin come to. `Founded.value`: if those readings
  tell of no row that has changed since, it is what its key stands for.
-/

namespace Herald

open Resolution

theorem Exchange.tells_of_recalls {β : Type} {x : Exchange β} (h : x.recalls = true) :
    x.tells = true := by
  obtain ⟨r, a, b⟩ := x
  cases r with
  | lookup t k =>
    cases a with
    | none => cases h
    | some v => rfl
  | _ => cases h

theorem Exchange.closes_of_recalls {β : Type} {x : Exchange β} (h : x.recalls = true) :
    x.closes .resolved = true := by
  obtain ⟨r, a, b⟩ := x
  cases r with
  | lookup t k =>
    cases a with
    | none => cases h
    | some v => exact h
  | _ => cases h

variable {locales : Locales} {d : Directory}

/-- What an exchange tells is what its label says. -/
inductive Exchange.Honest (locales : Locales) (d : Directory) (x : Exchange (List Reading)) :
    Prop where
  /-- It tells of one reading of the store, its own or that behind a list in the caches. -/
  | told (rd : Reading) (hl : x.label = [rd]) (ht : x.tells = true)
    (hc : x.consults? = some rd.request) (hf : x.Fits (· = ·) locales (.of rd.store d))
  | plain (hl : x.label = []) (ht : x.tells = false) (hf : ∀ s, x.Fits (· = ·) locales (.of s d))
  | recalled (h : x.recalls = true)

/-- What an entry is derived from bears it out. -/
def Founded (locales : Locales) (d : Directory) (t : Tier) (k : t.Key) (v : t.Value)
    (origin : List Reading) : Prop :=
  ∃ log : Log (List Reading), Supports locales t k v log ∧
    (∀ x ∈ log, x.Honest locales d ∧ x.recalls = false) ∧ origin = log.flatMap Exchange.label

/-- Only exchanges that tell something carry readings. -/
theorem flatMap_label {log : Log (List Reading)}
    (h : ∀ x ∈ log, x.Honest locales d ∧ x.recalls = false) :
    log.flatMap Exchange.label = (log.filter Exchange.tells).flatMap Exchange.label := by
  induction log with
  | nil => rfl
  | cons x log ih =>
    obtain ⟨hx, hlog⟩ := List.forall_mem_cons.1 h
    rw [List.flatMap_cons, ih hlog]
    cases ht : x.tells with
    | true => rw [List.filter_cons_of_pos ht, List.flatMap_cons]
    | false =>
      have hl : x.label = [] := by
        cases hx.1 with
        | told rd hl ht' => rw [ht] at ht'; cases ht'
        | plain hl => exact hl
        | recalled h => rw [h] at hx; cases hx.2
      rw [List.filter_cons_of_neg (by simp [ht]), hl, List.nil_append]

/-- What is filled in after honest exchanges is founded on their readings. -/
theorem Supports.founded {t : Tier} {k : t.Key} {v : t.Value} {log : Log (List Reading)}
    {w : Window (List Reading)} (hw : window t log = some w)
    (hs : Supports locales t k v w.exchanges) (hx : ∀ x ∈ log, x.Honest locales d) :
    Founded locales d t k v (log.derivation t) := by
  refine ⟨w.exchanges, hs, fun x hm => ⟨hx x (mem_of_window hw x hm), ?_⟩, ?_⟩
  · cases hr : x.recalls with
    | false => rfl
    | true =>
      cases hq : t.source? k with
      | some q =>
        obtain ⟨y, hy, -, -, hn, -⟩ := hs.called hq
        have hm : x ∈ w.exchanges.filter Exchange.tells :=
          List.mem_filter.2 ⟨hm, Exchange.tells_of_recalls hr⟩
        rw [hy, List.mem_singleton] at hm
        rw [← hr, hm, hn]
      | none =>
        cases t with
        | resolved =>
          have hc := closes_of_window hw x hm
          rw [Exchange.closes_of_recalls hr] at hc
          cases hc
        | _ => cases hq
  · rw [Log.derivation, hw]

section

variable {t : Tier} {k : t.Key} {v : t.Value} {origin : List Reading}

/-- A list is derived from one reading, that of its own call. -/
theorem Founded.list {q : Request} (h : Founded locales d t k v origin)
    (hq : t.source? k = some q) :
    ∃ rd, origin = [rd] ∧ rd.request = q ∧ (Host.of rd.store d).value locales t k = .ok v := by
  obtain ⟨log, hs, hx, rfl⟩ := h
  obtain ⟨x, hf, hc, -, hn, hv⟩ := hs.called hq
  have hm : x ∈ log.filter Exchange.tells := hf ▸ List.mem_singleton_self x
  obtain ⟨hm, ht⟩ := List.mem_filter.1 hm
  rw [flatMap_label hx, hf, List.flatMap_singleton]
  cases (hx x hm).1 with
  | told rd hl _ hr hfit => exact ⟨rd, hl, Option.some.inj (hr.symm.trans hc), hv _ hfit⟩
  | plain _ ht' => rw [ht] at ht'; cases ht'
  | recalled h => rw [hn] at h; cases h

/-- An exchange in the search for a key is true to another store as well, if the rows that it tells
of are the same there, of those that the key goes by. -/
theorem fits_congr {β : Type} {x : Exchange β} {key : TemplateKey} {q : Request} {s s' : Store}
    (hs : s.Sound) (hs' : s'.Sound) (hi : key.Involves x.request) (ht : x.tells = true)
    (hn : x.recalls = false) (hc : x.consults? = some q)
    (hr : ∀ r, q.Covers r → Tier.resolved.Reads key r → s.rows.get? r = s'.rows.get? r)
    (hf : x.Fits (· = ·) locales (.of s d)) :
    x.Fits (SameFor key.templateType) locales (.of s' d) := by
  have same {scope : Scope} {v : List Template} (hq : q = .listTemplates scope key.channel.basePath)
      (hi : key.Involves q) (hv : s.listTemplates scope key.channel.basePath = v) :
      SameFor key.templateType (s'.listTemplates scope key.channel.basePath) v := by
    subst hq
    subst hv
    refine sameFor_listTemplates hs' hs fun l ht => ?_
    have hc : (Request.listTemplates scope key.channel.basePath).Covers ⟨scope, key.path, l⟩ :=
      ⟨rfl, isBelow_templatePath.2 ⟨rfl, ht⟩⟩
    exact (hr _ hc ⟨rfl, _, hi, hc⟩).symm
  obtain ⟨r, a, b⟩ := x
  cases r with
  | getTemplate scope path locale =>
    cases hc
    exact (congrArg Except.ok (hr ⟨scope, path, locale⟩ rfl ⟨hi.2, _, hi, rfl⟩)).symm.trans hf
  | listTemplates scope path =>
    cases hc
    obtain rfl : path = key.channel.basePath := hi.1
    cases a with
    | error e => exact hf
    | ok v => exact same rfl hi hf
  | lookup u l =>
    cases a with
    | none => cases ht
    | some v =>
      cases u with
      | types => exact hi.elim
      | apps =>
        obtain ⟨tenant, application, channel⟩ := l
        obtain ⟨rfl, happ, rfl⟩ := hi
        cases hc
        exact same rfl ⟨rfl, .inl ⟨_, happ, rfl⟩⟩ hf
      | orgs =>
        obtain ⟨organization, application, channel⟩ := l
        obtain rfl : channel = key.channel := hi
        cases hc
        exact same rfl ⟨rfl, .inr ⟨_, _, rfl⟩⟩ hf
      | resolved => cases hn
  | listTemplateTypes path tenant => exact hi.elim
  | _ => cases ht

/-- If none of the rows have changed that a key goes by, of those that its entry is derived from,
the entry is what the key stands for. -/
theorem Founded.value {s : Store} (h : Founded locales d t k v origin) (hs : s.Sound)
    (ho : ∀ rd ∈ origin, rd.store.Sound)
    (hr : ∀ rd ∈ origin, ∀ r, rd.request.Covers r → t.Reads k r →
      rd.store.rows.get? r = s.rows.get? r) :
    (Host.of s d).value locales t k = .ok v := by
  cases hq : t.source? k with
  | some q =>
    obtain ⟨rd, rfl, rfl, hv⟩ := h.list hq
    have hm := List.mem_singleton_self rd
    rw [← hv]
    exact value_congr hs (ho rd hm) (fun r hk => (hr rd hm r ((Tier.reads_iff hq).1 hk) hk).symm)
      fun _ _ => rfl
  | none =>
    cases t with
    | resolved =>
      obtain ⟨log, hs', hx, rfl⟩ := h
      refine hs'.2.2 _ fun x hm => ?_
      cases (hx x hm).1 with
      | told rd hl ht hc hf =>
        have hm' : rd ∈ log.flatMap Exchange.label :=
          List.mem_flatMap.2 ⟨x, hm, hl ▸ List.mem_singleton_self rd⟩
        exact fits_congr (ho rd hm') hs (hs'.1 x hm) ht (hx x hm).2 hc (hr rd hm') hf
      | plain _ _ hf =>
        have ha : Agrees (· = ·) locales (.of s d) [x] := List.forall_mem_singleton.2 (hf s)
        exact ha.same x (List.mem_singleton_self x)
      | recalled h => rw [(hx x hm).2] at h; cases h
    | _ => cases hq

end

end Herald
