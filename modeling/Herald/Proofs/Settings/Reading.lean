import Herald.Proofs.Settings.Documents

/-!
# Herald.Proofs.Settings.Reading

The settings that are read from a document.

* `texts?_exact`: the entries of a table of texts are read one by one.
* `ofValue?_shaped`: from a document of the right shape each setting is read from its own place.
* `Leaf.ext`: the settings one by one are all there is.
-/

namespace Herald.Settings

open Value

variable {v : Value} {ms : List (String × Value)}

theorem decided_of_forall {α : Type} {given : Option Value} {decode : Value → Option α}
    (h : ∀ w, given = some w → (decode w).isSome) (default : α) :
    ∃ a, decided given default decode = some a := by
  cases given with
  | none => exact ⟨default, rfl⟩
  | some w => exact Option.isSome_iff_exists.1 (h w rfl)

theorem bind_of_some {α β : Type} {x : Option α} {f : α → Option β} {a : α} {r : Option β}
    (hx : x = some a) (hf : f a = r) : x.bind f = r := by
  rw [hx, Option.bind_some, hf]

/-- The entries of a table of texts are read one by one. -/
theorem texts?_exact (h : ∀ m ∈ ms, (text? m.2).isSome) :
    ∃ ts, texts? (.table ms) = some ts ∧ ts.map Prod.fst = ms.map Prod.fst ∧
      ∀ n, ts.lookup n = (ms.lookup n).bind text? := by
  induction ms with
  | nil => exact ⟨[], rfl, rfl, fun _ => rfl⟩
  | cons m ms ih =>
    obtain ⟨hm, hms⟩ := List.forall_mem_cons.1 h
    obtain ⟨ts, hts, hnames, hlookup⟩ := ih hms
    obtain ⟨t, ht⟩ := Option.isSome_iff_exists.1 hm
    have hts : ms.mapM (fun m => (text? m.2).map (m.1, ·)) = some ts := hts
    refine ⟨(m.1, t) :: ts, ?_, ?_, fun n => ?_⟩
    · rw [texts?, List.mapM_cons, ht, hts]
      rfl
    · rw [List.map_cons, List.map_cons, hnames]
    · obtain ⟨k, w⟩ := m
      have ht : text? w = some t := ht
      rw [List.lookup_cons, List.lookup_cons]
      cases n == k with
      | true => exact ht.symm
      | false => exact hlookup n

/-- A table of texts among the settings. -/
structure Entries (v : Value) (p : List String) (ts : List (String × String)) : Prop where
  given : decided (at? (some v) p) [] texts? = some ts
  sorted : Ordered.Sorted ts
  entry : ∀ n, decided (at? (some v) (p ++ [n])) none (fun w => (text? w).map some) =
    some (ts.lookup n)

theorem at?_concat (old : Option Value) (p : List String) (n : String) :
    at? old (p ++ [n]) = (members (at? old p)).lookup n := by
  induction p generalizing old with
  | nil => rfl
  | cons m p ih => exact ih _

theorem Shaped.entries (h : Shaped v) {p : List String} (hp : p ∈ Settings.nodes)
    (ht : ∀ n w, at? (some v) (p ++ [n]) = some w → (text? w).isSome) :
    ∃ ts, Entries v p ts := by
  cases hv : at? (some v) p with
  | none =>
    refine ⟨[], by rw [hv]; rfl, List.Pairwise.nil, fun n => ?_⟩
    rw [at?_concat, hv]
    rfl
  | some w =>
    obtain ⟨ms, rfl⟩ := isTable_iff.1 (h.nodes p hp w hv)
    have ho : Orderly ms := h.proper p ms hv
    have hm : ∀ m ∈ ms, (text? m.2).isSome := by
      intro m hm
      refine ht m.1 m.2 ?_
      rw [at?_concat, hv]
      exact Ordered.lookup_of_mem ho.sorted hm
    obtain ⟨ts, hts, hnames, hlookup⟩ := texts?_exact hm
    refine ⟨ts, by rw [hv]; exact hts, ?_, fun n => ?_⟩
    · have hs : (ms.map Prod.fst).Pairwise (· < ·) := List.pairwise_map.2 ho.sorted
      rw [← hnames] at hs
      exact List.pairwise_map.1 hs
    · rw [at?_concat, hv, hlookup, members]
      cases hn : ms.lookup n with
      | none => rfl
      | some w =>
        have hw : at? (some v) (p ++ [n]) = some w := by
          rw [at?_concat, hv]
          exact hn
        obtain ⟨t, htext⟩ := Option.isSome_iff_exists.1 (ht n w hw)
        rw [Option.bind_some, htext]
        exact congrArg (Option.map some) htext

theorem Shaped.tabular (h : Shaped v) : Tabular v := by
  refine ⟨h.table, fun n hn w hw => h.nodes [n] ?_ w hw⟩
  exact List.mem_append_left _ (List.mem_map_of_mem hn)

/-- Each setting is read from its own place. -/
theorem ofValue?_shaped (h : Shaped v)
    (hd : ∀ (x : Leaf) w, at? (some v) x.place = some w → (x.decode w).isSome) :
    ∃ s, ofValue? v = some s ∧ Ordered.Sorted s.tenant.domains ∧
      Ordered.Sorted s.tenant.organizations ∧
      ∀ x : Leaf, decided (at? (some v) x.place) (x.read {}) x.decode = some (x.read s) := by
  have field (x : Leaf) := decided_of_forall (hd x) (x.read {})
  obtain ⟨defaultLocale, hlocale⟩ := field .defaultLocale
  obtain ⟨urlCharset, hcharset⟩ := field .urlCharset
  obtain ⟨cacheEnabled, hcache⟩ := field .cacheEnabled
  obtain ⟨lifetime, hlifetime⟩ := field .lifetime
  obtain ⟨seedFile, hseed⟩ := field .seedFile
  obtain ⟨passthrough, hpass⟩ := field .passthrough
  obtain ⟨telemetryEnabled, htelemetry⟩ := field .telemetryEnabled
  obtain ⟨endpoint, hendpoint⟩ := field .endpoint
  obtain ⟨serviceName, hservice⟩ := field .serviceName
  obtain ⟨samplingRatio, hratio⟩ := field .samplingRatio
  obtain ⟨domains, hdomains⟩ := h.entries (p := ["tenant", "domains"]) (by decide)
    fun n w hw => Option.isSome_map ▸ hd (.domain n) w hw
  obtain ⟨organizations, horgs⟩ := h.entries (p := ["tenant", "organizations"]) (by decide)
    fun n w hw => Option.isSome_map ▸ hd (.organization n) w hw
  refine ⟨⟨⟨defaultLocale, urlCharset⟩, ⟨cacheEnabled, lifetime⟩, ⟨seedFile⟩,
    ⟨passthrough, domains, organizations⟩,
    ⟨telemetryEnabled, endpoint, serviceName, samplingRatio⟩⟩, ?_, hdomains.sorted, horgs.sorted,
    fun x => ?_⟩
  · rw [ofValue?_eq h.tabular]
    have engine : engineOfFields? (fun n => at? (some v) ["engine", n]) = some ⟨_, _⟩ :=
      bind_of_some hlocale (bind_of_some hcharset rfl)
    have cache : cacheOfFields? (fun n => at? (some v) ["cache", n]) = some ⟨_, _⟩ :=
      bind_of_some hcache (bind_of_some hlifetime rfl)
    have store : storeOfFields? (fun n => at? (some v) ["store", n]) = some ⟨_⟩ :=
      bind_of_some hseed rfl
    have tenant : tenantOfFields? (fun n => at? (some v) ["tenant", n]) = some ⟨_, _, _⟩ :=
      bind_of_some hpass (bind_of_some hdomains.given (bind_of_some horgs.given rfl))
    have telemetry : telemetryOfFields? (fun n => at? (some v) ["otel", n]) = some ⟨_, _, _, _⟩ :=
      bind_of_some htelemetry
        (bind_of_some hendpoint (bind_of_some hservice (bind_of_some hratio rfl)))
    rw [ofPlaces?, engine, cache, store, tenant, telemetry]
    rfl
  · cases x with
    | defaultLocale => exact hlocale
    | urlCharset => exact hcharset
    | cacheEnabled => exact hcache
    | lifetime => exact hlifetime
    | seedFile => exact hseed
    | passthrough => exact hpass
    | domain n => exact hdomains.entry n
    | organization n => exact horgs.entry n
    | telemetryEnabled => exact htelemetry
    | endpoint => exact hendpoint
    | serviceName => exact hservice
    | samplingRatio => exact hratio

/-- The settings one by one are all there is. -/
theorem Leaf.ext {s t : Settings} (hs : Ordered.Sorted s.tenant.domains)
    (ht : Ordered.Sorted t.tenant.domains) (hs' : Ordered.Sorted s.tenant.organizations)
    (ht' : Ordered.Sorted t.tenant.organizations) (h : ∀ x : Leaf, x.read s = x.read t) :
    s = t := by
  have domains := Ordered.eq_of_lookup hs ht fun n => h (.domain n)
  have organizations := Ordered.eq_of_lookup hs' ht' fun n => h (.organization n)
  obtain ⟨⟨locale, charset⟩, ⟨cache, lifetime⟩, ⟨seed⟩, ⟨pass, ds, os⟩,
    ⟨telemetry, endpoint, service, ratio⟩⟩ := s
  obtain ⟨⟨locale', charset'⟩, ⟨cache', lifetime'⟩, ⟨seed'⟩, ⟨pass', ds', os'⟩,
    ⟨telemetry', endpoint', service', ratio'⟩⟩ := t
  simp only at domains organizations
  obtain rfl : locale = locale' := h .defaultLocale
  obtain rfl : charset = charset' := h .urlCharset
  obtain rfl : cache = cache' := h .cacheEnabled
  obtain rfl : lifetime = lifetime' := h .lifetime
  obtain rfl : seed = seed' := h .seedFile
  obtain rfl : pass = pass' := h .passthrough
  obtain rfl : telemetry = telemetry' := h .telemetryEnabled
  obtain rfl : endpoint = endpoint' := h .endpoint
  obtain rfl : service = service' := h .serviceName
  obtain rfl : ratio = ratio' := h .samplingRatio
  rw [domains, organizations]

end Herald.Settings
