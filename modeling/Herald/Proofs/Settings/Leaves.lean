import Herald.Proofs.Settings.Places

/-!
# Herald.Proofs.Settings.Leaves

Settings from what stands at their places.

* `Settings.ofPlaces?`: the settings, each from its place.
* `places`: these places. `ofPlaces?_congr`: nothing else is looked at.
* `ofValue?_eq`: a table of tables is read that way.
-/

namespace Herald.Settings

open Value

/-- A setting from what is given for it, if anything is. -/
def decided {α : Type} (given : Option Value) (default : α) (decode : Value → Option α) :
    Option α :=
  given.elim (some default) decode

section

variable (f : String → Option Value)

def engineOfFields? : Option EngineSettings := do
  let d : EngineSettings := {}
  return { defaultLocale := ← decided (f "default_locale") d.defaultLocale text?
           urlCharset := ← decided (f "url_charset") d.urlCharset text? }

def cacheOfFields? : Option CacheSettings := do
  return { enabled := ← decided (f "enabled") true boolean?
           lifetime := ← decided (f "ttl_seconds") none (optional? natural?) }

def storeOfFields? : Option StoreSettings := do
  return { seedFile := ← decided (f "seed_file") none (optional? text?) }

def tenantOfFields? : Option TenantSettings := do
  return { passthrough := ← decided (f "passthrough") true boolean?
           domains := ← decided (f "domains") [] texts?
           organizations := ← decided (f "organizations") [] texts? }

def telemetryOfFields? : Option TelemetrySettings := do
  let d : TelemetrySettings := {}
  return { enabled := ← decided (f "enabled") d.enabled boolean?
           endpoint := ← decided (f "endpoint") d.endpoint text?
           serviceName := ← decided (f "service_name") d.serviceName text?
           samplingRatio := ← decided (f "sampling_ratio") d.samplingRatio double? }

end

/-- The settings, if `f` tells what stands at each place. -/
def ofPlaces? (f : List String → Option Value) : Option Settings := do
  return { engine := ← engineOfFields? fun n => f ["engine", n]
           cache := ← cacheOfFields? fun n => f ["cache", n]
           store := ← storeOfFields? fun n => f ["store", n]
           tenant := ← tenantOfFields? fun n => f ["tenant", n]
           telemetry := ← telemetryOfFields? fun n => f ["otel", n] }

/-- The places of all settings. -/
def places : List (List String) :=
  [["engine", "default_locale"], ["engine", "url_charset"], ["cache", "enabled"],
    ["cache", "ttl_seconds"], ["store", "seed_file"], ["tenant", "passthrough"],
    ["tenant", "domains"], ["tenant", "organizations"], ["otel", "enabled"], ["otel", "endpoint"],
    ["otel", "service_name"], ["otel", "sampling_ratio"]]

theorem ofPlaces?_congr {f g : List String → Option Value} (h : ∀ p ∈ places, f p = g p) :
    ofPlaces? f = ofPlaces? g := by
  simp only [places, List.forall_mem_cons] at h
  simp only [ofPlaces?, engineOfFields?, cacheOfFields?, storeOfFields?, tenantOfFields?,
    telemetryOfFields?, h]

/-- The names of the sections. -/
def sections : List String := ["engine", "cache", "store", "tenant", "otel"]

/-- A table of which the sections are tables. -/
def Tabular (v : Value) : Prop :=
  v.isTable = true ∧ ∀ n ∈ sections, ∀ w, at? (some v) [n] = some w → w.isTable = true

theorem field_eq {α : Type} (fs : List (String × Value)) (n : String) (default : α)
    (decode : Value → Option α) :
    field fs n default decode = decided (fs.lookup n) default decode := by
  cases h : fs.lookup n <;> simp [field, decided, h]

/-- A section that is a table or is not given. -/
theorem field_section {α : Type} {ms : List (String × Value)} {n : String} {default : α}
    {d : Value → Option α} {g : (String → Option Value) → Option α}
    (hd : ∀ fs, d (.table fs) = g fun m => fs.lookup m) (h0 : g (fun _ => none) = some default)
    (ht : ∀ w, at? (some (.table ms)) [n] = some w → w.isTable = true) :
    field ms n default d = g fun m => at? (some (.table ms)) [n, m] := by
  simp only [at?, members] at ht ⊢
  rw [field_eq]
  cases h : ms.lookup n with
  | none => exact h0.symm
  | some w =>
    cases w with
    | table fs => exact hd fs
    | _ => cases ht _ h

theorem ofValue?_eq {v : Value} (h : Tabular v) : ofValue? v = ofPlaces? (at? (some v)) := by
  obtain ⟨hv, hs⟩ := h
  cases v with
  | table ms =>
    simp only [sections, List.forall_mem_cons, List.not_mem_nil, false_implies, forall_const] at hs
    obtain ⟨engine, cache, store, tenant, telemetry, -⟩ := hs
    have he := field_section (g := engineOfFields?) (d := engineOfValue?)
      (fun fs => by simp only [engineOfValue?, fields?, field_eq]; rfl) rfl engine
    have hc := field_section (g := cacheOfFields?) (d := cacheOfValue?)
      (fun fs => by simp only [cacheOfValue?, fields?, field_eq]; rfl) rfl cache
    have hst := field_section (g := storeOfFields?) (d := storeOfValue?)
      (fun fs => by simp only [storeOfValue?, fields?, field_eq]; rfl) rfl store
    have ht := field_section (g := tenantOfFields?) (d := tenantOfValue?)
      (fun fs => by simp only [tenantOfValue?, fields?, field_eq]; rfl) rfl tenant
    have ho := field_section (g := telemetryOfFields?) (d := telemetryOfValue?)
      (fun fs => by simp only [telemetryOfValue?, fields?, field_eq]; rfl) rfl telemetry
    simp only [ofValue?, fields?, ofPlaces?, ← he, ← hc, ← hst, ← ht, ← ho]
    rfl
  | _ => cases hv

end Herald.Settings
