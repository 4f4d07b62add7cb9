import Herald.Proofs.Json.Literal
import Herald.Proofs.Settings.Arrival
import Herald.Proofs.Settings.Merged

/-!
# Herald.Proofs.Settings.Verbatim

How the settings arrive that are texts.

* `TextSetting`: these settings and their places.
* `ofValue?_single`: the settings of which one is given.
* `load_variable`, `load_file`: it is given by a variable, or by a file.
* `text_setting_arrives`: a file gives every text as it is, a variable only a text that is no other
  spelling of a truth value or a number.
-/

namespace Herald.Settings

open Number Value

theorem isTable_of_text? {w : Value} {s : String} (h : text? w = some s) : w.isTable = false := by
  cases w with
  | table ms => cases h
  | _ => rfl

/-- The settings that are texts: some fields, and the entries of two tables. -/
inductive TextSetting where
  | defaultLocale
  | urlCharset
  | seedFile
  | domain (name : String)
  | organization (tenant : String)
  | endpoint
  | serviceName

namespace TextSetting

/-- The place of the field. -/
def field : TextSetting → List String
  | defaultLocale => ["engine", "default_locale"]
  | urlCharset => ["engine", "url_charset"]
  | seedFile => ["store", "seed_file"]
  | domain _ => ["tenant", "domains"]
  | organization _ => ["tenant", "organizations"]
  | endpoint => ["otel", "endpoint"]
  | serviceName => ["otel", "service_name"]

/-- The name within the field. -/
def entry : TextSetting → List String
  | domain name => [name]
  | organization tenant => [tenant]
  | _ => []

def place (x : TextSetting) : List String := x.field ++ x.entry

theorem place_ne_nil (x : TextSetting) : x.place ≠ [] := by
  cases x <;> simp [place, field]

/-- The settings of which only this one is given. -/
def settings (x : TextSetting) (s : String) : Settings :=
  match x with
  | defaultLocale => { engine := { defaultLocale := s } }
  | urlCharset => { engine := { urlCharset := s } }
  | seedFile => { store := { seedFile := some s } }
  | domain name => { tenant := { domains := [(name, s)] } }
  | organization tenant => { tenant := { organizations := [(tenant, s)] } }
  | endpoint => { telemetry := { endpoint := s } }
  | serviceName => { telemetry := { serviceName := s } }

/-- The files, if there is one of settings that gives this one. -/
def files (x : TextSetting) (s : String) : String → Option String := fun file =>
  if file = "config/default.json" then some (Json.compact (Json.nest s x.place)) else none

/-- The entry has a name that can be spelled. -/
def IsSpelled (x : TextSetting) : Prop := ∀ n ∈ x.entry, Spelled n

variable {x : TextSetting} {w : Value} {s : String}

theorem field_mem (x : TextSetting) : x.field ∈ places := by
  cases x <;> simp only [field] <;> decide

theorem spelled_place (hx : x.IsSpelled) : ∀ n ∈ x.place, Spelled n := by
  have hf : ∀ n ∈ x.field, Spelled n := by cases x <;> simp only [field] <;> decide +kernel
  intro n hn
  exact (List.mem_append.1 hn).elim (hf n) (hx n)

/-- Over the defaults, the setting stands in its field and all others are as they were. -/
theorem at?_single (hx : x.IsSpelled) (hw : w.isTable = false) {q : List String} (hq : q ∈ places) :
    at? (some (overlay (some base) (within w x.place))) q =
      if q = x.field then some (within w x.entry) else known.reverse.lookup q := by
  have hk := kept_of_spelled (spelled_place hx)
  have hf : Kept x.field := fun n hn => hk n (List.mem_append_left _ hn)
  have he : x.entry = [] ∨ known.reverse.lookup x.field = none := by
    cases x <;> simp [entry, field, known, List.lookup_cons]
  have two : ∀ p ∈ places, p.length = 2 := by decide
  split
  · next h =>
    subst h
    rw [place, at?_overlay hf, at?_base hq]
    rcases he with he | he
    · rw [he, within, overlay_of_not_table hw]
    · rw [he, overlay_empty hw (fun n hn => hk n (List.mem_append_right _ hn)) rfl]
  · next h =>
    have hl : x.field.length = q.length := (two _ x.field_mem).trans (two q hq).symm
    obtain ⟨hp, hq'⟩ := apart_of_ne hl (Ne.symm h) x.entry
    rw [at?_overlay_apart hk hp hq', at?_base hq]

theorem tabular_single (hx : x.IsSpelled) : Tabular (overlay (some base) (within w x.place)) := by
  obtain ⟨n, m, ns, hp⟩ : ∃ n m ns, x.place = n :: m :: ns := by
    cases x <;> exact ⟨_, _, _, rfl⟩
  have hn := (spelled_place hx n (hp ▸ List.mem_cons_self)).key_eq
  exact hp ▸ tabular_base.overlay hn

theorem ofValue?_single (hx : x.IsSpelled) (hw : text? w = some s) :
    ofValue? (overlay (some base) (within w x.place)) = some (x.settings s) := by
  have ht := isTable_of_text? hw
  have ho : optional? text? w = some (some s) := by
    cases w with
    | nothing => cases hw
    | _ => exact congrArg (Option.map some) hw
  have hb (b : Bool) : boolean? (.boolean b) = some b := rfl
  have hs (s : String) : text? (.text s) = some s := rfl
  have hd (n : String) : texts? (.table [(n, w)]) = some [(n, s)] := by simp [texts?, hw]
  rw [ofValue?_eq (tabular_single hx), ofPlaces?_congr fun q hq => at?_single hx ht hq]
  cases x <;>
    simp [ofPlaces?, engineOfFields?, cacheOfFields?, storeOfFields?, tenantOfFields?,
      telemetryOfFields?, decided, field, entry, settings, within, known, List.lookup_cons, hw, ho, hb,
      hs, hd]

/-- Sources that give one setting and nothing else. -/
theorem settings_of_given (hx : x.IsSpelled) (hw : text? w = some s)
    {sources : List (List (String × Value))}
    (h : sources.foldlM applyLayer (.table []) = some (within w x.place)) :
    (merge sources).bind ofValue? = some (x.settings s) := by
  obtain ⟨n, ns, hp⟩ : ∃ n ns, x.place = n :: ns := by cases x <;> exact ⟨_, _, rfl⟩
  have hn := spelled_place hx n (hp ▸ List.mem_cons_self)
  have hv := ofValue?_single hx hw
  rw [hp] at h hv
  rw [merge_single h hn, Option.bind_some, hv]

end TextSetting

section

variable {x : TextSetting}

theorem TextSetting.settings_inj {s t : String} (h : x.settings s = x.settings t) : s = t := by
  cases x <;> simpa [settings] using h

theorem load_eq {env : Environment.Variables} {files : String → Option String}
    {sources : List (List (String × Value))} {s : Settings} (he : files ".env" = none)
    (hl : layers env files = .ok sources) (hs : (merge sources).bind ofValue? = some s) :
    load env files = .ok s := by
  obtain ⟨v, hm, hv⟩ := Option.bind_eq_some_iff.1 hs
  simp only [load, fullEnvironment, he, ofSources, hl, hm, hv, bind, Except.bind]
  rfl

theorem fileLayer_none (name : String) : fileLayer (fun _ => none) name = .ok [] := by
  simp [fileLayer, fileText?]

/-- If only the variable of a setting is set. -/
theorem load_variable (hx : x.IsSpelled) {name : String} (hn : Environment.Named x.place name)
    {v t : String} (ht : text? (Environment.value v) = some t) :
    load [(name, v)] (fun _ => none) = .ok (x.settings t) := by
  have hk : Environment.key? name = some (Path.joined x.place) := by
    refine Environment.key?_of_named (TextSetting.spelled_place hx) ?_ hn
    cases x <;> simp [TextSetting.place, TextSetting.field, TextSetting.entry]
  have he : Environment.settings [(name, v)] = [(Path.joined x.place, Environment.value v)] := by
    simp [Environment.settings, hk, Ordered.insertAll, Ordered.insert]
  have hl : layers [(name, v)] (fun _ => none) =
      .ok [[], [], [(Path.joined x.place, Environment.value v)]] := by
    simp only [layers, fileLayer_none, he]
    rfl
  have hs : ∀ n ∈ x.place, Spelled n := TextSetting.spelled_place hx
  have hg : applyLayer (.table []) [(Path.joined x.place, Environment.value v)] =
      some (overlay (some (.table [])) (within (Environment.value v) x.place)) :=
    @applyLayer_eq [(x.place, Environment.value v)]
      (by simpa using ⟨TextSetting.place_ne_nil x, hs⟩) (.table [])
  rw [overlay_empty (isTable_of_text? ht) (kept_of_spelled hs) rfl] at hg
  exact load_eq rfl hl (TextSetting.settings_of_given hx ht (by simp [hg]))

theorem ofJson_nest (s : String) (ns : List String) :
    Value.ofJson (Json.nest s ns) = within (.text s) ns := by
  induction ns with
  | nil => rfl
  | cons n ns ih =>
    simp [Json.nest, Value.ofJson, Value.ofMembers, Ordered.insertAll, Ordered.insert, within, ih]

/-- Of a file with one setting, its section is read. -/
theorem fileLayer_nest {files : String → Option String} {name n v : String} {ns : List String}
    (hf : fileText? files name = some (Json.compact (Json.nest v (n :: ns))))
    (hl : (n :: ns).length ≤ Json.maxDepth) :
    fileLayer files name = .ok [(n, within (.text v) ns)] := by
  simp [fileLayer, hf, (Json.textual_nest v (n :: ns)).read?_compact, Json.sound_nest v hl,
    Json.canonical_nest, ofJson_nest, within]

/-- If only a file of settings gives the setting. -/
theorem load_file (hx : x.IsSpelled) (v : String) : load [] (x.files v) = .ok (x.settings v) := by
  have hs : ∀ n ∈ x.place, Spelled n := TextSetting.spelled_place hx
  obtain ⟨n, ns, hp⟩ : ∃ n ns, x.place = n :: ns := by cases x <;> exact ⟨_, _, rfl⟩
  have hl : layers [] (x.files v) = .ok [[(n, within (.text v) ns)], [], []] := by
    have hlen : (n :: ns).length ≤ Json.maxDepth := by
      rw [← hp]
      cases x <;> simp [TextSetting.place, TextSetting.field, TextSetting.entry, Json.maxDepth]
    have given : fileText? (x.files v) (modeFile "default") =
        some (Json.compact (Json.nest v (n :: ns))) := by
      have hd : withEnding? (modeFile "default") = some "config/default.json" := by decide +kernel
      have hn : modeFile "default" ≠ "config/default.json" := by decide +kernel
      simp [fileText?, TextSetting.files, hn, hd, hp]
    have absent : fileText? (x.files v) (modeFile (mode [])) = none := by
      have hm : withEnding? (modeFile (mode [])) = some "config/development.json" := by
        decide +kernel
      have hn : modeFile (mode []) ≠ "config/default.json" := by decide +kernel
      simp [fileText?, TextSetting.files, hn, hm]
    rw [layers, fileLayer_nest given hlen, fileLayer, absent]
    rfl
  have hg := applyLayer_within (hs n (hp ▸ List.mem_cons_self)) (.table []) (.text v) ns
  rw [← hp, overlay_empty rfl (kept_of_spelled hs) rfl] at hg
  exact load_eq (by simp [TextSetting.files]) hl
    (@TextSetting.settings_of_given x (.text v) v hx rfl _ (by simp [hg]))

end

/-- A setting that is a text, given by nothing but its variable or by nothing but a file of
settings. The file gives every text as it is. The variable gives the settings too, but what arrives
is the text only if it is no truth value and no number in another spelling than the one in which
they are written out. Texts with a character of no number arrive, but for the names of truth values
and of what is no finite number; so do whole numbers as they are written out, but not with zeros
before them. -/
theorem text_setting_arrives {x : TextSetting} (hx : x.IsSpelled) (v : String) :
    load [] (x.files v) = .ok (x.settings v) ∧
    Environment.Named x.place (Environment.variableName x.place) ∧
    (∀ name, Environment.Named x.place name →
      (∃ t, Arrives v t ∧ load [(name, v)] (fun _ => none) = .ok (x.settings t)) ∧
      (load [(name, v)] (fun _ => none) = .ok (x.settings v) ↔ OwnSpelling v)) ∧
    ((∃ c ∈ v.toList, ¬ Numeric c) → (∀ b : Bool, lower v ≠ toString b) →
      String.ofList ((splitSign v.toList).2.map Char.toLower) ∉ ["inf", "infinity", "nan"] →
      OwnSpelling v) ∧
    (∀ i : Int, fitsSigned i = true → v = toString i → OwnSpelling v) ∧
    ∀ zeros n : Nat, fitsSigned n = true → v = String.ofList (padded zeros n) →
      (OwnSpelling v ↔ zeros = 0) := by
  refine ⟨load_file hx v, Environment.named_variableName (TextSetting.spelled_place hx),
    fun name hn => ?_, fun hc hb hn => ?_, fun i hi hv => hv ▸ ownSpelling_toString hi,
    fun zeros n hn hv => hv ▸ ownSpelling_padded_iff hn⟩
  · obtain ⟨t, ht, ha⟩ := exists_arrives v
    have hl := load_variable hx hn ht
    refine ⟨⟨t, ha, hl⟩, ?_⟩
    rw [hl, ← ha.eq_iff]
    exact ⟨fun h => TextSetting.settings_inj (Except.ok.inj h), fun h => h ▸ rfl⟩
  · obtain ⟨c, hc, h⟩ := hc
    exact ownSpelling_of_char hb hn hc h

theorem spelled_acme : (TextSetting.organization "acme").IsSpelled := by
  simp only [TextSetting.IsSpelled, TextSetting.entry]
  decide +kernel

/-- An organization that has a name arrives. -/
theorem text_setting_arrives_name :
    (TextSetting.organization "acme").IsSpelled ∧
      load [("TEMPLATE_ENGINE__TENANT__ORGANIZATIONS__ACME", "root")] (fun _ => none) =
        .ok { tenant := { organizations := [("acme", "root")] } } := by
  have hv : Environment.variableName (TextSetting.organization "acme").place =
      "TEMPLATE_ENGINE__TENANT__ORGANIZATIONS__ACME" := by decide +kernel
  obtain ⟨-, hn, harrives, hown, -⟩ := text_setting_arrives spelled_acme "root"
  rw [hv] at hn
  have hr : OwnSpelling "root" :=
    hown ⟨'r', by decide +kernel, by decide⟩ (by decide +kernel) (by decide +kernel)
  exact ⟨spelled_acme, (harrives _ hn).2.2 hr⟩

/-- The organization of a tenant that is a number with zeros before it loses them. -/
theorem text_setting_altered :
    load [("TEMPLATE_ENGINE__TENANT__ORGANIZATIONS__ACME", "007")] (fun _ => none) =
        .ok { tenant := { organizations := [("acme", "7")] } } ∧
      load [] ((TextSetting.organization "acme").files "007") =
        .ok { tenant := { organizations := [("acme", "007")] } } := by
  have hn : Environment.Named (TextSetting.organization "acme").place
      "TEMPLATE_ENGINE__TENANT__ORGANIZATIONS__ACME" := by decide +kernel
  exact ⟨load_variable spelled_acme hn (by decide +kernel), load_file spelled_acme "007"⟩

end Herald.Settings
