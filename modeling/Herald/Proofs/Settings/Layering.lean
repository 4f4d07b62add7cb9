import Herald.Proofs.Settings.Given
import Herald.Proofs.Settings.Reading
import Herald.Proofs.Settings.Verbatim

/-!
# Herald.Proofs.Settings.Layering

The settings that all sources give together.

* `Stands`, `Document`: what a file with settings says, and what is asked of it.
* `Fits`: a source gives tables where the settings have tables, and values that convert elsewhere.
* `Admissible`: sources of which each fits. `ranked`: what they give, in falling order of rank.
* `layers_exact`: there are settings, and each of them is that of the first source that gives it.
  `layers_left_out`: what else names may say.
-/

namespace Herald.Settings

open Value Environment
open VariableFile (Extends)

/-- What a source gives fits: there are tables where the settings have tables, and values that
convert where they have none. -/
structure Fits (f : List String → Option Value) : Prop where
  nodes : ∀ p ∈ nodes, ∀ w, f p = some w → w.isTable = true
  leaves : ∀ (x : Leaf) w, f x.place = some w → (x.decode w).isSome
  below : ∀ (x : Leaf) m ms, f (x.place ++ m :: ms) = none

/-- What a file with settings says. A file that is not there says nothing. -/
def Stands (files : String → Option String) (name : String) (doc : Value) : Prop :=
  match fileText? files name with
  | none => doc = .table []
  | some content =>
    ∃ v, Json.read? content = some v ∧ v.sound Json.maxDepth = true ∧ doc = ofJson v.canonical

/-- A file with settings, in which names are in small letters, and those of the outermost table have
no meaning but as names. -/
structure Document (files : String → Option String) (name : String) (doc : Value) : Prop where
  stands : Stands files name doc
  table : doc.isTable = true
  kept : ∀ p ms, at? (some doc) p = some (.table ms) → ∀ m ∈ ms, key m.1 = m.1
  regular : ∀ m ∈ members (some doc), Regular m.1
  fits : Fits (at? (some doc))

/-! ## Files -/

section

variable {files : String → Option String} {name : String} {doc : Value}

theorem mem_ofMembers {ms : List (String × Json)} {m : String × Value} (h : m ∈ ofMembers ms) :
    ∃ v, m.2 = ofJson v := by
  induction ms with
  | nil => cases h
  | cons k ms ih =>
    rw [ofMembers] at h
    rcases List.mem_cons.1 h with rfl | h
    · exact ⟨k.2, rfl⟩
    · exact ih h

theorem mem_of_lookup {α : Type} {ms : List (String × α)} {n : String} {w : α}
    (h : ms.lookup n = some w) : (n, w) ∈ ms := by
  obtain ⟨a, b, rfl, -⟩ := List.lookup_eq_some_iff.1 h
  simp

/-- Nothing but an object is a table. -/
theorem ofJson_cases (v : Json) : (ofJson v).isTable = false ∨
    ∃ ms, ofJson v = .table (Ordered.insertAll [] (ofMembers ms)) := by
  cases v with
  | obj ms => exact .inr ⟨ms, rfl⟩
  | int i =>
    left
    rw [ofJson, ofNumber]
    split
    · rfl
    · rfl
  | _ => exact .inl rfl

theorem members_ofJson {v : Json} {n : String} {w : Value}
    (h : (members (some (ofJson v))).lookup n = some w) : ∃ u, w = ofJson u := by
  rcases ofJson_cases v with hv | ⟨ms, hv⟩
  · rw [members_of_not_table hv] at h
    cases h
  · rw [hv] at h
    rcases Ordered.mem_of_mem_insertAll (mem_of_lookup h) with hm | hm
    · cases hm
    · exact mem_ofMembers hm

/-- The names of all tables are in order. -/
theorem sorted_ofJson (v : Json) (p : List String) (ms : List (String × Value))
    (h : at? (some (ofJson v)) p = some (.table ms)) : Ordered.Sorted ms := by
  induction p generalizing v with
  | nil =>
    have hv : ofJson v = .table ms := Option.some.inj h
    rcases ofJson_cases v with ht | ⟨js, hjs⟩
    · rw [hv] at ht
      cases ht
    · cases hv.symm.trans hjs
      exact Ordered.insertAll_sorted List.Pairwise.nil _
  | cons n p ih =>
    rw [at?_cons] at h
    cases hn : (members (some (ofJson v))).lookup n with
    | none =>
      rw [hn, at?_none] at h
      cases h
    | some w =>
      obtain ⟨u, rfl⟩ := members_ofJson hn
      rw [hn] at h
      exact ih u h

theorem isTable_of_decode {x : Leaf} {w : Value} (h : (x.decode w).isSome) : w.isTable = false := by
  cases w with
  | table ms => cases x <;> cases h
  | _ => rfl

theorem Document.shaped (h : Document files name doc) : Shaped doc where
  table := h.table
  proper := by
    intro p ms hp
    refine ⟨?_, h.kept p ms hp⟩
    have hs := h.stands
    unfold Stands at hs
    split at hs
    · obtain rfl := hs
      cases p with
      | nil =>
        cases hp
        exact List.Pairwise.nil
      | cons n p => cases (at?_none p).symm.trans hp
    · obtain ⟨v, -, -, rfl⟩ := hs
      exact sorted_ofJson v.canonical p ms hp
  steps m hm := Path.ofKey_plain (h.regular m hm).points (h.regular m hm).brackets
  nodes := h.fits.nodes
  leaves x w hw := isTable_of_decode (h.fits.leaves x w hw)

theorem Document.fileLayer_eq (h : Document files name doc) :
    fileLayer files name = .ok (members (some doc)) := by
  have hs := h.stands
  unfold Stands at hs
  rw [fileLayer]
  cases he : fileText? files name with
  | none =>
    rw [he] at hs
    obtain rfl : doc = .table [] := hs
    rfl
  | some content =>
    rw [he] at hs
    obtain ⟨v, hv, hsound, rfl⟩ := hs
    obtain ⟨ms, hms⟩ := isTable_iff.1 h.table
    simp only [hv, hsound, hms, members]
    rfl

end

/-! ## Layers -/

theorem applyLayer_members (olds : List (String × Value)) {ms : List (String × Value)}
    (h : ∀ m ∈ ms, Path.ofKey m.1 = [.member m.1]) :
    applyLayer (.table olds) ms = some (.table (overlayMembers olds ms)) := by
  induction ms generalizing olds with
  | nil => rfl
  | cons m ms ih =>
    obtain ⟨hm, hms⟩ := List.forall_mem_cons.1 h
    have hstep : setPath (some (.table olds)) (Path.ofKey m.1) m.2 =
        some (.table (Ordered.insert (key m.1) (overlay (olds.lookup (key m.1)) m.2) olds)) := by
      rw [hm]
      exact setPath_member (some (.table olds)) m.2 [m.1]
    rw [applyLayer, List.foldlM_cons, hstep]
    exact ih _ hms

/-- The members of a document are laid over a table as the document is. -/
theorem applyLayer_document {v doc : Value} (hv : v.isTable = true) (h : Shaped doc) :
    applyLayer v (members (some doc)) = some (overlay (some v) doc) := by
  obtain ⟨olds, rfl⟩ := isTable_iff.1 hv
  obtain ⟨ms, rfl⟩ := isTable_iff.1 h.table
  have hlayer : applyLayer (.table olds) ms = _ := applyLayer_members olds h.steps
  rw [members, hlayer]
  cases ms with
  | nil => rfl
  | cons m ms => rfl

theorem known_cases : ∀ g ∈ known, g.2.isTable = false ∧ g.1.length = 2 ∧ g.1 ∉ nodes := by
  simp only [known, List.forall_mem_cons, List.not_mem_nil, false_implies, forall_const]
  decide +kernel

/-- The defaults that are known from the start. -/
theorem shaped_base : Shaped base := by
  have hb : base = stack (.table []) (known.map fun g => within g.2 g.1) := by
    rw [base, lay, stack, List.foldl_map]
  rw [hb]
  refine shaped_empty.stack fun doc hdoc => ?_
  obtain ⟨g, hg, rfl⟩ := List.mem_map.1 hdoc
  obtain ⟨hne, hs⟩ := spelled_known g hg
  obtain ⟨htable, hlength, hnode⟩ := known_cases g hg
  refine shaped_within_spelled htable hne hs hnode fun x m ms he => ?_
  have hplace := x.two_le_length
  rw [he, List.length_append, List.length_cons] at hlength
  omega

/-- A setting of which nothing but the defaults tells has its default. -/
theorem decided_base (x : Leaf) :
    decided (at? (some base) x.place) (x.read {}) x.decode = some (x.read {}) := by
  cases x <;> rfl

/-- The settings that documents give together. -/
theorem merge_exact {general special : Value} {vs : Variables} (hg : Shaped general)
    (hs : Shaped special) (hv : Orderly vs) :
    ∃ v, merge [members (some general), members (some special), settings vs] = some v ∧
      Shaped v ∧ ∀ x : Leaf, at? (some v) x.place =
        (((documents vs).reverse ++ [special, general]).findSome? fun doc =>
          at? (some doc) x.place).or (at? (some base) x.place) := by
  let docs := general :: special :: documents vs
  have hdocs : ∀ doc ∈ docs, Shaped doc :=
    List.forall_mem_cons.2 ⟨hg, List.forall_mem_cons.2 ⟨hs, shaped_documents hv⟩⟩
  have hstack : Shaped (stack (.table []) docs) := shaped_empty.stack hdocs
  have hgiven : [members (some general), members (some special), settings vs].foldlM applyLayer
      (.table []) = some (stack (.table []) docs) := by
    have hgeneral := applyLayer_document shaped_empty.table hg
    have hspecial := applyLayer_document (shaped_empty.overlay hg).table hs
    have hvars := applyLayer_stack fun m hm => (settings_cases hv hm).1
    simp only [List.foldlM_cons, List.foldlM_nil, hgeneral, hspecial, hvars, Option.bind_eq_bind,
      Option.bind_some]
    rfl
  refine ⟨overlay (some base) (stack (.table []) docs), ?_, shaped_base.overlay hstack, fun x => ?_⟩
  · rw [merge, hgiven]
    simp only [Option.bind_eq_bind, Option.bind_some, applyLayer_defaults]
    exact applyLayer_document shaped_base.table hstack
  · rw [at?_leaf hstack, at?_stack hdocs, at?_empty x.place_ne_nil, Option.or_none]
    simp [docs]

/-! ## Sources -/

/-- The variables of the file `.env`. -/
def fileVariables (env : Variables) (files : String → Option String) : Variables :=
  match files ".env" with
  | none => []
  | some content => VariableFile.told env (VariableFile.entries content.toList)

/-- The mode is set in the environment, or else in the file `.env`. -/
def runMode (env : Variables) (files : String → Option String) : String :=
  ((env.lookup "RUN_MODE").or ((fileVariables env files).lookup "RUN_MODE")).getD defaultMode

/-- Sources that all fit: the environment, the file `.env`, the file of the mode and the general
one. The environment has each variable once, and no two variables of settings differ in case
only. -/
structure Admissible (env : Variables) (files : String → Option String) (special general : Value) :
    Prop where
  nodup : (env.map Prod.fst).Nodup
  oneCase : OneCase (env ++ fileVariables env files)
  regular : ∀ v ∈ env ++ fileVariables env files, (key? v.1).isSome → Regular v.1
  settable : ∀ v ∈ fileVariables env files, (env.lookup v.1).isSome ∨ '\x00' ∉ v.2.toList
  environment : Fits (given? env)
  file : Fits (given? (fileVariables env files))
  special : Document files (modeFile (runMode env files)) special
  general : Document files (modeFile "default") general

/-- What the sources give at a place, in falling order of rank. -/
def ranked (env : Variables) (files : String → Option String) (special general : Value) :
    List (List String → Option Value) :=
  [given? env, given? (fileVariables env files), at? (some special), at? (some general)]

/-- The value of the first source that gives a setting. -/
def firstGiven (sources : List (List String → Option Value)) (x : Leaf) : Option Value :=
  sources.findSome? fun f => f x.place

section

variable {env : Variables} {files : String → Option String} {special general : Value}

theorem fullEnvironment_exact
    (h : ∀ v ∈ fileVariables env files, (env.lookup v.1).isSome ∨ '\x00' ∉ v.2.toList) :
    ∃ full, fullEnvironment env files = .ok full ∧ Extends env (fileVariables env files) full := by
  unfold fileVariables at h ⊢
  rw [fullEnvironment]
  cases hc : files ".env" with
  | none => exact ⟨env, rfl, Extends.refl env⟩
  | some content =>
    rw [hc] at h
    obtain ⟨full, hfull, hext⟩ := VariableFile.apply_exact h
    have hload : VariableFile.load? env content = some full := hfull
    simp only [hload]
    exact ⟨full, rfl, hext⟩

theorem mode_eq {full : Variables} (h : Extends env (fileVariables env files) full) :
    mode full = runMode env files := by
  rw [mode, h.lookup, runMode]

theorem given?_not_table {vs : Variables} {p : List String} {w : Value} (h : given? vs p = some w) :
    w.isTable = false := by
  obtain ⟨-, v, -, -, rfl⟩ := exists_of_given? h
  exact isTable_value v.2

theorem Fits.given?_node {vs : Variables} (h : Fits (given? vs)) {p : List String}
    (hp : p ∈ Settings.nodes) : given? vs p = none := by
  rw [Option.eq_none_iff_forall_ne_some]
  intro w hw
  have ht := h.nodes p hp w hw
  rw [given?_not_table hw] at ht
  cases ht

theorem Admissible.orderly (h : Admissible env files special general) {full : Variables}
    (he : Extends env (fileVariables env files) full) : Orderly full where
  regular v hv := h.regular v (List.mem_append.2 (he.mem v hv))
  nodes p hp := by
    rw [given?_extends he h.oneCase, h.environment.given?_node hp, h.file.given?_node hp]
    rfl
  below x m ms := by
    rw [given?_extends he h.oneCase, h.environment.below, h.file.below]
    rfl

theorem firstGiven_eq (x : Leaf) : firstGiven (ranked env files special general) x =
    ((given? env x.place).or (given? (fileVariables env files) x.place)).or
      ((at? (some special) x.place).or (at? (some general) x.place)) := by
  simp only [firstGiven, ranked, List.findSome?_cons, List.findSome?_nil]
  cases given? env x.place <;> cases given? (fileVariables env files) x.place <;>
    cases at? (some special) x.place <;> cases at? (some general) x.place <;> rfl

theorem Admissible.decodes (h : Admissible env files special general) (x : Leaf) (w : Value)
    (hw : firstGiven (ranked env files special general) x = some w) : (x.decode w).isSome := by
  obtain ⟨f, hf, hfw⟩ := List.exists_of_findSome?_eq_some hw
  have hfits : Fits f := by
    simp only [ranked, List.mem_cons, List.not_mem_nil, or_false] at hf
    rcases hf with rfl | rfl | rfl | rfl
    · exact h.environment
    · exact h.file
    · exact h.special.fits
    · exact h.general.fits
  exact hfits.leaves x w hfw

theorem Admissible.layers_eq (h : Admissible env files special general) {full : Variables}
    (he : Extends env (fileVariables env files) full) : layers full files =
      .ok [members (some general), members (some special), settings full] := by
  rw [layers, mode_eq he, h.general.fileLayer_eq, h.special.fileLayer_eq]
  rfl

/-- What the layers of sources that fit come to together. -/
theorem Admissible.merged (h : Admissible env files special general) {full : Variables}
    (he : Extends env (fileVariables env files) full) :
    ∃ v, merge [members (some general), members (some special), settings full] = some v ∧
      Shaped v ∧ ∀ x : Leaf, at? (some v) x.place =
        (firstGiven (ranked env files special general) x).or (at? (some base) x.place) := by
  have hone : OneCase full := fun v hv w hw =>
    h.oneCase v (List.mem_append.2 (he.mem v hv)) w (List.mem_append.2 (he.mem w hw))
  obtain ⟨v, hmerge, hshaped, hat⟩ := merge_exact h.general.shaped h.special.shaped (h.orderly he)
  refine ⟨v, hmerge, hshaped, fun x => ?_⟩
  rw [hat, List.findSome?_append, at?_documents (h.orderly he) hone (he.nodup h.nodup),
    given?_extends he h.oneCase, firstGiven_eq]
  simp only [List.findSome?_cons, List.findSome?_nil]
  cases at? (some special) x.place <;> cases at? (some general) x.place <;> rfl

/-- There are settings, whatever the sources are that fit. Each setting is that of the first source
that gives it, in the form of the setting, or its default. -/
theorem layers_exact (h : Admissible env files special general) :
    ∃ s, load env files = .ok s ∧
      (∀ x : Leaf, decided (firstGiven (ranked env files special general) x) (x.read {}) x.decode =
        some (x.read s)) ∧
      ((∀ x, firstGiven (ranked env files special general) x = none) → s = {}) := by
  obtain ⟨full, hfull, he⟩ := fullEnvironment_exact h.settable
  obtain ⟨v, hmerge, hshaped, hleaf⟩ := h.merged he
  have hdecided (x : Leaf) : decided (at? (some v) x.place) (x.read {}) x.decode =
      decided (firstGiven (ranked env files special general) x) (x.read {}) x.decode := by
    rw [hleaf]
    cases firstGiven (ranked env files special general) x with
    | none => exact decided_base x
    | some w => rfl
  have hdecodes (x : Leaf) (w : Value) (hw : at? (some v) x.place = some w) :
      (x.decode w).isSome := by
    rw [hleaf] at hw
    rcases Option.or_eq_some_iff.1 hw with hw | ⟨-, hw⟩
    · exact h.decodes x w hw
    · have hbase := decided_base x
      rw [hw] at hbase
      exact Option.isSome_iff_exists.2 ⟨_, hbase⟩
  obtain ⟨s, hs, hdomains, horganizations, hread⟩ := ofValue?_shaped hshaped hdecodes
  refine ⟨s, ?_, fun x => ?_, fun hnone => ?_⟩
  · simp only [load, hfull, ofSources, h.layers_eq he, bind, Except.bind, hmerge, hs]
    rfl
  · rw [← hdecided, hread]
  · refine Leaf.ext hdomains List.Pairwise.nil horganizations List.Pairwise.nil fun x => ?_
    have hx := hread x
    rw [hdecided, hnone] at hx
    exact (Option.some.inj hx).symm

end

/-! ## Sources with little in them -/

theorem Leaf.place_inj {x y : Leaf} (h : x.place = y.place) : x = y := by
  cases x <;> cases y <;> simp_all [place]

theorem Leaf.place_not_node (x : Leaf) : x.place ∉ nodes := by
  cases x <;> simp [place, nodes, sections]

/-- A setting is not within another one. -/
theorem Leaf.not_within {x y : Leaf} {n : String} {ns : List String} :
    x.place ≠ y.place ++ n :: ns := by
  intro h
  have hne : y.place ≠ x.place := by
    intro he
    have hlength := congrArg List.length h
    rw [he, List.length_append, List.length_cons] at hlength
    omega
  rcases Leaf.prefix_of_place (h ▸ List.prefix_append _ _) hne with hnil | hnode
  · exact y.place_ne_nil hnil
  · exact y.place_not_node hnode

/-- A document with one setting. -/
theorem fits_within {x : Leaf} {v : Value} (h : (x.decode v).isSome) :
    Fits (at? (some (within v x.place))) where
  nodes p hp w hw := by
    obtain ⟨q, hq, rfl⟩ := (at?_within (isTable_of_decode h)).1 hw
    rw [isTable_within (isTable_of_decode h)]
    rintro rfl
    rw [List.append_nil] at hq
    exact x.place_not_node (hq ▸ hp)
  leaves y w hw := by
    obtain ⟨q, hq, rfl⟩ := (at?_within (isTable_of_decode h)).1 hw
    cases q with
    | nil =>
      rw [List.append_nil] at hq
      obtain rfl := Leaf.place_inj hq
      exact h
    | cons n q => exact absurd hq Leaf.not_within
  below y m ms := by
    rw [Option.eq_none_iff_forall_ne_some]
    intro w hw
    obtain ⟨q, hq, -⟩ := (at?_within (isTable_of_decode h)).1 hw
    rw [List.append_assoc, List.cons_append] at hq
    exact Leaf.not_within hq

/-- A file with one setting, which is a text. -/
theorem document_nest {files : String → Option String} {name v : String} {x : Leaf}
    (hf : fileText? files name = some (Json.compact (Json.nest v x.place)))
    (hs : ∀ n ∈ x.place, Spelled n) (hv : (x.decode (.text v)).isSome) :
    Document files name (within (.text v) x.place) where
  stands := by
    have hlength : x.place.length ≤ Json.maxDepth := by
      cases x <;> simp [Leaf.place, Json.maxDepth]
    rw [Stands, hf]
    exact ⟨_, (Json.textual_nest v x.place).read?_compact, Json.sound_nest v hlength,
      by rw [Json.canonical_nest, ofJson_nest]⟩
  table := (isTable_within rfl).2 x.place_ne_nil
  kept := by
    intro p ms hp
    obtain ⟨q, hq, hw⟩ := (at?_within rfl).1 hp
    cases q with
    | nil => cases hw
    | cons n q =>
      cases hw
      have hn := hs n (hq ▸ List.mem_append_right _ List.mem_cons_self)
      simpa using hn.key_eq
  regular := by
    obtain ⟨n, ns, hp⟩ := List.exists_cons_of_ne_nil x.place_ne_nil
    have hn := hs n (hp ▸ List.mem_cons_self)
    simpa [hp, within, members] using hn.regular
  fits := fits_within hv

theorem intercalate_append {sep m : List Char} {ns ms : List (List Char)} (h : ns ≠ []) :
    sep.intercalate (ns ++ m :: ms) = sep.intercalate ns ++ sep ++ sep.intercalate (m :: ms) := by
  induction ns with
  | nil => exact absurd rfl h
  | cons n ns ih =>
    cases ns with
    | nil =>
      rw [List.singleton_append, List.intercalate_cons_cons, List.intercalate_singleton]
    | cons k ns =>
      have hi := ih (List.cons_ne_nil k ns)
      rw [List.cons_append] at hi
      rw [List.cons_append, List.cons_append, List.intercalate_cons_cons,
        List.intercalate_cons_cons, hi]
      simp only [List.append_assoc]

/-- The name of a variable leads into a place. -/
def LeadsInto (p : List String) (name : String) : Prop :=
  lead ++ (['_', '_'].intercalate (p.map String.toList) ++ ['_', '_']) <+:
    Text.lowercase name.toList

instance (p : List String) (name : String) : Decidable (LeadsInto p name) :=
  inferInstanceAs (Decidable (_ <+: _))

theorem leadsInto_of_named {p ms : List String} {m name : String} (hp : p ≠ [])
    (h : Named (p ++ m :: ms) name) : LeadsInto p name := by
  refine ⟨['_', '_'].intercalate ((m :: ms).map String.toList), ?_⟩
  rw [h, List.map_append, List.map_cons, intercalate_append (by simpa using hp)]
  simp only [List.append_assoc]

/-- The settings that are fields of sections. -/
def Leaf.fields : List Leaf :=
  [.defaultLocale, .urlCharset, .cacheEnabled, .lifetime, .seedFile, .passthrough,
    .telemetryEnabled, .endpoint, .serviceName, .samplingRatio]

theorem Leaf.field_cases (x : Leaf) :
    x ∈ fields ∧ x.place ∈ places ∨ ∃ p ∈ places, ∃ n, x.place = p ++ [n] := by
  cases x with
  | domain n => exact .inr ⟨["tenant", "domains"], by decide, n, rfl⟩
  | organization n => exact .inr ⟨["tenant", "organizations"], by decide, n, rfl⟩
  | _ => exact .inl ⟨by simp [fields], by simp only [place]; decide⟩

theorem places_ne_nil {p : List String} (hp : p ∈ places) : p ≠ [] := by
  rintro rfl
  exact absurd hp (by decide)

/-- An environment with fields of sections only. -/
theorem fits_given? {vs : Variables} (hnode : ∀ v ∈ vs, ∀ p ∈ nodes, ¬ Named p v.1)
    (hinto : ∀ v ∈ vs, ∀ p ∈ places, ¬ LeadsInto p v.1)
    (hleaf : ∀ v ∈ vs, ∀ x ∈ Leaf.fields, Named x.place v.1 → (x.decode (value v.2)).isSome) :
    Fits (given? vs) where
  nodes p hp w hw := by
    obtain ⟨-, v, hv, hn, -⟩ := exists_of_given? hw
    exact absurd hn (hnode v hv p hp)
  leaves x w hw := by
    obtain ⟨-, v, hv, hn, rfl⟩ := exists_of_given? hw
    rcases x.field_cases with ⟨hx, -⟩ | ⟨p, hp, n, hx⟩
    · exact hleaf v hv x hx hn
    · exact absurd (leadsInto_of_named (places_ne_nil hp) (hx ▸ hn)) (hinto v hv p hp)
  below x m ms := by
    rw [Option.eq_none_iff_forall_ne_some]
    intro w hw
    obtain ⟨-, v, hv, hn, -⟩ := exists_of_given? hw
    rcases x.field_cases with ⟨-, hx⟩ | ⟨p, hp, n, hx⟩
    · exact hinto v hv _ hx (leadsInto_of_named x.place_ne_nil hn)
    · rw [hx, List.append_assoc] at hn
      exact hinto v hv p hp (leadsInto_of_named (places_ne_nil hp) hn)

namespace layered

/-- The environment sets the locale. -/
def env : Variables := [("TEMPLATE_ENGINE__ENGINE__DEFAULT_LOCALE", "de_DE")]

/-- The file `.env` sets the mode, the locale and a lifetime, and either file of settings an
organization. -/
def files : String → Option String
  | ".env" =>
    some ("RUN_MODE=live\n" ++ "TEMPLATE_ENGINE__ENGINE__DEFAULT_LOCALE=fr_FR\n" ++
      "TEMPLATE_ENGINE__CACHE__TTL_SECONDS=60\n")
  | "config/live.json" => some (Json.compact (Json.nest "main" (Leaf.organization "beta").place))
  | "config/default.json" =>
    some (Json.compact (Json.nest "root" (Leaf.organization "acme").place))
  | _ => none

def special : Value := within (.text "main") (Leaf.organization "beta").place

def general : Value := within (.text "root") (Leaf.organization "acme").place

theorem fileVariables_eq : fileVariables env files =
    [("RUN_MODE", "live"), ("TEMPLATE_ENGINE__ENGINE__DEFAULT_LOCALE", "fr_FR"),
      ("TEMPLATE_ENGINE__CACHE__TTL_SECONDS", "60")] := by
  decide +kernel

theorem fits_env : Fits (given? env) :=
  fits_given? (by decide +kernel) (by decide +kernel) (by decide +kernel)

theorem fits_file : Fits (given? (fileVariables env files)) := by
  rw [fileVariables_eq]
  exact fits_given? (by decide +kernel) (by decide +kernel) (by decide +kernel)

theorem admissible : Admissible env files special general where
  nodup := by decide
  oneCase := by
    rw [fileVariables_eq]
    simp only [OneCase]
    decide +kernel
  regular := by
    rw [fileVariables_eq]
    decide +kernel
  settable := by
    rw [fileVariables_eq]
    decide +kernel
  environment := fits_env
  file := fits_file
  special := document_nest (by decide +kernel) (by simp only [Leaf.place]; decide +kernel) rfl
  general := document_nest (by decide +kernel) (by simp only [Leaf.place]; decide +kernel) rfl

def sources : List (List String → Option Value) :=
  [given? env,
    given? [("RUN_MODE", "live"), ("TEMPLATE_ENGINE__ENGINE__DEFAULT_LOCALE", "fr_FR"),
      ("TEMPLATE_ENGINE__CACHE__TTL_SECONDS", "60")],
    at? (some special), at? (some general)]

theorem ranked_eq : ranked env files special general = sources := by
  rw [ranked, fileVariables_eq, sources]

end layered

/-- Each source gives something, and some of it is given by a source of higher rank, too. -/
theorem layers_exact_mixed :
    Admissible layered.env layered.files layered.special layered.general ∧
      ∃ s, load layered.env layered.files = .ok s ∧ s.engine.defaultLocale = "de_DE" ∧
        s.engine.urlCharset = "UTF-8" ∧ s.cache.lifetime = some 60 ∧
        s.tenant.organizations.lookup "acme" = some "root" ∧
        s.tenant.organizations.lookup "beta" = some "main" := by
  obtain ⟨s, hs, hread, -⟩ := layers_exact layered.admissible
  have reads (x : Leaf) (c : x.Content)
      (h : decided (firstGiven layered.sources x) (x.read {}) x.decode = some c) :
      x.read s = c := by
    have hx := hread x
    rw [layered.ranked_eq, h] at hx
    exact (Option.some.inj hx).symm
  refine ⟨layered.admissible, s, hs, reads .defaultLocale _ ?_, reads .urlCharset _ ?_,
    reads .lifetime _ ?_, reads (.organization "acme") _ ?_, reads (.organization "beta") _ ?_⟩
  · decide +kernel
  · decide +kernel
  · decide +kernel
  · decide +kernel
  · decide +kernel

/-- The name of an entry need not be one that variables can spell: then the variable of the entry
leaves it out. Points and brackets in the names of variables and in the outermost names of files are
no part of a name: they lead elsewhere, or there are no settings at all. Nor are there any if the
file `.env` has a value that cannot be set. -/
theorem layers_left_out :
    (Named (Leaf.domain "ä").place "TEMPLATE_ENGINE__TENANT__DOMAINS__Ä" ∧
      '.' ∉ "ä".toList ∧ Text.occurs ['_', '_'] "ä".toList = false ∧
      load [("TEMPLATE_ENGINE__TENANT__DOMAINS__Ä", "x")] (fun _ => none) = .ok {}) ∧
    load [("TEMPLATE_ENGINE__ENGINE.DEFAULT_LOCALE", "de_DE")] (fun _ => none) =
      .ok { engine := { defaultLocale := "de_DE" } } ∧
    load [("TEMPLATE_ENGINE__OTHER[-1]", "1")] (fun _ => none) = .error .outside ∧
    load [] (fun name => if name = "config/default.json" then
        some "\x7b\"engine.default_locale\": \"de_DE\"\x7d" else none) =
      .ok { engine := { defaultLocale := "de_DE" } } ∧
    load [] (fun name => if name = "config/default.json" then
        some "\x7b\"other[-1]\": 1\x7d" else none) = .error .outside ∧
    load [] (fun name => if name = ".env" then some "A=\x00\n" else none) =
      .error .unsettable := by
  decide +kernel

end Herald.Settings
