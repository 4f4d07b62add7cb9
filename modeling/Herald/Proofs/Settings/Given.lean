import Herald.Proofs.Settings.Variables
import Mathlib.Data.List.Nodup

/-!
# Herald.Proofs.Settings.Given

What an environment gives, variable by variable.

* `Environment.given?`: the value of the variable of a place.
* `shaped_documents`, `at?_documents`: the variables are documents, and for each setting they give
  the value of its variable.
* `VariableFile.told`: all that the file `.env` sets. `apply_exact`: of this the environment gets
  what is not set in it yet.
-/

namespace Herald.Settings

open Value

namespace Path

/-- The names on the way of a key. -/
def names (key : String) : List String :=
  (ofKey key).filterMap fun
    | .member n => some n
    | .item _ => none

theorem names_of_ofKey {key : String} {ns : List String} (h : ofKey key = ns.map .member) :
    names key = ns := by
  rw [names, h, List.filterMap_map]
  exact List.filterMap_some

end Path

/-- The values of a source are documents, if its keys have no places of items. -/
theorem applyLayer_stack {layer : List (String × Value)}
    (h : ∀ m ∈ layer, Path.ofKey m.1 = (Path.names m.1).map .member) (v : Value) :
    applyLayer v layer = some (stack v (layer.map fun m => within m.2 (Path.names m.1))) := by
  induction layer generalizing v with
  | nil => rfl
  | cons m layer ih =>
    obtain ⟨hm, hlayer⟩ := List.forall_mem_cons.1 h
    rw [applyLayer, List.foldlM_cons, hm, setPath_member]
    exact ih hlayer _

namespace Environment

variable {vs ws : Variables} {p : List String} {x : Leaf}

/-- The value of the variable of a place. No variable is that of a place with other names than those
that can be spelled. -/
def given? (vs : Variables) (p : List String) : Option Value :=
  if ∀ n ∈ p, Spelled n then vs.findSome? fun v => if Named p v.1 then some (value v.2) else none
  else none

/-- No two variables of settings differ in nothing but the case of letters. -/
def OneCase (vs : Variables) : Prop :=
  ∀ v ∈ vs, ∀ w ∈ vs, (key? v.1).isSome →
    Text.lowercase v.1.toList = Text.lowercase w.1.toList → v.1 = w.1

/-- The variables of settings are regular and have values that fit: none is that of a table, nor
that of something within a setting. -/
structure Orderly (vs : Variables) : Prop where
  regular : ∀ v ∈ vs, (key? v.1).isSome → Regular v.1
  nodes : ∀ p ∈ Settings.nodes, given? vs p = none
  below : ∀ (x : Leaf) m ms, given? vs (x.place ++ m :: ms) = none

theorem isSome_key?_of_named {name : String} (h : Named p name) : (key? name).isSome := by
  rw [key?, h, Text.after?_append]
  rfl

theorem exists_of_given? {w : Value} (h : given? vs p = some w) :
    (∀ n ∈ p, Spelled n) ∧ ∃ v ∈ vs, Named p v.1 ∧ value v.2 = w := by
  unfold given? at h
  split at h
  case isTrue hs =>
    obtain ⟨v, hv, hw⟩ := List.exists_of_findSome?_eq_some h
    split at hw
    case isTrue hn => exact ⟨hs, v, hv, hn, Option.some.inj hw⟩
    case isFalse => cases hw
  case isFalse => cases h

theorem given?_of_named {v : String × String} (hs : ∀ n ∈ p, Spelled n) (hv : v ∈ vs)
    (hn : Named p v.1) : ∃ w, given? vs p = some w := by
  rw [given?, if_pos hs]
  refine Option.isSome_iff_exists.1 (List.findSome?_isSome_iff.2 ⟨v, hv, ?_⟩)
  rw [if_pos hn]
  rfl

theorem isTable_value (s : String) : (value s).isTable = false := by
  unfold value
  split
  · rfl
  · rfl
  · split
    · rfl
    · split
      · rfl
      · rfl

theorem mem_settings {m : String × Value} (h : m ∈ settings vs) :
    ∃ v ∈ vs, key? v.1 = some m.1 ∧ value v.2 = m.2 := by
  rcases Ordered.mem_of_mem_insertAll h with h | h
  · cases h
  · obtain ⟨v, hv, hm⟩ := List.mem_filterMap.1 h
    obtain ⟨k, hk, rfl⟩ := Option.map_eq_some_iff.1 hm
    exact ⟨v, hv, hk, rfl⟩

/-- Where a variable leads: to its place, or to a name that is no path. -/
theorem settings_cases (h : Orderly vs) {m : String × Value} (hm : m ∈ settings vs) :
    Path.ofKey m.1 = (Path.names m.1).map .member ∧ m.2.isTable = false ∧
      ((Path.names m.1 ≠ [] ∧ (∀ n ∈ Path.names m.1, Spelled n) ∧
          ∃ v ∈ vs, Named (Path.names m.1) v.1 ∧ value v.2 = m.2) ∨
        Path.names m.1 = [m.1] ∧ Path.read? m.1 = none ∧ key m.1 = m.1) := by
  obtain ⟨v, hv, hk, hw⟩ := mem_settings hm
  have hr : Regular v.1 := h.regular v hv (hk ▸ rfl)
  have ht : m.2.isTable = false := hw ▸ isTable_value v.2
  rcases key?_cases hr hk with ⟨ns, hne, hs, hnamed, -, hof⟩ | ⟨hread, hof, hkey⟩
  · have hns := Path.names_of_ofKey hof
    rw [hns]
    exact ⟨hof, ht, .inl ⟨hne, hs, v, hv, hnamed, hw⟩⟩
  · have hns : Path.names m.1 = [m.1] := Path.names_of_ofKey hof
    rw [hns]
    exact ⟨hof, ht, .inr ⟨rfl, hread, hkey⟩⟩

/-- The variables of settings as documents, each with one value. -/
def documents (vs : Variables) : List Value :=
  (settings vs).map fun m => within m.2 (Path.names m.1)

theorem not_below (h : Orderly vs) {m : String × Value} (hm : m ∈ settings vs) (x : Leaf)
    (n : String) (ns : List String) : Path.names m.1 ≠ x.place ++ n :: ns := by
  intro he
  obtain ⟨-, -, ⟨-, hs, v, hv, hnamed, -⟩ | ⟨hnames, -, -⟩⟩ := settings_cases h hm
  · rw [he] at hs hnamed
    obtain ⟨w, hw⟩ := given?_of_named hs hv hnamed
    rw [h.below] at hw
    cases hw
  · rw [hnames] at he
    have hlength := congrArg List.length he
    obtain ⟨p, -, m, hx⟩ := x.place_eq
    simp only [hx, List.length_append, List.length_cons, List.length_nil] at hlength
    omega

theorem shaped_documents (h : Orderly vs) : ∀ doc ∈ documents vs, Shaped doc := by
  intro doc hdoc
  obtain ⟨m, hm, rfl⟩ := List.mem_map.1 hdoc
  have hbelow := not_below h hm
  obtain ⟨-, ht, hcases⟩ := settings_cases h hm
  rcases hcases with ⟨hne, hs, v, hv, hnamed, -⟩ | ⟨hnames, hread, hkey⟩
  · -- the variable of a place
    have hnode : Path.names m.1 ∉ Settings.nodes := by
      intro hp
      obtain ⟨w, hw⟩ := given?_of_named hs hv hnamed
      rw [h.nodes _ hp] at hw
      cases hw
    exact shaped_within_spelled ht hne hs hnode hbelow
  · -- a name that is no path
    rw [hnames] at hbelow ⊢
    have hn : Path.ofKey m.1 = [.member m.1] := by
      rw [Path.ofKey, hread]
      rfl
    have hnode : [m.1] ∉ Settings.nodes := by
      intro hp
      rcases List.mem_append.1 hp with hp | hp
      · obtain ⟨n, hn, he⟩ := List.mem_map.1 hp
        have read : ∀ n ∈ sections, Path.read? n ≠ none := by decide +kernel
        exact read n hn (List.singleton_inj.1 he ▸ hread)
      · simp at hp
    exact shaped_within ht (by simpa [Kept] using hkey) hn hnode hbelow

/-- A document that gives a setting is that of its variable. -/
theorem given?_of_documents (h : Orderly vs) (hone : OneCase vs) (hnodup : (vs.map Prod.fst).Nodup)
    {doc w : Value} (hdoc : doc ∈ documents vs) (hw : at? (some doc) x.place = some w) :
    given? vs x.place = some w := by
  obtain ⟨m, hm, rfl⟩ := List.mem_map.1 hdoc
  obtain ⟨-, ht, hcases⟩ := settings_cases h hm
  rw [at?_within_place ht (not_below h hm x)] at hw
  split at hw
  case isFalse => cases hw
  case isTrue hx =>
  cases hw
  rw [hx] at hcases
  rcases hcases with ⟨-, hs, v, hv, hnamed, hvalue⟩ | ⟨hnames, -, -⟩
  · obtain ⟨u, hu⟩ := given?_of_named hs hv hnamed
    obtain ⟨-, v', hv', hnamed', hvalue'⟩ := exists_of_given? hu
    have hname : v.1 = v'.1 :=
      hone v hv v' hv' (isSome_key?_of_named hnamed) (hnamed.trans hnamed'.symm)
    obtain rfl : v = v' := List.inj_on_of_nodup_map hnodup hv hv' hname
    rw [hu, ← hvalue', hvalue]
  · have hlength := x.two_le_length
    rw [hnames] at hlength
    exact absurd hlength (by simp)

/-- For each setting the documents give the value of its variable. -/
theorem at?_documents (h : Orderly vs) (hone : OneCase vs) (hnodup : (vs.map Prod.fst).Nodup)
    (x : Leaf) :
    ((documents vs).reverse.findSome? fun doc => at? (some doc) x.place) = given? vs x.place := by
  cases hf : (documents vs).reverse.findSome? fun doc => at? (some doc) x.place with
  | some w =>
    obtain ⟨doc, hdoc, hw⟩ := List.exists_of_findSome?_eq_some hf
    exact (given?_of_documents h hone hnodup (List.mem_reverse.1 hdoc) hw).symm
  | none =>
    cases hg : given? vs x.place with
    | none => rfl
    | some w =>
      -- the variable has a document of its own
      exfalso
      obtain ⟨hs, v, hv, hnamed, -⟩ := exists_of_given? hg
      have hk : key? v.1 = some (Path.joined x.place) := by
        refine key?_of_named hs ?_ hnamed
        cases x <;> simp [Leaf.place]
      have hkey : (Path.joined x.place, value v.2) ∈
          vs.filterMap fun v => (key? v.1).map (·, value v.2) := by
        refine List.mem_filterMap.2 ⟨v, hv, ?_⟩
        rw [hk]
        rfl
      have hsome : Path.joined x.place ∈ (settings vs).map Prod.fst :=
        Ordered.mem_map_insertAll.2 (.inr (List.mem_map_of_mem hkey))
      obtain ⟨m, hm, he⟩ := List.mem_map.1 hsome
      have hnames : Path.names m.1 = x.place := by
        rw [he]
        exact Path.names_of_ofKey (Path.ofKey_joined x.place_ne_nil hs)
      obtain ⟨-, ht, -⟩ := settings_cases h hm
      have hnone := List.findSome?_eq_none_iff.1 hf _ (List.mem_reverse.2 (List.mem_map_of_mem hm))
      rw [at?_within_place ht (not_below h hm x), if_pos hnames] at hnone
      cases hnone

end Environment

/-! ## The file with variables -/

namespace VariableFile

open Environment (Variables given? key?)

/-- What an entry says. Blank entries and comments say nothing. -/
def said? (e : List Char) : Option (List Char) :=
  match Text.trimChars e with
  | [] | '#' :: _ => none
  | r => some r

/-- All that entries set, whether it is set in the environment or not. -/
def told (vs : Variables) : List (List Char) → Variables
  | [] => []
  | e :: es =>
    match said? e with
    | none => told vs es
    | some r =>
      match assignment? (valueIn vs) r with
      | some v => v :: told ((setDefault? vs v).getD vs) es
      | none => []

theorem apply_cons (vs : Variables) (e : List Char) (es : List (List Char)) :
    apply vs (e :: es) =
      match said? e with
      | none => apply vs es
      | some r =>
        match assignment? (valueIn vs) r with
        | some v => (setDefault? vs v).bind fun ws => apply ws es
        | none => some vs := by
  rw [apply]
  split
  · next he =>
    have hsaid : said? e = none := by rw [said?, he]
    rw [hsaid]
  · next he =>
    have hsaid : said? e = none := by
      rw [said?, he]
      rfl
    rw [hsaid]
  · next hnil hcomment =>
    have hsaid : said? e = some (Text.trimChars e) := by
      unfold said?
      split
      · exact absurd ‹_› hnil
      · exact absurd ‹_› (hcomment _)
      · rfl
    cases hr : said? e with
    | none => cases hsaid.symm.trans hr
    | some r =>
      obtain rfl : Text.trimChars e = r := Option.some.inj (hsaid.symm.trans hr)
      rfl

variable {vs full : Variables} {v : String × String}

/-- What the environment gets of what is told: what is not set in it yet. -/
structure Extends (vs told full : Variables) : Prop where
  lookup : ∀ n, full.lookup n = (vs.lookup n).or (told.lookup n)
  mem : ∀ v ∈ full, v ∈ vs ∨ v ∈ told
  nodup : (vs.map Prod.fst).Nodup → (full.map Prod.fst).Nodup

theorem Extends.refl (vs : Variables) : Extends vs [] vs where
  lookup n := by rw [List.lookup_nil, Option.or_none]
  mem v hv := .inl hv
  nodup h := h

theorem Extends.trans {more most : Variables} {ws : Variables} (h : Extends vs more ws)
    (h' : Extends ws most full) : Extends vs (more ++ most) full where
  lookup n := by rw [h'.lookup, h.lookup, List.lookup_append, Option.or_assoc]
  mem v hv := by
    rcases h'.mem v hv with hv | hv
    · exact (h.mem v hv).imp_right (List.mem_append_left _)
    · exact .inr (List.mem_append_right _ hv)
  nodup hn := h'.nodup (h.nodup hn)

theorem setDefault?_cases (h : (vs.lookup v.1).isSome ∨ '\x00' ∉ v.2.toList) :
    ∃ ws, setDefault? vs v = some ws ∧ Extends vs [v] ws := by
  unfold setDefault?
  split
  case isTrue hset =>
    obtain ⟨s, hs⟩ := Option.isSome_iff_exists.1 hset
    refine ⟨vs, rfl, fun n => ?_, fun u hu => .inl hu, fun hn => hn⟩
    rw [List.lookup_cons, List.lookup_nil]
    by_cases hn : n = v.1
    · rw [hn, hs, Option.some_or]
    · rw [beq_eq_false_iff_ne.2 hn, Option.or_none]
  case isFalse hset =>
    have hnul : ¬ v.2.toList.contains '\x00' = true := by
      rcases h with h | h
      · exact absurd h hset
      · simpa using h
    rw [if_neg hnul]
    refine ⟨vs ++ [v], rfl, fun n => List.lookup_append, fun u hu => List.mem_append.1 hu, ?_⟩
    intro hn
    rw [List.map_append, List.nodup_append]
    refine ⟨hn, by simp, ?_⟩
    rintro n hm m hv rfl
    obtain rfl := List.mem_singleton.1 hv
    obtain ⟨u, hu, he⟩ := List.mem_map.1 hm
    refine hset ?_
    rw [List.lookup_eq_findSome?, List.findSome?_isSome_iff]
    exact ⟨u, hu, by simp [he]⟩

/-- The environment gets what is told and not set yet, unless a value cannot be set. -/
theorem apply_exact {es : List (List Char)}
    (h : ∀ v ∈ told vs es, (vs.lookup v.1).isSome ∨ '\x00' ∉ v.2.toList) :
    ∃ full, apply vs es = some full ∧ Extends vs (told vs es) full := by
  induction es generalizing vs with
  | nil => exact ⟨vs, rfl, Extends.refl vs⟩
  | cons e es ih =>
    rw [told] at h
    rw [apply_cons, told]
    cases hsaid : said? e with
    | none =>
      simp only [hsaid] at h ⊢
      exact ih h
    | some r =>
      simp only [hsaid] at h ⊢
      cases ha : assignment? (valueIn vs) r with
      | none => exact ⟨vs, rfl, Extends.refl vs⟩
      | some v =>
        simp only [ha] at h ⊢
        obtain ⟨hv, hrest⟩ := List.forall_mem_cons.1 h
        obtain ⟨ws, hws, hfirst⟩ := setDefault?_cases hv
        simp only [hws, Option.getD_some, Option.bind_some] at hrest ⊢
        -- what is set stays set
        have hset : ∀ u ∈ told ws es, (ws.lookup u.1).isSome ∨ '\x00' ∉ u.2.toList := by
          intro u hu
          refine (hrest u hu).imp_left fun hs => ?_
          obtain ⟨t, ht⟩ := Option.isSome_iff_exists.1 hs
          rw [hfirst.lookup, ht]
          rfl
        obtain ⟨full, hfull, hlast⟩ := ih hset
        exact ⟨full, hfull, hfirst.trans hlast⟩

end VariableFile

namespace Environment

open VariableFile (Extends)

/-- Where all variables of a place have one name, the first one counts. -/
theorem given?_eq_lookup {vs : Variables} {p : List String} {name : String}
    (hs : ∀ n ∈ p, Spelled n) (h : ∀ v ∈ vs, Named p v.1 ↔ v.1 = name) :
    given? vs p = (vs.lookup name).map value := by
  rw [given?, if_pos hs]
  induction vs with
  | nil => rfl
  | cons v vs ih =>
    obtain ⟨hv, hvs⟩ := List.forall_mem_cons.1 h
    obtain ⟨k, t⟩ := v
    have hv : Named p k ↔ k = name := hv
    rw [List.findSome?_cons, List.lookup_cons]
    by_cases hk : k = name
    · rw [if_pos (hv.2 hk), hk, beq_self_eq_true]
      rfl
    · rw [if_neg (fun hn => hk (hv.1 hn)), beq_eq_false_iff_ne.2 (Ne.symm hk)]
      exact ih hvs

/-- What was told counts where the environment says nothing. -/
theorem given?_extends {vs told full : Variables} (he : Extends vs told full)
    (hone : OneCase (vs ++ told)) (p : List String) :
    given? full p = (given? vs p).or (given? told p) := by
  by_cases hs : ∀ n ∈ p, Spelled n
  · by_cases hu : ∃ u ∈ vs ++ told, Named p u.1
    · obtain ⟨u, hu, hnamed⟩ := hu
      have hname : ∀ v ∈ vs ++ told, Named p v.1 ↔ v.1 = u.1 := by
        intro v hv
        constructor
        · intro hn
          exact hone v hv u hu (isSome_key?_of_named hn) (hn.trans hnamed.symm)
        · intro hn
          rw [hn]
          exact hnamed
      have hfull : ∀ v ∈ full, Named p v.1 ↔ v.1 = u.1 := fun v hv =>
        hname v (List.mem_append.2 (he.mem v hv))
      rw [given?_eq_lookup hs hfull, he.lookup,
        given?_eq_lookup hs fun v hv => hname v (List.mem_append_left _ hv),
        given?_eq_lookup hs fun v hv => hname v (List.mem_append_right _ hv), Option.map_or]
    · have hnone {ws : Variables} (hw : ∀ v ∈ ws, v ∈ vs ++ told) : given? ws p = none := by
        rw [Option.eq_none_iff_forall_ne_some]
        intro w hg
        obtain ⟨-, v, hv, hn, -⟩ := exists_of_given? hg
        exact hu ⟨v, hw v hv, hn⟩
      rw [hnone fun v hv => List.mem_append.2 (he.mem v hv),
        hnone fun v hv => List.mem_append_left _ hv, hnone fun v hv => List.mem_append_right _ hv,
        Option.or_none]
  · simp only [given?, if_neg hs, Option.or_none]

end Environment

end Herald.Settings
