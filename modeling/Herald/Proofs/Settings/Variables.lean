import Herald.Proofs.Settings.Documents
import Herald.Proofs.Text.Lowercase

/-!
# Herald.Proofs.Settings.Variables

Where the variables of an environment lead.

* `Path.ofKey_cases`: a key without brackets leads to names within tables, or is a name itself.
* `Environment.expand_levels`: two underscores and points say the same.
* `Environment.key?_cases`: a regular variable is that of the place to which it leads, or it leads
  to a name that is no path.
-/

namespace Herald.Settings

open Value

namespace Path

/-- A key that is read is names with points between them. -/
theorem names_of_steps? {read cs : List Char} {steps : List Step} (hb : '[' ∉ cs)
    (hread : read.all isNameChar = true) (h : steps? (.name read) cs = some steps) :
    ∃ ns : List (List Char), ns ≠ [] ∧ (∀ n ∈ ns, n ≠ [] ∧ n.all isNameChar = true) ∧
      steps = ns.map (fun n => .member (String.ofList n)) ∧
      read.reverse ++ cs = ['.'].intercalate ns := by
  induction cs generalizing read steps with
  | nil =>
    rw [steps?] at h
    split at h
    · cases h
    · next hne =>
      cases h
      refine ⟨[read.reverse], List.cons_ne_nil _ _, ?_, rfl, by simp⟩
      simpa [hne] using hread
  | cons c cs ih =>
    obtain ⟨hc, hcs⟩ : c ≠ '[' ∧ '[' ∉ cs := ⟨fun he => hb (he ▸ List.mem_cons_self),
      fun hm => hb (List.mem_cons_of_mem _ hm)⟩
    rw [steps?] at h
    split at h
    case isTrue hchar =>
      obtain ⟨ns, hne, hns, hsteps, hcat⟩ := ih hcs (by simp [hchar, hread]) h
      exact ⟨ns, hne, hns, hsteps, by simpa using hcat⟩
    case isFalse hchar =>
    split at h
    case isTrue => cases h
    case isFalse hne =>
    split at h
    case isTrue hpoint =>
      -- a point ends the name that was read so far
      obtain ⟨rest, hrest, rfl⟩ := Option.map_eq_some_iff.1 h
      obtain ⟨ns, hns, hnames, rfl, hcat⟩ := ih hcs (by rfl) hrest
      obtain ⟨n, ns, rfl⟩ := List.exists_cons_of_ne_nil hns
      refine ⟨read.reverse :: n :: ns, List.cons_ne_nil _ _, ?_, rfl, ?_⟩
      · refine List.forall_mem_cons.2 ⟨?_, hnames⟩
        simpa [hne] using hread
      · rw [List.intercalate_cons_cons, ← hcat, hpoint]
        simp
    case isFalse => cases h

/-- A key without brackets leads to names within tables, or is a name itself. -/
theorem ofKey_cases {key : String} (hb : '[' ∉ key.toList) :
    (∃ ns, ns ≠ [] ∧ (∀ n ∈ ns, n ≠ "" ∧ n.toList.all isNameChar = true) ∧ key = joined ns ∧
      ofKey key = ns.map .member) ∨
    read? key = none ∧ ofKey key = [.member key] := by
  cases hr : read? key with
  | none => exact .inr ⟨rfl, by rw [ofKey, hr]; rfl⟩
  | some steps =>
    obtain ⟨ns, hne, hns, hsteps, hcat⟩ := names_of_steps? hb (by rfl) hr
    refine .inl ⟨ns.map String.ofList, by simpa using hne, ?_, ?_, ?_⟩
    · intro n hn
      obtain ⟨m, hm, rfl⟩ := List.mem_map.1 hn
      obtain ⟨hnil, hchars⟩ := hns m hm
      refine ⟨fun he => hnil ?_, by rwa [String.toList_ofList]⟩
      rw [← String.toList_ofList (l := m), he, String.toList_empty]
    · have hid : (ns.map String.ofList).map String.toList = ns := by simp [Function.comp_def]
      rw [joined, hid, ← hcat, List.reverse_nil, List.nil_append, String.ofList_toList]
    · rw [ofKey, hr, hsteps, List.map_map]
      rfl

/-- A key without points and brackets is a name. -/
theorem ofKey_plain {key : String} (hp : '.' ∉ key.toList) (hb : '[' ∉ key.toList) :
    ofKey key = [.member key] := by
  rcases ofKey_cases hb with ⟨ns, hne, -, hkey, hof⟩ | ⟨-, hof⟩
  · match ns, hne with
    | [n], _ =>
      have hn : key = n := by rw [hkey]; simp [joined]
      rw [hof, hn, List.map_cons, List.map_nil]
    | n :: m :: ns, _ =>
      refine absurd ?_ hp
      rw [hkey, joined, String.toList_ofList]
      simp
  · exact hof

end Path

namespace Environment

open Text (occurs)

variable {cs : List Char}

/-- Two underscores in place of each point. -/
def expand (cs : List Char) : List Char := cs.flatMap fun c => if c = '.' then ['_', '_'] else [c]

theorem expand_levels (h : '.' ∉ cs) : expand (levels cs) = cs := by
  fun_induction levels cs with
  | case1 r ih =>
    have hr : '.' ∉ r := fun hm => h (by simp [hm])
    have hi := ih hr
    simp only [expand, List.flatMap_cons] at hi ⊢
    rw [hi]
    rfl
  | case2 c r _ ih =>
    have hc : c ≠ '.' := fun he => h (he ▸ List.mem_cons_self)
    have hi := ih fun hm => h (List.mem_cons_of_mem _ hm)
    simp only [expand, List.flatMap_cons] at hi ⊢
    rw [hi, if_neg hc]
    rfl
  | case3 => rfl

theorem expand_eq_self (h : '.' ∉ cs) : expand cs = cs := by
  induction cs with
  | nil => rfl
  | cons c cs ih =>
    have hc : c ≠ '.' := fun he => h (he ▸ List.mem_cons_self)
    have hi := ih fun hm => h (List.mem_cons_of_mem _ hm)
    rw [expand, List.flatMap_cons, if_neg hc]
    exact congrArg _ hi

theorem expand_intercalate {ns : List (List Char)} (h : ∀ n ∈ ns, '.' ∉ n) :
    expand (['.'].intercalate ns) = ['_', '_'].intercalate ns := by
  induction ns with
  | nil => rfl
  | cons n ns ih =>
    obtain ⟨hn, hns⟩ := List.forall_mem_cons.1 h
    cases ns with
    | nil =>
      rw [List.intercalate_singleton, List.intercalate_singleton]
      exact expand_eq_self hn
    | cons m ns =>
      have hi := ih hns
      have happend (a b : List Char) : expand (a ++ b) = expand a ++ expand b :=
        List.flatMap_append
      rw [List.intercalate_cons_cons, List.intercalate_cons_cons, happend, happend, hi,
        expand_eq_self hn]
      rfl

theorem mem_levels {c : Char} (h : c ∈ levels cs) : c = '.' ∨ c ∈ cs := by
  fun_induction levels cs with
  | case1 r ih =>
    rcases List.mem_cons.1 h with rfl | h
    · exact .inl rfl
    · exact (ih h).imp_right fun hm => by simp [hm]
  | case2 d r _ ih =>
    rcases List.mem_cons.1 h with rfl | h
    · exact .inr List.mem_cons_self
    · exact (ih h).imp_right (List.mem_cons_of_mem _)
  | case3 => cases h

theorem head?_levels (h : (levels cs).head? = some '_') : cs.head? = some '_' := by
  unfold levels at h
  split at h
  · cases h
  · exact h
  · cases h

/-- No two underscores are left in a row. -/
theorem unbroken_levels (cs : List Char) : occurs ['_', '_'] (levels cs) = false := by
  fun_induction levels cs with
  | case1 r ih => simpa [occurs, Text.after?] using ih
  | case2 c r hc ih =>
    rw [occurs, ih, Bool.or_false, Bool.eq_false_iff]
    intro hs
    obtain ⟨t, ht⟩ := Option.isSome_iff_exists.1 hs
    obtain ⟨rfl, hrest⟩ := List.cons.inj (Text.after?_eq_some_iff.1 ht)
    have hhead : r.head? = some '_' := head?_levels (by rw [hrest]; rfl)
    obtain ⟨r', rfl⟩ := List.head?_eq_some_iff.1 hhead
    exact hc r' rfl rfl
  | case3 => rfl

/-- A name without the signs that have a meaning within keys only. -/
structure Regular (name : String) : Prop where
  points : '.' ∉ name.toList
  brackets : '[' ∉ name.toList

instance (name : String) : Decidable (Regular name) :=
  decidable_of_iff ('.' ∉ name.toList ∧ '[' ∉ name.toList)
    ⟨fun h => ⟨h.1, h.2⟩, fun h => ⟨h.1, h.2⟩⟩

theorem infix_intercalate {n sep : List Char} {ns : List (List Char)} (h : n ∈ ns) :
    n <:+: sep.intercalate ns := by
  induction ns with
  | nil => cases h
  | cons m ns ih =>
    cases ns with
    | nil =>
      obtain rfl := List.mem_singleton.1 h
      rw [List.intercalate_singleton]
    | cons k ns =>
      rw [List.intercalate_cons_cons]
      rcases List.mem_cons.1 h with rfl | h
      · rw [List.append_assoc]
        exact (List.prefix_append _ _).isInfix
      · exact (ih h).trans (List.suffix_append _ _).isInfix

theorem not_isUpper_of_small {c : Char} (h : Text.Small c) : c.isUpper = false := by
  rw [Bool.eq_false_iff]
  intro hu
  have hascii : c.toNat < 0x80 := by
    have hz : c.toNat ≤ 'Z'.toNat := (of_decide_eq_true hu).2
    exact Nat.lt_of_le_of_lt hz (by decide)
  have all : ∀ n < 0x80, (Char.ofNat n).isUpper = true → ¬ Text.Small (Char.ofNat n) := by
    decide +kernel
  have hc := all c.toNat hascii
  rw [Char.ofNat_toNat] at hc
  exact hc hu h

/-- A regular variable is that of the place to which it leads, or it leads to a name that is no
path. -/
theorem key?_cases {name k : String} (hn : Regular name) (hk : key? name = some k) :
    (∃ ns, ns ≠ [] ∧ (∀ n ∈ ns, Spelled n) ∧ Named ns name ∧ k = Path.joined ns ∧
      Path.ofKey k = ns.map .member) ∨
    Path.read? k = none ∧ Path.ofKey k = [.member k] ∧ Value.key k = k := by
  obtain ⟨r, hr, rfl⟩ := Option.map_eq_some_iff.1 hk
  have hname := Text.after?_eq_some_iff.1 hr
  have hmem {c : Char} (hascii : c.toNat < 0x80) (hl : c.isLower = false)
      (hc : c ∉ name.toList) : c ∉ r := by
    intro hm
    refine hc (Text.mem_of_mem_lowercase hascii hl ?_)
    rw [hname]
    exact List.mem_append_right _ hm
  have hpoint : '.' ∉ r := hmem (by decide) (by decide) hn.points
  have hbracket : '[' ∉ levels r := by
    intro hm
    rcases mem_levels hm with he | hm
    · cases he
    · exact hmem (by decide) (by decide) hn.brackets hm
  have hsmall : ∀ c ∈ levels r, Text.Small c := by
    intro c hc
    rcases mem_levels hc with rfl | hc
    · decide +kernel
    · have hlower : c ∈ Text.lowercase name.toList := by
        rw [hname]
        exact List.mem_append_right _ hc
      exact Text.small_of_mem_lowercase hlower
  have hkeys : '[' ∉ (String.ofList (levels r)).toList := by rwa [String.toList_ofList]
  rcases Path.ofKey_cases hkeys with ⟨ns, hne, hns, hkey, hof⟩ | ⟨hread, hof⟩
  · have hlevels : levels r = ['.'].intercalate (ns.map String.toList) := by
      rw [Path.joined] at hkey
      exact String.ofList_injective hkey
    have hwithin {n : String} (hm : n ∈ ns) : n.toList <:+: levels r := by
      rw [hlevels]
      exact infix_intercalate (List.mem_map_of_mem hm)
    refine .inl ⟨ns, hne, fun n hm => ⟨(hns n hm).1, ?_, ?_⟩, ?_, hkey, hof⟩
    · rw [List.all_eq_true]
      intro c hc
      have hchar := List.all_eq_true.1 (hns n hm).2 c hc
      have hupper := not_isUpper_of_small (hsmall c ((hwithin hm).subset hc))
      rw [isSmall, hchar, hupper]
      rfl
    · rw [Bool.eq_false_iff]
      intro ho
      obtain ⟨a, b, hab⟩ := Text.occurs_iff.1 ho
      obtain ⟨x, y, hxy⟩ := hwithin hm
      have hall : occurs ['_', '_'] (levels r) = true := by
        refine Text.occurs_iff.2 ⟨x ++ a, b ++ y, ?_⟩
        rw [← hxy, hab]
        simp
      rw [unbroken_levels] at hall
      cases hall
    · have hdots : ∀ n ∈ ns.map String.toList, '.' ∉ n := by
        intro n hn hdot
        obtain ⟨m, hm, rfl⟩ := List.mem_map.1 hn
        exact absurd (List.all_eq_true.1 (hns m hm).2 '.' hdot) (by decide)
      rw [Named, hname, ← expand_intercalate hdots, ← hlevels, expand_levels hpoint]
  · refine .inr ⟨hread, hof, ?_⟩
    rw [Value.key, String.toList_ofList, Text.lowercase_of_small hsmall]

end Environment

theorem Spelled.regular {name : String} (h : Spelled name) : Environment.Regular name := by
  have hsmall := List.all_eq_true.1 h.small
  exact ⟨fun hm => absurd (hsmall _ hm) (by decide), fun hm => absurd (hsmall _ hm) (by decide)⟩

end Herald.Settings
