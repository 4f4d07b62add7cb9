import Herald.Proofs.Substitution.Occurrence

/-!
# Herald.Proofs.Substitution.Pattern

The tags of a text as the matches of a pattern.

* `Pattern.ways`: the ways in which a pattern matches at the front of a text. Which comes first is
  decided from left to right: a repetition takes as much as it can, an option is taken if it can be.
* `Tag.pattern`: the pattern of a tag, with a group for the mark and one for the name.
* `Tag.head?_ways`: the first way in which it matches is the tag that is read.
-/

namespace Herald

/-- A pattern with groups. -/
inductive Pattern where
  | text (cs : List Char)
  /-- One or more characters with a property. -/
  | many (p : Char → Bool)
  | seq (a b : Pattern)
  /-- A pattern or nothing. -/
  | option (a : Pattern)
  | group (a : Pattern)

namespace Pattern

def groups : Pattern → Nat
  | text _ => 0
  | many _ => 0
  | seq a b => a.groups + b.groups
  | option a => a.groups
  | group a => a.groups + 1

/-- The ways in which a pattern matches at the front of a text, the preferred one first: what its
groups hold, and what follows the match. -/
def ways : Pattern → List Char → List (List (Option (List Char)) × List Char)
  | text t, cs => ((Text.after? t cs).map fun rest => ([], rest)).toList
  | many p, cs =>
    (List.range (cs.takeWhile p).length).reverse.map fun i => ([], cs.drop (i + 1))
  | seq a b, cs => (a.ways cs).flatMap fun x => (b.ways x.2).map fun y => (x.1 ++ y.1, y.2)
  | option a, cs => a.ways cs ++ [(List.replicate a.groups none, cs)]
  | group a, cs => (a.ways cs).map fun x => (some (cs.take (cs.length - x.2.length)) :: x.1, x.2)

end Pattern

namespace Tag

open Pattern

/-- A name and the braces behind it. -/
def ending : Pattern := .seq (.group (.many (!isBrace ·))) (.text ['}', '}'])

def pattern : Pattern :=
  .seq (.text ['{', '{']) (.seq (.option (.group (.text urlMark))) ending)

/-- What the groups of the pattern hold for a tag. -/
def captures (t : Tag) : List (Option (List Char)) :=
  [if t.encoded then some urlMark else none, some t.name]

def Plain (n : List Char) : Prop := ∀ c ∈ n, isBrace c = false

/-- A text that begins with a brace, or is empty. -/
def AtBrace (cs : List Char) : Prop := ∀ c, cs.head? = some c → isBrace c = true

variable {n tail : List Char}

theorem takeWhile_run (hn : Plain n) (ht : AtBrace tail) :
    (n ++ tail).takeWhile (!isBrace ·) = n ∧ (n ++ tail).dropWhile (!isBrace ·) = tail := by
  have hp : ∀ c ∈ n, (!isBrace c) = true := fun c hc => by rw [hn c hc]; rfl
  rw [List.takeWhile_append_of_pos hp, List.dropWhile_append_of_pos hp]
  cases tail with
  | nil => exact ⟨List.append_nil n, rfl⟩
  | cons c tail =>
    have hc : isBrace c = true := ht c rfl
    simp [hc]

theorem after?_run (hn : Plain n) (hne : n ≠ []) :
    Text.after? ['}', '}'] (n ++ tail) = none := by
  obtain ⟨c, n, rfl⟩ := List.exists_cons_of_ne_nil hne
  cases h : Text.after? ['}', '}'] (c :: n ++ tail) with
  | none => rfl
  | some rest =>
    have hc := Text.after?_eq_some_iff.1 h
    obtain rfl : c = '}' := (List.cons.inj hc).1
    cases hn '}' List.mem_cons_self

theorem ways_ending (hn : Plain n) (ht : AtBrace tail) :
    ending.ways (n ++ tail) =
      if n = [] then []
      else ((Text.after? ['}', '}'] tail).map fun rest => ([some n], rest)).toList := by
  simp only [ending, ways, (takeWhile_run hn ht).1]
  cases hl : n.length with
  | zero => simp [List.length_eq_zero_iff.1 hl]
  | succ m =>
    have hne : n ≠ [] := fun h => by simp [h] at hl
    -- behind a shorter part of the run comes a character of the run, and that is no brace
    have hshort : ∀ i ∈ (List.range m).reverse,
        Text.after? ['}', '}'] ((n ++ tail).drop (i + 1)) = none := by
      intro i hi
      have hi : i < m := by simpa using hi
      rw [List.drop_append_of_le_length (by omega)]
      refine after?_run (fun c hc => hn c (List.mem_of_mem_drop hc)) fun h => ?_
      have := congrArg List.length h
      simp [hl] at this
      omega
    have hlong : (n ++ tail).drop (m + 1) = tail := by rw [← hl, List.drop_left]
    have hwhole : (n ++ tail).take ((n ++ tail).length - tail.length) = n := by simp
    rw [List.range_succ, List.reverse_append, List.reverse_singleton, List.singleton_append,
      List.map_cons, List.map_cons, List.flatMap_cons, List.map_map, List.flatMap_map, hlong,
      hwhole, if_neg hne, List.flatMap_eq_nil_iff.2, List.append_nil]
    · cases Text.after? ['}', '}'] tail <;> rfl
    · intro i hi
      simp [hshort i hi]

theorem plain_urlMark : Plain urlMark := by
  simp [Plain, urlMark, isBrace]

/-- The mark is at the front of a run, or of nothing. -/
theorem after?_urlMark (hn : Plain n) (ht : AtBrace tail) {rest : List Char}
    (h : Text.after? urlMark (n ++ tail) = some rest) :
    ∃ m, Plain m ∧ n = urlMark ++ m ∧ rest = m ++ tail := by
  have hr : n ++ tail = urlMark ++ rest := Text.after?_eq_some_iff.1 h
  rcases List.append_eq_append_iff.1 hr with ⟨m, hm, htail⟩ | ⟨m, rfl, rfl⟩
  · cases m with
    | nil =>
      rw [List.append_nil] at hm
      exact ⟨[], nofun, by rw [hm, List.append_nil], htail.symm⟩
    | cons c m =>
      have hc : c ∈ urlMark := hm ▸ List.mem_append_right n List.mem_cons_self
      have hb : isBrace c = true := ht c (by rw [htail]; rfl)
      rw [plain_urlMark c hc] at hb
      cases hb
  · exact ⟨m, fun c hc => hn c (List.mem_append_right _ hc), rfl, rfl⟩

/-- The mark is taken if it can be, and left otherwise. -/
theorem ways_marked (cs : List Char) :
    (Pattern.seq (.option (.group (.text urlMark))) ending).ways cs =
      (match Text.after? urlMark cs with
        | some rest => (ending.ways rest).map fun y => (some urlMark :: y.1, y.2)
        | none => []) ++ (ending.ways cs).map fun y => (none :: y.1, y.2) := by
  rw [ways]
  cases h : Text.after? urlMark cs with
  | none => simp [ways, h, groups]
  | some rest =>
    have hcs : cs = urlMark ++ rest := Text.after?_eq_some_iff.1 h
    simp [ways, groups, hcs]

theorem ways_name (hn : Plain n) (ht : AtBrace tail) :
    ((Pattern.seq (.option (.group (.text urlMark))) ending).ways (n ++ tail)).head? =
      if n = [] then none
      else (Text.after? ['}', '}'] tail).map fun rest => ((ofInner n).captures, rest) := by
  rw [ways_marked, ways_ending hn ht]
  cases hu : Text.after? urlMark (n ++ tail) with
  | none =>
    have hinner : ofInner n = ⟨false, n⟩ := by
      cases hm : Text.after? urlMark n with
      | none => simp [ofInner, hm]
      | some m =>
        rw [Text.after?_eq_some_iff.1 hm, List.append_assoc, Text.after?_append] at hu
        cases hu
    by_cases hne : n = []
    · simp [hne]
    · cases Text.after? ['}', '}'] tail <;> simp [hne, hinner, captures]
  | some rest =>
    obtain ⟨m, hm, rfl, rfl⟩ := after?_urlMark hn ht hu
    have hne : urlMark ++ m ≠ [] := by simp [urlMark]
    simp only [ways_ending hm ht, if_neg hne]
    cases m with
    | nil =>
      -- nothing is left for the name, so the pattern goes back and takes the mark as the name
      have hinner : ofInner urlMark = ⟨false, urlMark⟩ := by decide
      cases Text.after? ['}', '}'] tail <;> simp [hinner, captures]
    | cons c m =>
      have hinner : ofInner (urlMark ++ c :: m) = ⟨true, c :: m⟩ := by simp [ofInner]
      cases Text.after? ['}', '}'] tail <;> simp [hinner, captures]

theorem read?_run (hn : Plain n) (ht : AtBrace tail) :
    read? ('{' :: '{' :: (n ++ tail)) =
      if n = [] then none
      else (Text.after? ['}', '}'] tail).map fun rest => (ofInner n, rest) := by
  obtain ⟨htake, hdrop⟩ := takeWhile_run hn ht
  simp only [read?, htake, hdrop]
  cases n with
  | nil => rfl
  | cons c n =>
    cases h : Text.after? ['}', '}'] tail with
    | some rest =>
      rw [Text.after?_eq_some_iff.1 h]
      rfl
    | none =>
      split
      · next rest _ =>
        cases h
      · rfl

/-- The first way in which the pattern matches is the tag that is read. -/
theorem head?_ways (cs : List Char) :
    (pattern.ways cs).head? = (read? cs).map fun x => (x.1.captures, x.2) := by
  cases h : Text.after? ['{', '{'] cs with
  | none =>
    have hr : read? cs = none := by
      unfold read?
      split
      · cases h
      · rfl
    simp [pattern, ways, h, hr]
  | some r =>
    obtain rfl : cs = ['{', '{'] ++ r := Text.after?_eq_some_iff.1 h
    have hn : Plain (r.takeWhile (!isBrace ·)) := fun c hc => by
      simpa using List.all_eq_true.1 List.all_takeWhile c hc
    have ht : AtBrace (r.dropWhile (!isBrace ·)) := fun c hc => by
      have := List.head?_dropWhile_not (!isBrace ·) r
      rw [hc] at this
      simpa using this
    have hr : r.takeWhile (!isBrace ·) ++ r.dropWhile (!isBrace ·) = r :=
      List.takeWhile_append_dropWhile
    generalize r.takeWhile (!isBrace ·) = n at hn hr
    generalize r.dropWhile (!isBrace ·) = tail at ht hr
    subst hr
    have hways : pattern.ways (['{', '{'] ++ (n ++ tail)) =
        (Pattern.seq (.option (.group (.text urlMark))) ending).ways (n ++ tail) := by
      rw [pattern, ways, ways, h]
      simp
    have hread : read? (['{', '{'] ++ (n ++ tail)) =
        if n = [] then none
        else (Text.after? ['}', '}'] tail).map fun rest => (ofInner n, rest) := read?_run hn ht
    rw [hways, ways_name hn ht, hread]
    split
    · rfl
    · rw [Option.map_map]
      rfl

theorem head?_ways_drop {cs : List Char} {i : Nat} {r : List (Option (List Char)) × List Char} :
    (pattern.ways (cs.drop i)).head? = some r ↔
      ∃ n t, At cs i n ∧ Named n t ∧ r = (t.captures, cs.drop (i + n.length + 4)) := by
  have behind {n rest : List Char} (h : cs.drop i = braced n ++ rest) :
      cs.drop (i + n.length + 4) = rest := by
    rw [Nat.add_assoc, ← List.drop_drop, h, ← length_braced, List.drop_left]
  rw [head?_ways, Option.map_eq_some_iff]
  constructor
  · rintro ⟨⟨t, rest⟩, hr, rfl⟩
    obtain ⟨n, hat, ht, hcs⟩ := read?_eq_some_iff.1 hr
    exact ⟨n, t, at_drop.1 hat, named_iff.2 ht, by rw [behind hcs]⟩
  · rintro ⟨n, t, hat, ht, rfl⟩
    obtain ⟨rest, hrest⟩ := hat.here
    rw [behind hrest.symm]
    exact ⟨(t, rest), read?_eq_some_iff.2 ⟨n, at_drop.2 hat, named_iff.1 ht, hrest.symm⟩, rfl⟩

end Tag

end Herald
