import Herald.Substitution

/-!
# Herald.Proofs.Substitution.Occurrence

Where the tags of a text stand.

* `Tag.At`: a tag begins at a place of a text. `Tag.At.apart`: two tags never overlap.
* `Tag.read?_eq_some_iff`: what is read at the front of a text is the tag that begins there.
* `Tag.Named`: what the text between the braces asks for.
-/

namespace Herald

namespace Tag

/-- The text of a tag with this text between the braces. -/
def braced (n : List Char) : List Char := '{' :: '{' :: (n ++ ['}', '}'])

@[simp] theorem length_braced (n : List Char) : (braced n).length = n.length + 4 := by
  simp [braced]

theorem source_ofInner (n : List Char) : (ofInner n).source = braced n := by
  rw [source, inner_ofInner, braced]

/-- A tag begins at place `i` of a text, with `n` between the braces. -/
structure At (cs : List Char) (i : Nat) (n : List Char) : Prop where
  nonempty : n ≠ []
  plain : ∀ c ∈ n, c ≠ '{' ∧ c ≠ '}'
  here : braced n <+: cs.drop i

section

variable {cs n m : List Char} {i j k : Nat}

theorem at_drop : At (cs.drop k) i n ↔ At cs (k + i) n := by
  constructor
  · rintro ⟨hn, hp, hh⟩
    exact ⟨hn, hp, by rwa [List.drop_drop] at hh⟩
  · rintro ⟨hn, hp, hh⟩
    exact ⟨hn, hp, by rwa [List.drop_drop]⟩

theorem takeWhile_plain (rest : List Char) (hp : ∀ c ∈ n, c ≠ '{' ∧ c ≠ '}') :
    (n ++ '}' :: '}' :: rest).takeWhile (!isBrace ·) = n ∧
      (n ++ '}' :: '}' :: rest).dropWhile (!isBrace ·) = '}' :: '}' :: rest := by
  have hn : ∀ c ∈ n, (!isBrace c) = true := by
    intro c hc
    simp [isBrace, hp c hc]
  constructor
  · rw [List.takeWhile_append_of_pos hn]
    simp [isBrace]
  · rw [List.dropWhile_append_of_pos hn]
    simp [isBrace]

theorem read?_braced (rest : List Char) (hn : n ≠ []) (hp : ∀ c ∈ n, c ≠ '{' ∧ c ≠ '}') :
    read? (braced n ++ rest) = some (ofInner n, rest) := by
  obtain ⟨ht, hd⟩ := takeWhile_plain rest hp
  obtain ⟨c, n, rfl⟩ := List.exists_cons_of_ne_nil hn
  have hb : braced (c :: n) ++ rest = '{' :: '{' :: (c :: n ++ '}' :: '}' :: rest) := by
    simp [braced]
  rw [hb, read?, ht, hd]
  rfl

/-- What is read at the front of a text is the tag that begins there. -/
theorem read?_eq_some_iff {t : Tag} {rest : List Char} :
    read? cs = some (t, rest) ↔ ∃ n, At cs 0 n ∧ t = ofInner n ∧ cs = braced n ++ rest := by
  constructor
  · intro h
    unfold read? at h
    split at h
    · next r =>
      split at h
      · next c n rest' ht hd =>
        obtain ⟨rfl, rfl⟩ := Prod.mk.inj (Option.some.inj h)
        have hr : r = c :: n ++ '}' :: '}' :: rest' := by
          have := List.takeWhile_append_dropWhile (p := (!isBrace ·)) (l := r)
          rw [ht, hd] at this
          exact this.symm
        have hp : ∀ x ∈ c :: n, x ≠ '{' ∧ x ≠ '}' := by
          intro x hx
          have hall : (r.takeWhile (!isBrace ·)).all (!isBrace ·) = true := List.all_takeWhile
          have hb := List.all_eq_true.1 hall x (ht ▸ hx)
          simpa [isBrace] using hb
        have hcs : '{' :: '{' :: r = braced (c :: n) ++ rest' := by simp [braced, hr]
        exact ⟨c :: n, ⟨List.cons_ne_nil _ _, hp, rest', hcs.symm⟩, rfl, hcs⟩
      · cases h
    · cases h
  · rintro ⟨n, hat, rfl, rfl⟩
    exact read?_braced rest hat.nonempty hat.plain

theorem read?_eq_none_iff : read? cs = none ↔ ∀ n, ¬ At cs 0 n := by
  constructor
  · intro h n hat
    obtain ⟨rest, hrest⟩ := hat.here
    have hcs : cs = braced n ++ rest := hrest.symm
    rw [hcs, read?_braced rest hat.nonempty hat.plain] at h
    cases h
  · intro h
    cases hr : read? cs with
    | none => rfl
    | some r =>
      obtain ⟨n, hat, -⟩ := read?_eq_some_iff.1 hr
      exact absurd hat (h n)

theorem lt_two_of_opening (hp : ∀ c ∈ n, c ≠ '{' ∧ c ≠ '}') (h : (braced n)[i]? = some '{') :
    i < 2 := by
  match i with
  | 0 => omega
  | 1 => omega
  | i + 2 =>
    have h : (n ++ ['}', '}'])[i]? = some '{' := h
    rcases List.mem_append.1 (List.mem_of_getElem? h) with hm | hm
    · exact absurd rfl (hp _ hm).1
    · simp at hm

/-- Behind the place where a tag begins, the next one begins only where it has ended. -/
theorem At.next (h : At cs 0 n) (h' : At cs i m) (hi : 0 < i) : n.length + 4 ≤ i := by
  obtain ⟨hn, hp, rest, hrest⟩ := h
  obtain ⟨-, -, rest', hrest'⟩ := h'
  have hcs : cs = braced n ++ rest := hrest.symm
  -- the second tag begins with two braces, and the first has room for them only at its front
  have hfirst : cs[i]? = some '{' := by
    have hd : (cs.drop i)[0]? = some '{' := by rw [← hrest']; rfl
    simpa using hd
  have hsecond : cs[i + 1]? = some '{' := by
    have hd : (cs.drop i)[1]? = some '{' := by rw [← hrest']; rfl
    simpa using hd
  refine Nat.le_of_not_lt fun hlt => ?_
  have hin : (braced n)[i]? = some '{' := by
    rwa [hcs, List.getElem?_append_left (by simp; omega)] at hfirst
  have hi1 : i = 1 := by
    have := lt_two_of_opening hp hin
    omega
  subst hi1
  have hin : (braced n)[2]? = some '{' := by
    rwa [hcs, List.getElem?_append_left (by simp)] at hsecond
  exact absurd (lt_two_of_opening hp hin) (by omega)

theorem At.unique (h : At cs i n) (h' : At cs i m) : n = m := by
  obtain ⟨rest, hrest⟩ := h.here
  obtain ⟨rest', hrest'⟩ := h'.here
  have hr := read?_braced rest h.nonempty h.plain
  rw [hrest, ← hrest', read?_braced rest' h'.nonempty h'.plain] at hr
  have ht := congrArg (Tag.inner ∘ Prod.fst) (Option.some.inj hr)
  simpa using ht.symm

theorem At.apart (h : At cs i n) (h' : At cs j m) (hij : i < j) : i + n.length + 4 ≤ j := by
  -- dropped up to its first tag, the text is one of `At.next`
  obtain ⟨k, rfl⟩ := Nat.exists_eq_add_of_lt hij
  have hk : At (cs.drop i) (k + 1) m := at_drop.2 (by rwa [← Nat.add_assoc])
  have := (at_drop.2 h : At (cs.drop i) 0 n).next hk (Nat.succ_pos k)
  omega

end

/-- What the text between the braces asks for: the encoded value of the name behind the mark, or
else the value of the whole. -/
inductive Named : List Char → Tag → Prop where
  | url {m : List Char} (h : m ≠ []) : Named (urlMark ++ m) ⟨true, m⟩
  | plain {n : List Char} (h : ∀ m, m ≠ [] → n ≠ urlMark ++ m) : Named n ⟨false, n⟩

theorem named_iff {n : List Char} {t : Tag} : Named n t ↔ t = ofInner n := by
  have hof : Named n (ofInner n) := by
    unfold ofInner
    split
    · next c m h =>
      rw [Text.after?_eq_some_iff.1 h]
      exact .url (List.cons_ne_nil c m)
    · next h =>
      refine .plain fun m hm he => ?_
      obtain ⟨c, m, rfl⟩ := List.exists_cons_of_ne_nil hm
      exact h c m (by rw [he, Text.after?_append])
  constructor
  · intro h
    cases h with
    | @url m hm =>
      obtain ⟨c, m, rfl⟩ := List.exists_cons_of_ne_nil hm
      simp [ofInner]
    | plain hp =>
      generalize ofInner n = t at hof
      cases hof with
      | url hm => exact absurd rfl (hp _ hm)
      | plain _ => rfl
  · rintro rfl
    exact hof

end Tag

end Herald
