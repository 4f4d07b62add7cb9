import Herald.Proofs.Charset.Bytes
import Herald.Proofs.Substitution.Pattern

/-!
# Herald.Proofs.Substitution.Exact

A rendering replaces the tags that have a value, and nothing else.

* `Tag.Yields`, `Tag.Refuses`: what stands in the place of a tag, and why nothing can.
* `Rendering`: a text with all its tags replaced, place by place. `Rendering.unique`: there is one
  at most.
* `Refusal`: the fault of the leftmost tag that cannot be replaced.
* `render_exact`: a rendering comes to the one or the other.
-/

namespace Herald

variable {e : UrlEncoder} {values : Placeholders} {cs n out : List Char}

namespace Tag

/-- What stands in the place of a tag with `n` between the braces. -/
inductive Yields (e : UrlEncoder) (values : Placeholders) (n : List Char) : List Char → Prop where
  /-- A tag without a value stays as it is. -/
  | kept {t : Tag} (hn : Named n t) (hv : values.get? (String.ofList t.name) = none) :
    Yields e values n (braced n)
  | verbatim {name : List Char} {v : String} (hn : Named n ⟨false, name⟩)
    (hv : values.get? (String.ofList name) = some v) : Yields e values n v.toList
  | encoded {name : List Char} {v : String} {c : Charset} {bs : List UInt8}
    (hn : Named n ⟨true, name⟩) (hv : values.get? (String.ofList name) = some v)
    (hc : e.charset = some c) (hb : c.bytes? v.toList = some bs) :
    Yields e values n (Percent.encode bs)

/-- Why nothing can stand in the place of a tag: its value is to be encoded, and there is no charset
for it, or the charset has no byte for one of its characters. -/
inductive Refuses (e : UrlEncoder) (values : Placeholders) (n : List Char) :
    EncodingError → Prop where
  | unusable {name : List Char} {v : String} (hn : Named n ⟨true, name⟩)
    (hv : values.get? (String.ofList name) = some v) (hc : e.charset = none) :
    Refuses e values n (.unusableCharset (String.ofList name) e.label)
  | outside {name : List Char} {v : String} (hn : Named n ⟨true, name⟩)
    (hv : values.get? (String.ofList name) = some v) (hc : e.charset = some .latin1)
    (hx : ∃ x ∈ v.toList, 255 < x.toNat) : Refuses e values n (.outsideLatin1 v)

end Tag

theorem fill_tag (e : UrlEncoder) (values : Placeholders) (n : List Char) :
    match (Segment.tag (.ofInner n)).fill e values with
    | .ok out => Tag.Yields e values n out
    | .error fault => Tag.Refuses e values n fault := by
  have hn : Tag.Named n (.ofInner n) := Tag.named_iff.2 rfl
  have hs : (Tag.ofInner n).source = Tag.braced n := Tag.source_ofInner n
  generalize Tag.ofInner n = t at hn hs ⊢
  obtain ⟨encoded, name⟩ := t
  simp only [Segment.fill]
  cases hv : values.get? (String.ofList name) with
  | none => exact hs ▸ .kept hn hv
  | some v =>
    cases encoded with
    | false => exact .verbatim hn hv
    | true =>
      cases hc : e.charset with
      | none => simpa [UrlEncoder.encode, hc] using .unusable hn hv hc
      | some c =>
        cases hb : c.bytes? v.toList with
        | some bs =>
          simpa [UrlEncoder.encode, Charset.encode, hc, hb, Except.map] using .encoded hn hv hc hb
        | none =>
          cases c with
          | utf8 => cases hb
          | latin1 =>
            simpa [UrlEncoder.encode, Charset.encode, hc, hb, Except.map] using
              .outside hn hv hc (Charset.bytes?_latin1_eq_none.1 hb)

/-! ## Place by place -/

/-- A text with all its tags replaced. What a tag yields is put at its first place and nothing at
its others, and every character outside of tags is copied. -/
def Rendering (e : UrlEncoder) (values : Placeholders) (cs out : List Char) : Prop :=
  ∃ piece : Nat → List Char, out = (List.range cs.length).flatMap piece ∧
    (∀ i n, Tag.At cs i n → Tag.Yields e values n (piece i)) ∧
    (∀ i j n, Tag.At cs j n → j < i → i < j + n.length + 4 → piece i = []) ∧
    ∀ i c, cs[i]? = some c → (∀ j n, Tag.At cs j n → i < j ∨ j + n.length + 4 ≤ i) → piece i = [c]

/-- The fault of the leftmost tag that cannot be replaced. -/
def Refusal (e : UrlEncoder) (values : Placeholders) (cs : List Char) (fault : EncodingError) :
    Prop :=
  ∃ i n, Tag.At cs i n ∧ Tag.Refuses e values n fault ∧
    ∀ j m fault', Tag.At cs j m → j < i → ¬ Tag.Refuses e values m fault'

namespace Tag

theorem Named.unique {t u : Tag} (ht : Named n t) (hu : Named n u) : t = u :=
  (named_iff.1 ht).trans (named_iff.1 hu).symm

theorem Yields.unique {p q : List Char} (hp : Yields e values n p) (hq : Yields e values n q) :
    p = q := by
  cases hp with
  | kept hn hv =>
    cases hq with
    | kept => rfl
    | verbatim hn' hv' => cases hn.unique hn'; cases hv.symm.trans hv'
    | encoded hn' hv' => cases hn.unique hn'; cases hv.symm.trans hv'
  | verbatim hn hv =>
    cases hq with
    | kept hn' hv' => cases hn.unique hn'; cases hv.symm.trans hv'
    | verbatim hn' hv' => cases hn.unique hn'; cases hv.symm.trans hv'; rfl
    | encoded hn' => cases hn.unique hn'
  | encoded hn hv hc hb =>
    cases hq with
    | kept hn' hv' => cases hn.unique hn'; cases hv.symm.trans hv'
    | verbatim hn' => cases hn.unique hn'
    | encoded hn' hv' hc' hb' =>
      cases hn.unique hn'
      cases hv.symm.trans hv'
      cases hc.symm.trans hc'
      cases hb.symm.trans hb'
      rfl

theorem Refuses.unique {f f' : EncodingError} (h : Refuses e values n f)
    (h' : Refuses e values n f') : f = f' := by
  cases h with
  | unusable hn hv hc =>
    cases h' with
    | unusable hn' => cases hn.unique hn'; rfl
    | outside hn' hv' hc' => cases hc.symm.trans hc'
  | outside hn hv hc =>
    cases h' with
    | unusable hn' hv' hc' => cases hc.symm.trans hc'
    | outside hn' hv' => cases hn.unique hn'; cases hv.symm.trans hv'; rfl

theorem Yields.not_refuses {p : List Char} {f : EncodingError} (h : Yields e values n p) :
    ¬ Refuses e values n f := by
  intro hf
  cases h with
  | kept hn hv =>
    cases hf with
    | unusable hn' hv' => cases hn.unique hn'; cases hv.symm.trans hv'
    | outside hn' hv' => cases hn.unique hn'; cases hv.symm.trans hv'
  | verbatim hn =>
    cases hf with
    | unusable hn' => cases hn.unique hn'
    | outside hn' => cases hn.unique hn'
  | encoded hn hv hc hb =>
    cases hf with
    | unusable hn' hv' hc' => cases hc.symm.trans hc'
    | outside hn' hv' hc' hx =>
      cases hn.unique hn'
      cases hv.symm.trans hv'
      cases hc.symm.trans hc'
      cases hb.symm.trans (Charset.bytes?_latin1_eq_none.2 hx)

end Tag

theorem Rendering.unique {out' : List Char} (h : Rendering e values cs out)
    (h' : Rendering e values cs out') : out = out' := by
  obtain ⟨p, rfl, htag, hin, hout⟩ := h
  obtain ⟨q, rfl, htag', hin', hout'⟩ := h'
  -- a place is the first one of a tag, another one of a tag, or outside of all
  refine congrArg List.flatten (List.map_congr_left fun i hi => ?_)
  have hi : i < cs.length := List.mem_range.1 hi
  by_cases hat : ∃ n, Tag.At cs i n
  · obtain ⟨n, hat⟩ := hat
    exact (htag i n hat).unique (htag' i n hat)
  · by_cases hinner : ∃ j n, Tag.At cs j n ∧ j < i ∧ i < j + n.length + 4
    · obtain ⟨j, n, hat, hlt, hle⟩ := hinner
      rw [hin i j n hat hlt hle, hin' i j n hat hlt hle]
    · have hplain : ∀ j n, Tag.At cs j n → i < j ∨ j + n.length + 4 ≤ i := by
        intro j n hj
        have hne : j ≠ i := fun he => hat ⟨n, he ▸ hj⟩
        have hno : ¬ (j < i ∧ i < j + n.length + 4) := fun hh => hinner ⟨j, n, hj, hh⟩
        omega
      have hc := List.getElem?_eq_getElem hi
      rw [hout i _ hc hplain, hout' i _ hc hplain]

/-- The front of a text: one tag, or one character where none begins. -/
structure Front (cs : List Char) (k : Nat) : Prop where
  le : k ≤ cs.length
  next : ∀ i n, Tag.At cs i n → 0 < i → k ≤ i
  ends : ∀ n, Tag.At cs 0 n → k = n.length + 4
  single : (∀ n, ¬ Tag.At cs 0 n) → k = 1

theorem Front.tag {n rest : List Char} (h : Tag.At (Tag.braced n ++ rest) 0 n) :
    Front (Tag.braced n ++ rest) (n.length + 4) where
  le := by simp
  next _ _ h' hi := h.next h' hi
  ends m hm := by rw [h.unique hm]
  single hn := absurd h (hn n)

theorem Front.char {c : Char} {rest : List Char} (h : ∀ n, ¬ Tag.At (c :: rest) 0 n) :
    Front (c :: rest) 1 where
  le := by simp
  next _ _ _ hi := hi
  ends n hn := absurd hn (h n)
  single _ := rfl

theorem Rendering.nil : Rendering e values [] [] := by
  have hno (i : Nat) (n : List Char) : ¬ Tag.At [] i n := by
    rintro ⟨-, -, h⟩
    simp [Tag.braced] at h
  refine ⟨fun _ => [], rfl, fun i n h => absurd h (hno i n), fun _ _ _ _ _ _ => rfl, ?_⟩
  intro i c hc
  cases hc

/-- The pieces of a text with a front of length `k`, given those of the rest. -/
def Front.pieces (k : Nat) (q : List Char) (p : Nat → List Char) (i : Nat) : List Char :=
  if i = 0 then q else if i < k then [] else p (i - k)

theorem Front.pieces_inner {k i : Nat} {q : List Char} {p : Nat → List Char} (hi : 0 < i)
    (hk : i < k) :
    Front.pieces k q p i = [] := by
  rw [Front.pieces, if_neg (Nat.ne_of_gt hi), if_pos hk]

theorem Front.pieces_add {k : Nat} {q : List Char} {p : Nat → List Char} (hk : 0 < k) (i : Nat) :
    Front.pieces k q p (k + i) = p i := by
  rw [Front.pieces, if_neg (by omega), if_neg (by omega), Nat.add_sub_cancel_left]

theorem Front.flatMap_pieces {k m : Nat} {q : List Char} {p : Nat → List Char} (hk : 0 < k) :
    (List.range (k + m)).flatMap (Front.pieces k q p) = q ++ (List.range m).flatMap p := by
  have hfront : (List.range k).flatMap (Front.pieces k q p) = q := by
    obtain ⟨k, rfl⟩ := Nat.exists_eq_succ_of_ne_zero (Nat.ne_of_gt hk)
    have hnil : (List.range k).flatMap (fun i => Front.pieces (k + 1) q p (i + 1)) = [] := by
      refine List.flatMap_eq_nil_iff.2 fun i hi => Front.pieces_inner (Nat.succ_pos i) ?_
      exact Nat.succ_lt_succ (List.mem_range.1 hi)
    rw [List.range_succ_eq_map, List.flatMap_cons, List.flatMap_map, hnil, List.append_nil]
    rfl
  have hrest : (List.range m).flatMap (fun i => Front.pieces k q p (k + i)) =
      (List.range m).flatMap p := by
    simp only [Front.pieces_add hk]
  rw [List.range_add, List.flatMap_append, hfront, List.flatMap_map, hrest]

theorem Rendering.front {k : Nat} {q : List Char} (hf : Front cs k) (hk : 0 < k)
    (htag : ∀ n, Tag.At cs 0 n → Tag.Yields e values n q)
    (hchar : ∀ c, cs[0]? = some c → (∀ n, ¬ Tag.At cs 0 n) → q = [c])
    (h : Rendering e values (cs.drop k) out) : Rendering e values cs (q ++ out) := by
  obtain ⟨p, rfl, hat, hin, hout⟩ := h
  -- no tag reaches from the front into the rest, so a tag of the rest is one of the text
  refine ⟨Front.pieces k q p, ?_, ?_, ?_, ?_⟩
  · rw [List.length_drop, ← Front.flatMap_pieces hk, Nat.add_sub_cancel' hf.le]
  · intro i n hi
    rcases Nat.eq_zero_or_pos i with rfl | hpos
    · exact htag n hi
    · obtain ⟨a, rfl⟩ := Nat.exists_eq_add_of_le (hf.next i n hi hpos)
      rw [Front.pieces_add hk]
      exact hat a n (Tag.at_drop.2 hi)
  · intro i j n hj hlt hle
    rcases Nat.eq_zero_or_pos j with rfl | hpos
    · have hend := hf.ends n hj
      exact Front.pieces_inner hlt (by omega)
    · have hkj := hf.next j n hj hpos
      obtain ⟨b, rfl⟩ := Nat.exists_eq_add_of_le hkj
      obtain ⟨a, rfl⟩ := Nat.exists_eq_add_of_le (Nat.le_trans hkj (Nat.le_of_lt hlt))
      rw [Front.pieces_add hk]
      exact hin a b n (Tag.at_drop.2 hj) (by omega) (by omega)
  · intro i c hc hplain
    rcases Nat.eq_zero_or_pos i with rfl | hpos
    · refine hchar c hc fun n hn => ?_
      have hn := hplain 0 n hn
      omega
    · have hki : k ≤ i := by
        by_cases hz : ∃ n, Tag.At cs 0 n
        · obtain ⟨n, hn⟩ := hz
          have hend := hf.ends n hn
          have hn := hplain 0 n hn
          omega
        · rw [hf.single fun n hn => hz ⟨n, hn⟩]
          exact hpos
      obtain ⟨a, rfl⟩ := Nat.exists_eq_add_of_le hki
      rw [Front.pieces_add hk]
      refine hout a c (by rwa [List.getElem?_drop]) fun j n hj => ?_
      have hj := hplain (k + j) n (Tag.at_drop.1 hj)
      omega

theorem Refusal.front {k : Nat} {fault : EncodingError} (hf : Front cs k)
    (htag : ∀ n, Tag.At cs 0 n → ∀ fault, ¬ Tag.Refuses e values n fault)
    (h : Refusal e values (cs.drop k) fault) : Refusal e values cs fault := by
  obtain ⟨i, n, hat, hr, hleft⟩ := h
  refine ⟨k + i, n, Tag.at_drop.1 hat, hr, fun j m fault' hj hlt hr' => ?_⟩
  rcases Nat.eq_zero_or_pos j with rfl | hpos
  · exact htag m hj fault' hr'
  · obtain ⟨d, rfl⟩ := Nat.exists_eq_add_of_le (hf.next j m hj hpos)
    exact hleft d m fault' (Tag.at_drop.2 hj) (by omega) hr'

theorem Refusal.unique {f f' : EncodingError} (h : Refusal e values cs f)
    (h' : Refusal e values cs f') : f = f' := by
  obtain ⟨i, n, hat, hr, hleft⟩ := h
  obtain ⟨j, m, hat', hr', hleft'⟩ := h'
  rcases Nat.lt_trichotomy i j with hlt | rfl | hlt
  · exact absurd hr (hleft' i n f hat hlt)
  · cases hat.unique hat'
    exact hr.unique hr'
  · exact absurd hr' (hleft j m f' hat' hlt)

theorem Rendering.not_refusal {fault : EncodingError} (h : Rendering e values cs out) :
    ¬ Refusal e values cs fault := by
  obtain ⟨p, -, hat, -⟩ := h
  rintro ⟨i, n, hi, hr, -⟩
  exact (hat i n hi).not_refuses hr

/-- Going through the parts of a text comes to its rendering, or to its first fault. -/
theorem fillAll_segments (e : UrlEncoder) (values : Placeholders) (cs : List Char) :
    match Segment.fillAll e values (segments cs) with
    | .ok out => Rendering e values cs out
    | .error fault => Refusal e values cs fault := by
  fun_induction segments cs with
  | case1 cs t rest h _ ih =>
    -- the front is a tag
    obtain ⟨n, hat, rfl, rfl⟩ := Tag.read?_eq_some_iff.1 h
    have hf := Front.tag hat
    have hrest : (Tag.braced n ++ rest).drop (n.length + 4) = rest := by
      rw [← Tag.length_braced, List.drop_left]
    have hfill := fill_tag e values n
    simp only [Segment.fillAll]
    cases hq : (Segment.tag (.ofInner n)).fill e values with
    | error fault =>
      rw [hq] at hfill
      exact ⟨0, n, hat, hfill, fun _ _ _ _ hlt => absurd hlt (Nat.not_lt_zero _)⟩
    | ok q =>
      rw [hq] at hfill
      have hy (m : List Char) (hm : Tag.At (Tag.braced n ++ rest) 0 m) :
          Tag.Yields e values m q := hat.unique hm ▸ hfill
      cases hr : Segment.fillAll e values (segments rest) with
      | error fault =>
        rw [hr] at ih
        exact .front hf (fun m hm _ => (hy m hm).not_refuses) (hrest.symm ▸ ih)
      | ok out =>
        rw [hr] at ih
        exact .front hf (Nat.succ_pos _) hy (fun _ _ hno => absurd hat (hno n)) (hrest.symm ▸ ih)
  | case2 => exact .nil
  | case3 c rest h ih =>
    -- the front is a character where no tag begins
    have hno := Tag.read?_eq_none_iff.1 h
    have hf := Front.char hno
    simp only [Segment.fillAll, Segment.fill]
    cases hr : Segment.fillAll e values (segments rest) with
    | error fault =>
      rw [hr] at ih
      exact .front hf (fun m hm => absurd hm (hno m)) ih
    | ok out =>
      rw [hr] at ih
      exact .front hf Nat.one_pos (fun m hm => absurd hm (hno m))
        (fun d hd _ => by cases hd; rfl) ih

/-- The tags of a text are where the pattern matches, and never overlap. A rendering succeeds with
the text in which every tag is replaced that has a value, or fails with the fault of the leftmost
tag whose value cannot be encoded. -/
theorem render_exact (e : UrlEncoder) (text : String) (values : Placeholders) :
    (∀ i r, (Tag.pattern.ways (text.toList.drop i)).head? = some r ↔
      ∃ n t, Tag.At text.toList i n ∧ Tag.Named n t ∧
        r = (t.captures, text.toList.drop (i + n.length + 4))) ∧
    (∀ i j n m, Tag.At text.toList i n → Tag.At text.toList j m →
      i = j ∧ n = m ∨ i + n.length + 4 ≤ j ∨ j + m.length + 4 ≤ i) ∧
    (∀ out, e.render text values = .ok out ↔ Rendering e values text.toList out.toList) ∧
    ∀ fault, e.render text values = .error fault ↔ Refusal e values text.toList fault := by
  have hr := fillAll_segments e values text.toList
  refine ⟨fun i r => Tag.head?_ways_drop, fun i j n m hi hj => ?_, fun out => ?_, fun fault => ?_⟩
  · rcases Nat.lt_trichotomy i j with hlt | rfl | hlt
    · exact .inr (.inl (hi.apart hj hlt))
    · exact .inl ⟨rfl, hi.unique hj⟩
    · exact .inr (.inr (hj.apart hi hlt))
  · cases hs : Segment.fillAll e values (segments text.toList) with
    | error fault =>
      rw [hs] at hr
      simp only [UrlEncoder.render, hs, Except.map]
      exact ⟨nofun, fun h => absurd hr h.not_refusal⟩
    | ok cs =>
      rw [hs] at hr
      simp only [UrlEncoder.render, hs, Except.map, Except.ok.injEq]
      constructor
      · rintro rfl
        rwa [String.toList_ofList]
      · intro h
        rw [hr.unique h, String.ofList_toList]
  · cases hs : Segment.fillAll e values (segments text.toList) with
    | error fault' =>
      rw [hs] at hr
      simp only [UrlEncoder.render, hs, Except.map, Except.error.injEq]
      exact ⟨fun h => h ▸ hr, fun h => hr.unique h⟩
    | ok cs =>
      rw [hs] at hr
      simp only [UrlEncoder.render, hs, Except.map]
      exact ⟨nofun, fun h => absurd h hr.not_refusal⟩

end Herald
