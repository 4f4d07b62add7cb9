import Herald.Proofs.Ordered
import Herald.Proofs.Substitution.Exact

/-!
# Herald.Proofs.Substitution.Footprint

A rendering goes by the values of the names that its text asks for, and by each of them.

* `Tag.mem_names`: the names of a text are those of the tags that stand in it.
* `Placeholders.AgreeOn`, `DifferAt`: values that are the same for some names, and for all but one.
* `fillAll_congr`: a rendering goes by nothing but the names. `fillAll_erasing`: an empty value for
  one of them always shows.
* `CompleteRendering`: a rendering that leaves no tag.
* `render_footprint`: all together.
-/

namespace Herald

variable {e : UrlEncoder} {cs n : List Char} {name : String}

/-! ## The names of a text -/

/-- The tags of a text are the one at its front and those behind. -/
theorem Front.exists_at {k : Nat} {P : List Char → Prop} (hf : Front cs k) :
    (∃ i n, Tag.At cs i n ∧ P n) ↔
      (∃ n, Tag.At cs 0 n ∧ P n) ∨ ∃ i n, Tag.At (cs.drop k) i n ∧ P n := by
  constructor
  · rintro ⟨i, n, hat, hn⟩
    rcases Nat.eq_zero_or_pos i with rfl | hpos
    · exact .inl ⟨n, hat, hn⟩
    · obtain ⟨j, rfl⟩ := Nat.exists_eq_add_of_le (hf.next i n hat hpos)
      exact .inr ⟨j, n, Tag.at_drop.2 hat, hn⟩
  · rintro (⟨n, hat, hn⟩ | ⟨i, n, hat, hn⟩)
    · exact ⟨0, n, hat, hn⟩
    · exact ⟨k + i, n, Tag.at_drop.1 hat, hn⟩

theorem mem_segments {t : Tag} :
    Segment.tag t ∈ segments cs ↔ ∃ i n, Tag.At cs i n ∧ Tag.Named n t := by
  fun_induction segments cs with
  | case1 cs u rest h _ ih =>
    obtain ⟨n, hat, rfl, rfl⟩ := Tag.read?_eq_some_iff.1 h
    have hrest : (Tag.braced n ++ rest).drop (n.length + 4) = rest := by
      rw [← Tag.length_braced, List.drop_left]
    have hfirst : (∃ m, Tag.At (Tag.braced n ++ rest) 0 m ∧ Tag.Named m t) ↔ t = .ofInner n := by
      constructor
      · rintro ⟨m, hm, ht⟩
        rw [hat.unique hm]
        exact Tag.named_iff.1 ht
      · intro ht
        exact ⟨n, hat, Tag.named_iff.2 ht⟩
    rw [(Front.tag hat).exists_at, hrest, hfirst, List.mem_cons, Segment.tag.injEq, ih]
  | case2 h =>
    refine iff_of_false List.not_mem_nil ?_
    rintro ⟨i, n, ⟨-, -, hh⟩, -⟩
    simp [Tag.braced] at hh
  | case3 c rest h ih =>
    have hno := Tag.read?_eq_none_iff.1 h
    have hfirst : ¬ ∃ m, Tag.At (c :: rest) 0 m ∧ Tag.Named m t := by
      rintro ⟨m, hm, -⟩
      exact hno m hm
    rw [(Front.char hno).exists_at, List.drop_one, List.tail_cons, ← ih]
    simp [hfirst]

/-- The names of a text are those of the tags that stand in it. -/
theorem Tag.mem_names {text : String} : name ∈ names text ↔
    ∃ i n t, At text.toList i n ∧ Named n t ∧ String.ofList t.name = name := by
  have hnames : name ∈ names text ↔
      ∃ t, Segment.tag t ∈ segments text.toList ∧ String.ofList t.name = name := by
    rw [names, Ordered.mem_distinct, List.mem_filterMap]
    constructor
    · rintro ⟨s, hs, ht⟩
      cases s with
      | char c => cases ht
      | tag t => exact ⟨t, hs, Option.some.inj ht⟩
    · rintro ⟨t, hs, rfl⟩
      exact ⟨.tag t, hs, rfl⟩
  rw [hnames]
  constructor
  · rintro ⟨t, hs, ht⟩
    obtain ⟨i, n, hat, hn⟩ := mem_segments.1 hs
    exact ⟨i, n, t, hat, hn, ht⟩
  · rintro ⟨i, n, t, hat, hn, ht⟩
    exact ⟨t, mem_segments.2 ⟨i, n, hat, hn⟩, ht⟩

/-! ## What goes by nothing but the names -/

namespace Placeholders

/-- The same values, or none, for some names. -/
def AgreeOn (names : List String) (p q : Placeholders) : Prop :=
  ∀ name ∈ names, p.get? name = q.get? name

/-- Another value for one name, and the same for all others. -/
def DifferAt (name : String) (p q : Placeholders) : Prop :=
  p.get? name ≠ q.get? name ∧ ∀ other, other ≠ name → p.get? other = q.get? other

end Placeholders

theorem fillAll_congr {p q : Placeholders} {ss : List Segment}
    (h : ∀ t, Segment.tag t ∈ ss →
      p.get? (String.ofList t.name) = q.get? (String.ofList t.name)) :
    Segment.fillAll e p ss = Segment.fillAll e q ss := by
  induction ss with
  | nil => rfl
  | cons s ss ih =>
    have hs : s.fill e p = s.fill e q := by
      cases s with
      | char c => rfl
      | tag t =>
        simp only [Segment.fill]
        rw [h t List.mem_cons_self]
    rw [Segment.fillAll, Segment.fillAll, hs, ih fun t ht => h t (List.mem_cons_of_mem s ht)]

theorem render_congr {p q : Placeholders} {text : String} (h : p.AgreeOn (Tag.names text) q) :
    e.render text p = e.render text q := by
  rw [UrlEncoder.render, UrlEncoder.render, fillAll_congr fun t ht => ?_]
  obtain ⟨i, n, hat, hn⟩ := mem_segments.1 ht
  exact h _ (Tag.mem_names.2 ⟨i, n, t, hat, hn, rfl⟩)

/-! ## What goes by each of the names -/

theorem fillAll_empty (e : UrlEncoder) (ss : List Segment) :
    Segment.fillAll e .empty ss = .ok (Segment.join ss) := by
  induction ss with
  | nil => rfl
  | cons s ss ih =>
    have hs : s.fill e .empty = .ok s.source := by cases s <;> rfl
    rw [Segment.fillAll, hs, ih]
    rfl

namespace Placeholders

/-- One name with the empty value. -/
def erasing (name : String) : Placeholders := empty.insert name ""

theorem get?_erasing (name other : String) :
    (erasing name).get? other = if other = name then some "" else none :=
  get?_insert empty name "" other

theorem differAt_erasing (name : String) : DifferAt name empty (erasing name) := by
  refine ⟨fun h => ?_, fun other ho => ?_⟩
  · rw [get?_erasing, if_pos rfl] at h
    cases h
  · rw [get?_erasing, if_neg ho, get?_empty]

end Placeholders

theorem UrlEncoder.encode_empty {out : String} (h : e.encode name "" = .ok out) : out = "" := by
  obtain ⟨label, charset⟩ := e
  cases charset with
  | none => cases h
  | some c =>
    cases c with
    | utf8 => exact (Except.ok.inj h).symm
    | latin1 => exact (Except.ok.inj h).symm

/-- Whether a part of a text is a tag that asks for a name. -/
def Segment.asks (name : String) (s : Segment) : Bool :=
  s.tag?.any fun t => String.ofList t.name = name

theorem Segment.source_pos (s : Segment) : 0 < s.source.length := by
  cases s <;> exact Nat.succ_pos _

/-- The empty value leaves nothing of the tags that ask for it, and all else as it is. -/
theorem fill_erasing {s : Segment} {out : List Char} (h : s.fill e (.erasing name) = .ok out) :
    out = if s.asks name then [] else s.source := by
  cases s with
  | char c => exact (Except.ok.inj h).symm
  | tag t =>
    simp only [Segment.fill, Placeholders.get?_erasing] at h
    by_cases ht : String.ofList t.name = name
    · have hasks : (Segment.tag t).asks name = true := by simp [Segment.asks, Segment.tag?, ht]
      rw [if_pos ht] at h
      rw [if_pos hasks]
      by_cases hb : t.encoded = true
      · simp only [if_pos hb] at h
        cases hv : e.encode (String.ofList t.name) "" with
        | error fault =>
          rw [hv] at h
          cases h
        | ok v =>
          rw [hv, UrlEncoder.encode_empty hv] at h
          exact (Except.ok.inj h).symm
      · simp only [if_neg hb] at h
        exact (Except.ok.inj h).symm
    · have hasks : ¬ (Segment.tag t).asks name = true := by simp [Segment.asks, Segment.tag?, ht]
      rw [if_neg ht] at h
      rw [if_neg hasks]
      exact (Except.ok.inj h).symm

theorem fillAll_cons_ok {values : Placeholders} {s : Segment} {ss : List Segment}
    {out : List Char} (h : Segment.fillAll e values (s :: ss) = .ok out) :
    ∃ front rest, s.fill e values = .ok front ∧ Segment.fillAll e values ss = .ok rest ∧
      out = front ++ rest := by
  rw [Segment.fillAll] at h
  cases hs : s.fill e values with
  | error fault =>
    rw [hs] at h
    cases h
  | ok front =>
    cases hss : Segment.fillAll e values ss with
    | error fault =>
      rw [hs, hss] at h
      cases h
    | ok rest =>
      rw [hs, hss] at h
      exact ⟨front, rest, rfl, rfl, (Except.ok.inj h).symm⟩

/-- Every tag that asks for the empty value makes the text shorter. -/
theorem fillAll_erasing {ss : List Segment} {out : List Char}
    (h : Segment.fillAll e (.erasing name) ss = .ok out) :
    out.length + ss.countP (·.asks name) ≤ (Segment.join ss).length := by
  induction ss generalizing out with
  | nil =>
    cases h
    exact Nat.le_refl 0
  | cons s ss ih =>
    obtain ⟨front, rest, hs, hss, rfl⟩ := fillAll_cons_ok h
    have hrest := ih hss
    have hfront := fill_erasing hs
    have hpos := s.source_pos
    have hjoin : (Segment.join (s :: ss)).length = s.source.length + (Segment.join ss).length := by
      simp [Segment.join]
    rw [hjoin, List.length_append, List.countP_cons, hfront]
    split
    · rw [List.length_nil]
      omega
    · omega

theorem render_erasing_ne {text : String} (h : name ∈ Tag.names text) :
    e.render text .empty ≠ e.render text (.erasing name) := by
  obtain ⟨i, n, t, hat, hn, ht⟩ := Tag.mem_names.1 h
  have hmem := mem_segments.2 ⟨i, n, hat, hn⟩
  have hasks : (Segment.tag t).asks name = true := by simp [Segment.asks, Segment.tag?, ht]
  have hcount : 0 < (segments text.toList).countP (·.asks name) :=
    List.countP_pos_iff.2 ⟨_, hmem, hasks⟩
  simp only [UrlEncoder.render, fillAll_empty]
  cases hr : Segment.fillAll e (.erasing name) (segments text.toList) with
  | error fault =>
    intro heq
    cases heq
  | ok out =>
    intro heq
    have hout : Segment.join (segments text.toList) = out :=
      String.ofList_injective (Except.ok.inj heq)
    have hle := fillAll_erasing hr
    rw [← hout] at hle
    omega

/-! ## What leaves no tag -/

namespace Tag

/-- What stands in the place of a tag is its value, encoded where it asks for that. -/
def Replaced (e : UrlEncoder) (values : Placeholders) (n out : List Char) : Prop :=
  ∃ t v, Named n t ∧ values.get? (String.ofList t.name) = some v ∧
    if t.encoded then e.encode (String.ofList t.name) v = .ok (String.ofList out)
    else out = v.toList

theorem Yields.replaced {values : Placeholders} {out : List Char} (h : Yields e values n out)
    (hv : ∀ t, Named n t → values.contains (String.ofList t.name) = true) :
    Replaced e values n out := by
  cases h with
  | @kept t hn hnone =>
    have := hv t hn
    rw [Placeholders.contains, hnone] at this
    cases this
  | @verbatim m v hn hm => exact ⟨⟨false, m⟩, v, hn, hm, rfl⟩
  | @encoded m v c bs hn hm hc hb =>
    refine ⟨⟨true, m⟩, v, hn, hm, ?_⟩
    rw [if_pos rfl, UrlEncoder.encode, hc]
    show c.encode v = _
    rw [Charset.encode, hb]

end Tag

/-- A text with all its tags replaced by values. Every character outside of tags is copied. -/
def CompleteRendering (e : UrlEncoder) (values : Placeholders) (cs out : List Char) : Prop :=
  ∃ piece : Nat → List Char, out = (List.range cs.length).flatMap piece ∧
    (∀ i n, Tag.At cs i n → Tag.Replaced e values n (piece i)) ∧
    (∀ i j n, Tag.At cs j n → j < i → i < j + n.length + 4 → piece i = []) ∧
    ∀ i c, cs[i]? = some c → (∀ j n, Tag.At cs j n → i < j ∨ j + n.length + 4 ≤ i) → piece i = [c]

theorem Rendering.complete {values : Placeholders} {text : String} {out : List Char}
    (h : Rendering e values text.toList out)
    (hv : ∀ name ∈ Tag.names text, values.contains name = true) :
    CompleteRendering e values text.toList out := by
  obtain ⟨piece, hout, hat, hin, hcopy⟩ := h
  refine ⟨piece, hout, fun i n hi => (hat i n hi).replaced fun t ht => ?_, hin, hcopy⟩
  exact hv _ (Tag.mem_names.2 ⟨i, n, t, hi, ht, rfl⟩)

/-- A rendering comes to the same for values that agree on the names of its text, and for each of
these names there are values that differ in nothing else and for which it does not. So where all
names have a value and it succeeds, no tag is left, and the value of any other name is for
nothing. -/
theorem render_footprint (e : UrlEncoder) (text : String) :
    (∀ p q : Placeholders, p.AgreeOn (Tag.names text) q → e.render text p = e.render text q) ∧
    (∀ name ∈ Tag.names text, ∃ p q : Placeholders, p.DifferAt name q ∧
      e.render text p ≠ e.render text q) ∧
    (∀ values out, e.render text values = .ok out →
      (∀ name ∈ Tag.names text, values.contains name = true) →
      CompleteRendering e values text.toList out.toList) ∧
    ∀ (values : Placeholders) name value, name ∉ Tag.names text →
      e.render text (values.insert name value) = e.render text values := by
  refine ⟨fun p q h => render_congr h, fun name h => ?_, fun values out hout hv => ?_,
    fun values name value h => render_congr fun other ho => ?_⟩
  · exact ⟨.empty, .erasing name, Placeholders.differAt_erasing name, render_erasing_ne h⟩
  · refine Rendering.complete ?_ hv
    have hr := fillAll_segments e values text.toList
    cases hs : Segment.fillAll e values (segments text.toList) with
    | error fault =>
      rw [UrlEncoder.render, hs] at hout
      cases hout
    | ok cs =>
      rw [UrlEncoder.render, hs] at hout
      rw [hs] at hr
      rw [← Except.ok.inj hout, String.toList_ofList]
      exact hr
  · rw [Placeholders.get?_insert, if_neg]
    rintro rfl
    exact h ho

end Herald
