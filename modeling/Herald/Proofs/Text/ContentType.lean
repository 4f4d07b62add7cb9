import Herald.Proofs.Locale.Canonical
import Herald.Proofs.Text.Trim
import Herald.Text.ContentType

/-!
# Herald.Proofs.Text.ContentType

Which content types are given a charset.

* `Text.occurs_pieces`, `Text.occurs_trimChars`: a word occurs in a text if it occurs in one of its
  pieces, and blanks around the text have no part in it.
* `ContentType.Settled`: a content type that has all it needs. `settled_normalize`: a normalized one
  has, and so it is not changed again.
* `ContentType.IsHtml`, `ContentType.HasCharset`: what a content type says by its media type and by
  the names of its parameters.
* `charset_default_exact`: the charset is decided by words anywhere in the text, which comes to the
  same unless a parameter speaks of HTML, or something other than the name of a parameter speaks of
  a charset.
* `charset_default_strays`: there it does not.
-/

namespace Herald

namespace Text

variable {word a b s cs core : List Char} {c : Char} {p : Char → Bool} {f : Char → Char}

theorem isSome_after?_append (hc : c ∉ word) :
    (after? word (a ++ c :: b)).isSome = (after? word a).isSome := by
  induction word generalizing a with
  | nil => simp [after?]
  | cons d word ih =>
    have hd : c ≠ d := List.ne_of_not_mem_cons hc
    have hword : c ∉ word := List.not_mem_of_not_mem_cons hc
    cases a with
    | nil => simp [after?, Ne.symm hd]
    | cons e a =>
      simp only [List.cons_append, after?]
      split
      · exact ih hword
      · rfl

/-- A word does not reach across a character that it lacks. -/
theorem occurs_split (hc : c ∉ word) :
    occurs word (a ++ c :: b) = true ↔ occurs word a = true ∨ occurs word b = true := by
  induction a with
  | nil =>
    cases word with
    | nil => simp [occurs, after?]
    | cons d word =>
      have hd : d ≠ c := fun hd => hc (hd ▸ List.mem_cons_self)
      simp [occurs, after?, hd]
  | cons e a ih =>
    have hfront : (after? word (e :: (a ++ c :: b))).isSome = (after? word (e :: a)).isSome :=
      isSome_after?_append (a := e :: a) hc
    rw [List.cons_append, occurs, occurs, hfront, Bool.or_eq_true, Bool.or_eq_true, ih, or_assoc]

/-- A word occurs in a text if it occurs in one of its pieces. -/
theorem occurs_pieces (hp : ∀ c, p c = true → f c ∉ word) :
    occurs word (s.map f) = true ↔ ∃ q ∈ pieces p s, occurs word (q.map f) = true := by
  -- the first piece begins before the text: the induction moves characters to what was read of it
  suffices h : ∀ lead q ps, pieces p s = q :: ps →
      (occurs word ((lead ++ s).map f) = true ↔
        ∃ r ∈ (lead ++ q) :: ps, occurs word (r.map f) = true) by
    obtain ⟨q, ps, hs⟩ := List.exists_cons_of_ne_nil (pieces_ne_nil p s)
    rw [hs]
    exact h [] q ps hs
  induction s with
  | nil =>
    rintro lead q ps hs
    obtain ⟨rfl, rfl⟩ := List.cons.inj hs
    simp
  | cons c s ih =>
    intro lead q ps hs
    obtain ⟨q', ps', hs'⟩ := List.exists_cons_of_ne_nil (pieces_ne_nil p s)
    rw [pieces, hs'] at hs
    cases hc : p c with
    | true =>
      simp only [hc] at hs
      obtain ⟨rfl, rfl⟩ := List.cons.inj hs
      have hrest := ih [] q' ps' hs'
      rw [List.map_append, List.map_cons, occurs_split (hp c hc), List.append_nil]
      simpa only [List.mem_cons, exists_eq_or_imp, List.nil_append] using or_congr_right hrest
    | false =>
      simp only [hc] at hs
      obtain ⟨rfl, rfl⟩ := List.cons.inj hs
      have hrest := ih (lead ++ [c]) q' ps' hs'
      simpa only [List.append_assoc, List.singleton_append] using hrest

theorem occurs_eq_false (hw : word ≠ []) (h : ∀ c ∈ s, c ∉ word) : occurs word s = false := by
  obtain ⟨d, word, rfl⟩ := List.exists_cons_of_ne_nil hw
  rw [Bool.eq_false_iff]
  intro ho
  obtain ⟨x, y, rfl⟩ := occurs_iff.1 ho
  exact h d (by simp) List.mem_cons_self

theorem occurs_append_left (hw : word ≠ []) (h : ∀ c ∈ a, c ∉ word) :
    occurs word (a ++ s) = true ↔ occurs word s = true := by
  induction a with
  | nil => exact Iff.rfl
  | cons c a ih =>
    obtain ⟨hc, ha⟩ := List.forall_mem_cons.1 h
    have hnil : occurs word [] = false := occurs_eq_false hw (by simp)
    rw [List.cons_append, ← List.nil_append (c :: _), occurs_split hc, hnil, ih ha]
    simp

theorem occurs_append_right (hw : word ≠ []) (h : ∀ c ∈ b, c ∉ word) :
    occurs word (s ++ b) = true ↔ occurs word s = true := by
  cases b with
  | nil => rw [List.append_nil]
  | cons c b =>
    obtain ⟨hc, hb⟩ := List.forall_mem_cons.1 h
    rw [occurs_split hc, occurs_eq_false hw hb]
    simp

/-- Blanks around a text have no part in the words that occur in it. -/
theorem Trims.occurs_iff (ht : Trims cs core) (hw : word ≠ [])
    (h : ∀ c, isBlank c = true → f c ∉ word) :
    occurs word (core.map f) = true ↔ occurs word (cs.map f) = true := by
  have hblanks {gap : List Char} (hg : ∀ c ∈ gap, isBlank c = true) :
      ∀ c ∈ gap.map f, c ∉ word := by
    intro c hc
    obtain ⟨d, hd, rfl⟩ := List.mem_map.1 hc
    exact h d (hg d hd)
  obtain ⟨before, core, after, hbefore, hafter, -, -⟩ := ht
  rw [List.map_append, List.map_append, occurs_append_right hw (hblanks hafter),
    occurs_append_left hw (hblanks hbefore)]

theorem Trims.ends (h : Trims cs core) :
    (∀ c, core.head? = some c → isBlank c = false) ∧
      ∀ c, core.getLast? = some c → isBlank c = false := by
  obtain ⟨_, _, _, _, _, hfirst, hlast⟩ := h
  exact ⟨hfirst, hlast⟩

theorem trims_self (hfirst : ∀ c, core.head? = some c → isBlank c = false)
    (hlast : ∀ c, core.getLast? = some c → isBlank c = false) : Trims core core := by
  have h := Trims.core [] core [] (by simp) (by simp) hfirst hlast
  rwa [List.nil_append, List.append_nil] at h

end Text

namespace ContentType

variable {word : String} {s : String} {q cs core : List Char}

/-- The stretches of a content type between semicolons. -/
def parts (s : String) : List (List Char) :=
  Text.pieces (· = ';') (Text.trimChars s.toList)

/-- What stands before the first semicolon. -/
def mediaType (s : String) : List Char := Text.trimChars ((parts s).headD [])

/-- What stands behind the first semicolon, up to the next one, and so on. -/
def parameters (s : String) : List (List Char) := (parts s).tail

/-- What stands before the equals sign of a parameter. -/
def parameterName? (parameter : List Char) : Option (List Char) :=
  (Text.cutAt (· = '=') parameter).map fun r => Text.trimChars r.1

/-- Whether the media type speaks of HTML. -/
def IsHtml (s : String) : Prop := mentions "html" (mediaType s) = true

instance (s : String) : Decidable (IsHtml s) := inferInstanceAs (Decidable (_ = true))

/-- Whether a parameter is named charset. -/
def HasCharset (s : String) : Prop :=
  ∃ q ∈ parameters s, ∃ name, parameterName? q = some name ∧
    name.map Char.toLower = "charset".toList

/-- A parameter of something else speaks of HTML, or a media type or a parameter of HTML speaks of a
charset that is not the name of a parameter. -/
def Strays (s : String) : Prop :=
  (¬ IsHtml s ∧ (∃ q ∈ parameters s, mentions "html" q = true) ∧
      ∀ q ∈ parts s, mentions "charset" q = false) ∨
    (IsHtml s ∧ ¬ HasCharset s ∧ ∃ q ∈ parts s, mentions "charset" q = true)

/-- A word of letters is not empty, and it holds neither blanks nor semicolons, in any case. -/
structure Plain (word : String) : Prop where
  ne_nil : word.toList ≠ []
  letters : word.toList.all Locale.isLetter = true

theorem plain_html : Plain "html" := ⟨by decide, by decide⟩

theorem plain_charset : Plain "charset" := ⟨by decide, by decide⟩

/-- What is not a letter has no lower case. -/
theorem toLower_of_not_letter {c : Char} (h : Locale.isLetter c = false) : c.toLower = c := by
  have hc : ¬ ('A' ≤ c ∧ c ≤ 'Z') := by
    intro hc
    rw [Locale.isLetter_iff.2 (.inr hc)] at h
    cases h
  exact dif_neg hc

theorem Plain.not_mem (hw : Plain word) {c : Char} (hc : Locale.isLetter c = false) :
    c.toLower ∉ word.toList := by
  rw [toLower_of_not_letter hc]
  intro hm
  rw [List.all_eq_true.1 hw.letters c hm] at hc
  cases hc

theorem isLetter_of_isBlank {c : Char} (h : Text.isBlank c = true) : Locale.isLetter c = false := by
  rw [Bool.eq_false_iff]
  intro hc
  have hb : Text.isBlank c = false :=
    Locale.forall_letter (p := fun c => Text.isBlank c = false) (by decide) hc
  rw [h] at hb
  cases hb

theorem Plain.mentions_trimChars (hw : Plain word) :
    mentions word (Text.trimChars cs) = true ↔ mentions word cs = true :=
  (Text.trims_trimChars cs).occurs_iff hw.ne_nil fun _ hc => hw.not_mem (isLetter_of_isBlank hc)

theorem Plain.mentions_parts (hw : Plain word) :
    mentions word (Text.trimChars s.toList) = true ↔ ∃ q ∈ parts s, mentions word q = true := by
  refine Text.occurs_pieces fun c hc => hw.not_mem ?_
  rw [of_decide_eq_true hc]
  decide

theorem parts_eq (s : String) :
    ∃ q, parts s = q :: parameters s ∧ mediaType s = Text.trimChars q := by
  obtain ⟨q, ps, hs⟩ := List.exists_cons_of_ne_nil (Text.pieces_ne_nil _ (Text.trimChars s.toList))
  refine ⟨q, ?_, ?_⟩
  · rw [parameters, parts, hs, List.tail_cons]
  · rw [mediaType, parts, hs, List.headD_cons]

theorem Plain.mentions_iff (hw : Plain word) :
    mentions word (Text.trimChars s.toList) = true ↔
      mentions word (mediaType s) = true ∨ ∃ q ∈ parameters s, mentions word q = true := by
  obtain ⟨q, hparts, hmedia⟩ := parts_eq s
  rw [hw.mentions_parts, hparts, hmedia, hw.mentions_trimChars]
  simp only [List.mem_cons, exists_eq_or_imp]

/-- A parameter that is named charset speaks of a charset. -/
theorem HasCharset.mentions (h : HasCharset s) :
    ∃ q ∈ parts s, mentions "charset" q = true := by
  obtain ⟨q, hq, name, hname, hcharset⟩ := h
  obtain ⟨⟨a, b⟩, hcut, rfl⟩ := Option.map_eq_some_iff.1 hname
  obtain ⟨c, -, rfl, -⟩ := Text.cutAt_eq_some hcut
  have ha : ContentType.mentions "charset" a = true := by
    rw [← plain_charset.mentions_trimChars, ContentType.mentions, hcharset]
    decide
  obtain ⟨x, y, hxy⟩ := Text.occurs_iff.1 ha
  obtain ⟨q', hparts, -⟩ := parts_eq s
  refine ⟨_, hparts ▸ List.mem_cons_of_mem _ hq,
    Text.occurs_iff.2 ⟨x, y ++ (c :: b).map Char.toLower, ?_⟩⟩
  rw [List.map_append, hxy, List.append_assoc]

theorem trim_append_ne (s : String) : Text.trim s ++ charsetParameter ≠ Text.trim s := by
  intro h
  have hlength := congrArg String.length h
  rw [String.length_append] at hlength
  have hc : charsetParameter.length = 15 := by decide
  omega

/-- A text that is not blank is left as it is, but for the blanks around it, or given a charset. -/
theorem normalize_of_not_blank (h : Text.trimChars s.toList ≠ []) :
    (normalize s = Text.trim s ∨ normalize s = Text.trim s ++ charsetParameter) ∧
    (normalize s = Text.trim s ++ charsetParameter ↔
      mentions "html" (Text.trimChars s.toList) = true ∧
        ¬ mentions "charset" (Text.trimChars s.toList) = true) := by
  have happend : String.ofList (Text.trimChars s.toList ++ charsetParameter.toList) =
      Text.trim s ++ charsetParameter := by
    rw [String.ofList_append, String.ofList_toList]
    rfl
  simp only [normalize, h, if_false, happend]
  split
  case isTrue hwords =>
    simp only [Bool.and_eq_true, Bool.not_eq_true'] at hwords
    exact ⟨.inr rfl, iff_of_true rfl ⟨hwords.1, by simp [hwords.2]⟩⟩
  case isFalse hwords =>
    simp only [Bool.and_eq_true, Bool.not_eq_true'] at hwords
    refine ⟨.inl rfl, iff_of_false (fun hn => trim_append_ne s hn.symm) ?_⟩
    rintro ⟨hhtml, hcharset⟩
    exact hwords ⟨hhtml, Bool.eq_false_iff.2 hcharset⟩

/-- A blank content type becomes plain text. Any other is left as it is, but for the blanks around
it, unless it is given a charset: it is given one if its media type or a parameter speaks of HTML
and nothing in it speaks of a charset. This is the same as to ask for HTML in the media type and for
no parameter named charset exactly if the content type does not stray. -/
theorem charset_default_exact (s : String) :
    (Text.trimChars s.toList = [] → normalize s = plainText) ∧
    (Text.trimChars s.toList ≠ [] →
      (normalize s = Text.trim s ∨ normalize s = Text.trim s ++ charsetParameter) ∧
      (normalize s = Text.trim s ++ charsetParameter ↔
        (IsHtml s ∨ ∃ q ∈ parameters s, mentions "html" q = true) ∧
          ¬ ∃ q ∈ parts s, mentions "charset" q = true) ∧
      ((normalize s = Text.trim s ++ charsetParameter ↔ IsHtml s ∧ ¬ HasCharset s) ↔
        ¬ Strays s)) := by
  refine ⟨fun h => by simp [normalize, h], fun h => ?_⟩
  obtain ⟨hcases, hgiven⟩ := normalize_of_not_blank h
  rw [plain_html.mentions_iff, plain_charset.mentions_parts] at hgiven
  refine ⟨hcases, hgiven, ?_⟩
  have hnamed : HasCharset s → ∃ q ∈ parts s, mentions "charset" q = true := HasCharset.mentions
  have hnone : (∀ q ∈ parts s, mentions "charset" q = false) ↔
      ¬ ∃ q ∈ parts s, mentions "charset" q = true := by simp
  rw [hgiven, Strays, hnone]
  change ((IsHtml s ∨ _) ∧ _ ↔ _) ↔ _
  by_cases hhtml : IsHtml s
  · simp only [hhtml, true_or, true_and, not_true, false_and, false_or]
    exact ⟨fun h hs => h.2 hs.1 hs.2,
      fun h => ⟨fun hc hn => hc (hnamed hn), fun hn hc => h ⟨hn, hc⟩⟩⟩
  · simp only [hhtml, false_or, false_and, iff_false, not_false_eq_true, true_and, or_false]

/-- A parameter that speaks of HTML gives a plain text a charset. A parameter that speaks of a
charset, without being one, keeps it from an HTML text. -/
theorem charset_default_strays :
    (normalize "text/plain; name=index.html" = "text/plain; name=index.html; charset=UTF-8" ∧
      ¬ IsHtml "text/plain; name=index.html") ∧
    (normalize "text/html; boundary=charset" = "text/html; boundary=charset" ∧
      IsHtml "text/html; boundary=charset" ∧ ¬ HasCharset "text/html; boundary=charset") := by
  refine ⟨⟨by decide, by decide⟩, by decide, by decide, ?_⟩
  rintro ⟨q, hq, name, hname, hcharset⟩
  have hp : parameters "text/html; boundary=charset" = [" boundary=charset".toList] := by decide
  obtain rfl := List.mem_singleton.1 (hp ▸ hq)
  have hn : parameterName? " boundary=charset".toList = some "boundary".toList := by decide
  obtain rfl := Option.some.inj (hn.symm.trans hname)
  exact absurd hcharset (by decide)

/-- A content type that has all it needs: it is not blank, there are no blanks around it, and if it
speaks of HTML, it speaks of a charset. -/
structure Settled (s : String) : Prop where
  ne_nil : s.toList ≠ []
  trims : Text.trimChars s.toList = s.toList
  charset : mentions "html" s.toList = true → mentions "charset" s.toList = true

theorem Settled.normalize_eq (h : Settled s) : normalize s = s := by
  obtain ⟨hkept | hgiven, hwords⟩ := normalize_of_not_blank (s := s) (h.trims.symm ▸ h.ne_nil)
  · rw [hkept, Text.trim, h.trims, String.ofList_toList]
  · obtain ⟨hhtml, hcharset⟩ := hwords.1 hgiven
    rw [h.trims] at hhtml hcharset
    exact absurd (h.charset hhtml) hcharset

theorem settled_normalize (s : String) : Settled (normalize s) := by
  by_cases h : Text.trimChars s.toList = []
  · have hplain : normalize s = plainText := by simp [normalize, h]
    rw [hplain]
    exact ⟨by decide, by decide, by decide⟩
  · have hends := (Text.trims_trimChars s.toList).ends
    obtain ⟨hkept | hgiven, hwords⟩ := normalize_of_not_blank h
    · have hcharset : mentions "html" (Text.trimChars s.toList) = true →
          mentions "charset" (Text.trimChars s.toList) = true := by
        intro hhtml
        refine Decidable.by_contra fun hn => trim_append_ne s ?_
        rw [← hwords.2 ⟨hhtml, hn⟩, hkept]
      rw [hkept]
      refine ⟨?_, ?_, ?_⟩ <;> rw [Text.toList_trim]
      · exact h
      · exact (Text.trims_self hends.1 hends.2).trimChars_eq
      · exact hcharset
    · have htext : (normalize s).toList = Text.trimChars s.toList ++ charsetParameter.toList := by
        rw [hgiven, String.toList_append, Text.toList_trim]
      refine ⟨?_, ?_, fun _ => ?_⟩ <;> rw [htext]
      · exact List.append_ne_nil_of_left_ne_nil h _
      · refine (Text.trims_self (fun c hc => hends.1 c ?_) fun c hc => ?_).trimChars_eq
        · obtain ⟨d, rest, hd⟩ := List.exists_cons_of_ne_nil h
          rw [hd] at hc ⊢
          exact hc
        · have hlast : charsetParameter.toList.getLast? = some '8' := by decide
          rw [List.getLast?_append, hlast] at hc
          obtain rfl := Option.some.inj hc
          decide
      · rw [mentions, List.map_append]
        exact Text.occurs_iff.2 ⟨(Text.trimChars s.toList).map Char.toLower ++ "; ".toList,
          "=utf-8".toList, by rw [List.append_assoc, List.append_assoc]; rfl⟩

theorem normalize_idem (s : String) : normalize (normalize s) = normalize s :=
  (settled_normalize s).normalize_eq

end ContentType

end Herald
