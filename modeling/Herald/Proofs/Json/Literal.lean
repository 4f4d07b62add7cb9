import Herald.Json.Reader
import Herald.Json.Writer

/-!
# Herald.Proofs.Json.Literal

What is written for texts, and for values of texts, is read back.

* `string_escaped`: the characters between the quotes.
* `Json.Textual`: a value that is made of texts, arrays and objects. `Textual.read?_compact`: what
  is written for it is read back.
* `Json.nest`: a text within objects of one member.
-/

namespace Herald.Json

/-- A part of a literal that stands for one character. -/
def Piece.Is (c : Char) : Piece → Prop
  | .char d => d = c
  | .unit n => n = c.toNat ∧ n < 0x20

theorem joinPieces_cons {x : Piece} {c : Char} {ps : List Piece} (h : x.Is c) :
    joinPieces (x :: ps) = (joinPieces ps).map (c :: ·) := by
  cases x with
  | char d => cases h; rfl
  | unit n =>
    obtain ⟨rfl, hn⟩ := h
    have hh : isHigh c.toNat = false := by simp [isHigh]; omega
    have hl : isLow c.toNat = false := by simp [isLow]; omega
    cases ps with
    | nil => simp [joinPieces, hh, hl]
    | cons y ps => cases y <;> simp [joinPieces, hh, hl]

theorem unit?_hexDigit {n : Nat} (h : n < 0x20) :
    unit? '0' '0' (Text.hexDigit (n / 16)) (Text.hexDigit (n % 16)) = some n := by
  have hz : Text.hexValue? '0' = some 0 := by decide
  have hs : n / 16 * 16 + n % 16 = n := by omega
  simp [unit?, hz, Text.hexValue?_hexDigit (n / 16) (by omega),
    Text.hexValue?_hexDigit (n % 16) (by omega), hs]

/-- What is written for a character is read as one part that stands for it. -/
theorem pieces?_escapeChar (c : Char) (r : List Char) :
    ∃ x : Piece, x.Is c ∧
      pieces? (escapeChar c ++ r) = (pieces? r).map fun p => (x :: p.1, p.2) := by
  have short {e : Char} (hu : e ≠ 'u') (hs : shortEscape? e = some c) : ∃ x : Piece, x.Is c ∧
      pieces? (['\\', e] ++ r) = (pieces? r).map fun p => (x :: p.1, p.2) := by
    refine ⟨.char c, rfl, ?_⟩
    cases hr : pieces? r <;> simp [pieces?, hu, hs, hr]
  unfold escapeChar
  split
  · subst_vars; exact short (by decide) rfl
  split
  · subst_vars; exact short (by decide) rfl
  split
  · subst_vars; exact short (by decide) rfl
  split
  · subst_vars; exact short (by decide) rfl
  split
  · subst_vars; exact short (by decide) rfl
  split
  · subst_vars; exact short (by decide) rfl
  split
  · subst_vars; exact short (by decide) rfl
  split
  · next h =>
    refine ⟨.unit c.toNat, ⟨rfl, h⟩, ?_⟩
    cases hr : pieces? r <;> simp [pieces?, unit?_hexDigit h, hr]
  · next _ hb _ _ _ _ _ h =>
    refine ⟨.char c, rfl, ?_⟩
    cases hr : pieces? r <;> simp [pieces?, hb, h, hr]

theorem string_escaped (cs r : List Char) :
    string (cs.flatMap escapeChar ++ '"' :: r) = some (some (String.ofList cs), r) := by
  have h : ∃ ps, pieces? (cs.flatMap escapeChar ++ '"' :: r) = some (ps, r) ∧
      joinPieces ps = some cs := by
    induction cs with
    | nil => exact ⟨[], by simp [pieces?], rfl⟩
    | cons c cs ih =>
      obtain ⟨ps, hps, hj⟩ := ih
      obtain ⟨x, hx, hc⟩ := pieces?_escapeChar c (cs.flatMap escapeChar ++ '"' :: r)
      refine ⟨x :: ps, ?_, ?_⟩
      · rw [List.flatMap_cons, List.append_assoc, hc, hps]
        rfl
      · rw [joinPieces_cons hx, hj]
        rfl
  obtain ⟨ps, hps, hj⟩ := h
  simp [string, hps, hj]

theorem toList_literal (s : String) (r : List Char) :
    (literal s).toList ++ r = '"' :: (s.toList.flatMap escapeChar ++ '"' :: r) := by
  simp [literal]

/-! ## Values of texts -/

/-- A value that is made of texts, arrays and objects. -/
inductive Textual : Json → Prop where
  | str (s : String) : Textual (.str s)
  | arr {vs : List Json} (h : ∀ v ∈ vs, Textual v) : Textual (.arr vs)
  | obj {ms : List (String × Json)} (h : ∀ m ∈ ms, Textual m.2) : Textual (.obj ms)

/-- What is written for a value is read back, whatever follows it. -/
def Reads (v : Json) : Prop :=
  ∀ r fuel, (compact v).toList.length < fuel → value fuel ((compact v).toList ++ r) = some (v, r)

variable {v : Json} {vs : List Json} {ms : List (String × Json)}

@[simp] theorem skip_cons {c : Char} (h : isSpace c = false) (r : List Char) :
    skip (c :: r) = c :: r := by
  simp [skip, h]

theorem toList_compact_arr (vs : List Json) (r : List Char) :
    (compact (.arr vs)).toList ++ r = '[' :: ((compactItems "" vs).toList ++ ']' :: r) := by
  simp [compact, String.toList_append]

theorem toList_compact_obj (ms : List (String × Json)) (r : List Char) :
    (compact (.obj ms)).toList ++ r =
      '\x7b' :: ((compactMembers "" ms).toList ++ '\x7d' :: r) := by
  simp [compact, String.toList_append]

/-- A comma stands between one item and the next one. -/
theorem toList_items_more (v w : Json) (vs : List Json) (r : List Char) :
    (compactItems "" (v :: w :: vs)).toList ++ r =
      (compact v).toList ++ ',' :: ((compactItems "" (w :: vs)).toList ++ r) := by
  simp [compactItems, String.toList_append]

theorem toList_members_last (m : String × Json) (r : List Char) :
    (compactMembers "" [m]).toList ++ r =
      '"' :: (m.1.toList.flatMap escapeChar ++ '"' :: ':' :: ((compact m.2).toList ++ r)) := by
  simp [compactMembers, literal, String.toList_append]

theorem toList_members_more (m k : String × Json) (ms : List (String × Json)) (r : List Char) :
    (compactMembers "" (m :: k :: ms)).toList ++ r =
      '"' :: (m.1.toList.flatMap escapeChar ++ '"' :: ':' :: ((compact m.2).toList ++
        ',' :: ((compactMembers "" (k :: ms)).toList ++ r))) := by
  simp [compactMembers, literal, String.toList_append]

theorem items_compact (hne : vs ≠ []) (h : ∀ v ∈ vs, Reads v) (r : List Char) (fuel : Nat)
    (hf : (compactItems "" vs).toList.length + 1 < fuel) :
    items fuel ((compactItems "" vs).toList ++ ']' :: r) = some (vs, r) := by
  induction vs generalizing fuel with
  | nil => exact absurd rfl hne
  | cons v vs ih =>
    obtain ⟨fuel, rfl⟩ : ∃ k, fuel = k + 1 := ⟨fuel - 1, by omega⟩
    obtain ⟨hv, hvs⟩ := List.forall_mem_cons.1 h
    cases vs with
    | nil =>
      have hread := hv (']' :: r) fuel (by simp [compactItems] at hf; omega)
      simp [items, compactItems, hread, isSpace]
    | cons w vs =>
      have hlength := congrArg List.length (toList_items_more v w vs [])
      simp only [List.length_append, List.length_cons, List.length_nil] at hlength
      have hread := hv (',' :: ((compactItems "" (w :: vs)).toList ++ ']' :: r)) fuel (by omega)
      have hrest := ih (List.cons_ne_nil w vs) hvs fuel (by omega)
      rw [toList_items_more, items, hread]
      simp [isSpace, hrest]

theorem members_compact (hne : ms ≠ []) (h : ∀ m ∈ ms, Reads m.2) (r : List Char) (fuel : Nat)
    (hf : (compactMembers "" ms).toList.length + 1 < fuel) :
    members fuel ((compactMembers "" ms).toList ++ '\x7d' :: r) = some (some ms, r) := by
  induction ms generalizing fuel with
  | nil => exact absurd rfl hne
  | cons m ms ih =>
    obtain ⟨fuel, rfl⟩ : ∃ k, fuel = k + 1 := ⟨fuel - 1, by omega⟩
    obtain ⟨hm, hms⟩ := List.forall_mem_cons.1 h
    cases ms with
    | nil =>
      have hlength := congrArg List.length (toList_members_last m [])
      simp only [List.length_append, List.length_cons, List.length_nil] at hlength
      have hread := hm ('\x7d' :: r) fuel (by omega)
      rw [toList_members_last, members]
      simp [isSpace, string_escaped, hread]
    | cons k ms =>
      have hlength := congrArg List.length (toList_members_more m k ms [])
      simp only [List.length_append, List.length_cons, List.length_nil] at hlength
      have hread := hm (',' :: ((compactMembers "" (k :: ms)).toList ++ '\x7d' :: r)) fuel
        (by omega)
      have hrest := ih (List.cons_ne_nil k ms) hms fuel (by omega)
      rw [toList_members_more, members]
      simp [isSpace, string_escaped, hread, hrest]

/-- Such a value begins with a sign that ends no array. -/
theorem Textual.head (h : Textual v) :
    ∃ c r, (compact v).toList = c :: r ∧ isSpace c = false ∧ c ≠ ']' := by
  cases h with
  | str s =>
    refine ⟨'"', s.toList.flatMap escapeChar ++ ['"'], ?_, by decide, by decide⟩
    simpa [compact] using toList_literal s []
  | @arr vs =>
    refine ⟨'[', (compactItems "" vs).toList ++ [']'], ?_, by decide, by decide⟩
    simpa using toList_compact_arr vs []
  | @obj ms =>
    refine ⟨'\x7b', (compactMembers "" ms).toList ++ ['\x7d'], ?_, by decide, by decide⟩
    simpa using toList_compact_obj ms []

theorem reads_str (s : String) : Reads (.str s) := by
  intro r fuel hf
  obtain ⟨fuel, rfl⟩ : ∃ k, fuel = k + 1 := ⟨fuel - 1, by omega⟩
  rw [compact, toList_literal]
  simp [value, isSpace, string_escaped]

theorem reads_arr (h : ∀ v ∈ vs, Textual v) (hr : ∀ v ∈ vs, Reads v) : Reads (.arr vs) := by
  intro r fuel hf
  obtain ⟨fuel, rfl⟩ : ∃ k, fuel = k + 1 := ⟨fuel - 1, by omega⟩
  have hlength := congrArg List.length (toList_compact_arr vs [])
  simp only [List.length_append, List.length_cons, List.length_nil] at hlength
  rw [toList_compact_arr]
  cases vs with
  | nil => simp [value, isSpace, compactItems]
  | cons v vs =>
    have hitems := items_compact (List.cons_ne_nil v vs) hr r fuel (by omega)
    -- the first item keeps the array from being taken for an empty one
    obtain ⟨c, tail, hc, hspace, hclose⟩ := (h v List.mem_cons_self).head
    obtain ⟨rest, hrest⟩ : ∃ rest, (compactItems "" (v :: vs)).toList ++ ']' :: r = c :: rest := by
      simp [compactItems, String.toList_append, hc]
    have hskip := skip_cons hspace rest
    rw [hrest] at hitems ⊢
    simp [value, isSpace, hskip, hclose, hitems]

theorem reads_obj (hr : ∀ m ∈ ms, Reads m.2) : Reads (.obj ms) := by
  intro r fuel hf
  obtain ⟨fuel, rfl⟩ : ∃ k, fuel = k + 1 := ⟨fuel - 1, by omega⟩
  have hlength := congrArg List.length (toList_compact_obj ms [])
  simp only [List.length_append, List.length_cons, List.length_nil] at hlength
  rw [toList_compact_obj]
  cases ms with
  | nil => simp [value, isSpace, compactMembers]
  | cons m ms =>
    have hmembers := members_compact (List.cons_ne_nil m ms) hr r fuel (by omega)
    obtain ⟨rest, hrest⟩ : ∃ rest, (compactMembers "" (m :: ms)).toList ++ '\x7d' :: r =
        '"' :: rest := by
      simp [compactMembers, String.toList_append, literal]
    rw [hrest] at hmembers ⊢
    simp [value, isSpace, hmembers]

theorem Textual.reads (h : Textual v) : Reads v := by
  induction h with
  | str s => exact reads_str s
  | arr h ih => exact reads_arr h ih
  | obj h ih => exact reads_obj ih

/-- What is written for a value of texts is read back. -/
theorem Textual.read?_compact (h : Textual v) : read? (compact v) = some v := by
  have hread := h.reads [] ((compact v).toList.length + 1) (Nat.lt_succ_self _)
  rw [List.append_nil] at hread
  rw [read?, hread]
  rfl

/-! ## One text -/

/-- A text within objects of one member. -/
def nest (s : String) : List String → Json
  | [] => .str s
  | n :: ns => .obj [(n, nest s ns)]

theorem textual_nest (s : String) (ns : List String) : Textual (nest s ns) := by
  induction ns with
  | nil => exact .str s
  | cons n ns ih => exact .obj (by simpa using ih)

theorem canonical_nest (s : String) (ns : List String) : (nest s ns).canonical = nest s ns := by
  induction ns with
  | nil => rfl
  | cons n ns ih => simp [nest, canonical, canonicalMembers, Ordered.insert, ih]

theorem sound_nest (s : String) {ns : List String} {depth : Nat} (h : ns.length ≤ depth) :
    (nest s ns).sound depth = true := by
  induction ns generalizing depth with
  | nil => cases depth <;> rfl
  | cons n ns ih =>
    obtain ⟨depth, rfl⟩ : ∃ k, depth = k + 1 := ⟨depth - 1, by simp at h; omega⟩
    simp [nest, sound, soundMembers, ih (Nat.le_of_succ_le_succ h)]

end Herald.Json
