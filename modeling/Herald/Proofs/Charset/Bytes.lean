import Herald.Charset

/-!
# Herald.Proofs.Charset.Bytes

The bytes of a text in a charset.

* `Charset.Spells`: which bytes they are. `bytes?_eq_some_iff`: these are the ones that are taken.
* `Charset.bytes?_latin1_eq_none`: only ISO-8859-1 can lack a character.
* `Charset.decode?`: the text that some bytes stand for. `decode?_of_spells`: it is the one that
  they were taken from.
-/

namespace Herald.Charset

variable {c : Charset} {cs ds : List Char} {bs : List UInt8} {v : String}

/-- The bytes of a text: its bytes in UTF-8, or the numbers of its characters. -/
def Spells (v : String) : Charset → List UInt8 → Prop
  | utf8, bs => bs.toByteArray = v.toUTF8
  | latin1, bs => bs.map UInt8.toNat = v.toList.map Char.toNat

/-- The text that some bytes stand for, none if they are no text in UTF-8. -/
def decode? : Charset → List UInt8 → Option String
  | utf8, bs => String.fromUTF8? bs.toByteArray
  | latin1, bs => some (String.ofList (bs.map fun b => Char.ofNat b.toNat))

theorem bytes?_latin1_eq_none : latin1.bytes? cs = none ↔ ∃ x ∈ cs, 255 < x.toNat := by
  induction cs with
  | nil => simp [bytes?]
  | cons c cs ih =>
    simp only [bytes?] at ih
    by_cases hc : c.toNat < 256
    · have hlt : ¬ 255 < c.toNat := by omega
      cases hm : cs.mapM latin1Byte? with
      | none => simp_all [bytes?, latin1Byte?]
      | some bs => simp_all [bytes?, latin1Byte?]
    · have hlt : 255 < c.toNat := by omega
      simp [bytes?, latin1Byte?, hc, hlt]

theorem latin1Byte?_eq_some_iff {x : Char} {b : UInt8} :
    latin1Byte? x = some b ↔ b.toNat = x.toNat := by
  unfold latin1Byte?
  constructor
  · intro h
    split at h
    · next hx =>
      cases h
      exact UInt8.toNat_ofNat_of_lt' hx
    · cases h
  · intro h
    have hx : x.toNat < 256 := h ▸ b.toNat_lt
    rw [if_pos hx, ← h, UInt8.ofNat_toNat]

theorem bytes?_latin1_eq_some_iff :
    latin1.bytes? cs = some bs ↔ bs.map UInt8.toNat = cs.map Char.toNat := by
  induction cs generalizing bs with
  | nil => simp [bytes?, eq_comm]
  | cons x cs ih =>
    simp only [bytes?] at ih ⊢
    cases bs with
    | nil => simp [List.mapM_cons, Option.bind_eq_some_iff]
    | cons b bs =>
      simp [List.mapM_cons, Option.bind_eq_some_iff, latin1Byte?_eq_some_iff, ih]

theorem bytes?_eq_some_iff : c.bytes? v.toList = some bs ↔ c.Spells v bs := by
  cases c with
  | utf8 =>
    have hv : v.toUTF8 = (v.toList.flatMap String.utf8EncodeChar).toByteArray := by
      rw [String.toUTF8_eq_toByteArray, ← String.utf8Encode_toList]
      rfl
    rw [bytes?, Spells, hv, List.toByteArray_inj, Option.some.injEq, eq_comm]
  | latin1 => exact bytes?_latin1_eq_some_iff

/-- The bytes of a text are those of its parts, one after the other. -/
theorem bytes?_append : c.bytes? (cs ++ ds) = some bs ↔
    ∃ xs ys, c.bytes? cs = some xs ∧ c.bytes? ds = some ys ∧ bs = xs ++ ys := by
  cases c with
  | utf8 => simp [bytes?, eq_comm]
  | latin1 =>
    simp only [bytes?, List.mapM_append, Option.bind_eq_bind, Option.bind_eq_some_iff,
      Option.pure_def, Option.some.injEq]
    exact ⟨fun ⟨xs, hx, ys, hy, h⟩ => ⟨xs, ys, hx, hy, h.symm⟩,
      fun ⟨xs, ys, hx, hy, h⟩ => ⟨xs, hx, ys, hy, h.symm⟩⟩

theorem decode?_of_spells (h : c.Spells v bs) : c.decode? bs = some v := by
  cases c with
  | utf8 =>
    have hbs : bs.toByteArray = v.toUTF8 := h
    rw [decode?, hbs, String.fromUTF8?, String.toUTF8_eq_toByteArray, dif_pos v.isValidUTF8]
    rfl
  | latin1 =>
    have hbs : bs.map UInt8.toNat = v.toList.map Char.toNat := h
    have hcs : (bs.map fun b => Char.ofNat b.toNat) = v.toList := by
      have hmap : (bs.map fun b => Char.ofNat b.toNat) = (bs.map UInt8.toNat).map Char.ofNat := by
        rw [List.map_map]
        rfl
      rw [hmap, hbs, List.map_map]
      exact (List.map_congr_left fun x _ => Char.ofNat_toNat x).trans (List.map_id _)
    rw [decode?, hcs, String.ofList_toList]

end Herald.Charset
