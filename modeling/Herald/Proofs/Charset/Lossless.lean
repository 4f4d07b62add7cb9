import Mathlib.Data.List.Forall2
import Herald.Proofs.Charset.Bytes

/-!
# Herald.Proofs.Charset.Lossless

Values are encoded without loss, and in characters that mean nothing in an address.

* `Percent.Writes`: what a byte is written as. `Percent.writes_encode`: all bytes are.
* `Percent.decode?_encode`: what is written is read back.
* `Charset.encode_eq_ok_iff`: a value is encoded as its bytes are written.
* `encode_lossless`: all together.
-/

namespace Herald

namespace Percent

/-- The characters that may stand for themselves anywhere in an address. -/
def Unreserved (c : Char) : Prop :=
  'A' ≤ c ∧ c ≤ 'Z' ∨ 'a' ≤ c ∧ c ≤ 'z' ∨ '0' ≤ c ∧ c ≤ '9' ∨ c ∈ ['-', '_', '.', '~']

def capitalDigits : List Char := "0123456789ABCDEF".toList

/-- What a byte is written as: the unreserved character of its number, or else a triple of `%` and
the two digits of its number in base sixteen. -/
inductive Writes : UInt8 → List Char → Prop where
  | kept {b : UInt8} {c : Char} (hc : Unreserved c) (hb : c.toNat = b.toNat) : Writes b [c]
  | escaped {b : UInt8} {x y : Char} (hb : ∀ c, Unreserved c → c.toNat ≠ b.toNat)
    (hx : capitalDigits[b.toNat / 16]? = some x) (hy : capitalDigits[b.toNat % 16]? = some y) :
    Writes b ['%', x, y]

theorem unreservedChar_iff {c : Char} : unreservedChar c = true ↔ Unreserved c := by
  have h : c.isAlpha = (decide ('A' ≤ c ∧ c ≤ 'Z') || (decide ('a' ≤ c) && decide (c ≤ 'z'))) := rfl
  simp only [unreservedChar, Unreserved, Char.isAlphanum, h, Char.isDigit, Bool.or_eq_true,
    Bool.and_eq_true, decide_eq_true_eq, List.mem_cons, List.not_mem_nil, or_false, or_assoc]
  rfl

theorem unreserved_iff {b : UInt8} : unreserved b = true ↔
    b.toNat < 0x80 ∧ unreservedChar (Char.ofNat b.toNat) = true := by
  rw [unreserved, Bool.and_eq_true, decide_eq_true_eq]

theorem Unreserved.ascii {c : Char} (h : Unreserved c) : c.toNat < 0x80 := by
  rcases h with ⟨-, h⟩ | ⟨-, h⟩ | ⟨-, h⟩ | h
  · exact Nat.lt_of_le_of_lt h (by decide)
  · exact Nat.lt_of_le_of_lt h (by decide)
  · exact Nat.lt_of_le_of_lt h (by decide)
  · simp only [List.mem_cons, List.not_mem_nil, or_false] at h
    rcases h with rfl | rfl | rfl | rfl <;> decide

theorem upperHexDigit_eq : ∀ n < 16, capitalDigits[n]? = some (Text.upperHexDigit n) := by decide

theorem toNat_ofNat {n : Nat} (h : n < 0x80) : (Char.ofNat n).toNat = n := by
  have hv : n.isValidChar := .inl (by omega)
  rw [Char.ofNat, dif_pos hv]
  rfl

theorem writes_encodeByte (b : UInt8) : Writes b (encodeByte b) := by
  have hb : b.toNat < 256 := b.toNat_lt
  unfold encodeByte
  split
  · next h =>
    obtain ⟨hlt, hc⟩ := unreserved_iff.1 h
    exact .kept (unreservedChar_iff.1 hc) (toNat_ofNat hlt)
  · next h =>
    refine .escaped (fun c hc he => h (unreserved_iff.2 ?_)) (upperHexDigit_eq _ (by omega))
      (upperHexDigit_eq _ (by omega))
    rw [← he, Char.ofNat_toNat]
    exact ⟨hc.ascii, unreservedChar_iff.2 hc⟩

theorem writes_encode (bs : List UInt8) :
    ∃ pieces, List.Forall₂ Writes bs pieces ∧ encode bs = pieces.flatten :=
  ⟨bs.map encodeByte, List.forall₂_map_right_iff.2 (List.forall₂_same.2 fun b _ =>
    writes_encodeByte b), List.flatMap_def⟩

theorem encode_append (xs ys : List UInt8) : encode (xs ++ ys) = encode xs ++ encode ys :=
  List.flatMap_append

theorem encode_cons (b : UInt8) (bs : List UInt8) : encode (b :: bs) = encodeByte b ++ encode bs :=
  List.flatMap_cons

theorem decode?_cons {c : Char} {cs : List Char} (hc : unreservedChar c = true) :
    decode? (c :: cs) = (decode? cs).map (UInt8.ofNat c.toNat :: ·) := by
  rw [decode?, if_pos hc]
  -- a triple begins with a character that is reserved
  rintro a b r rfl
  cases hc

theorem decode?_encodeByte (b : UInt8) (cs : List Char) :
    decode? (encodeByte b ++ cs) = (decode? cs).map (b :: ·) := by
  have hb : b.toNat < 256 := b.toNat_lt
  unfold encodeByte
  split
  · next h =>
    obtain ⟨hlt, hc⟩ := unreserved_iff.1 h
    rw [List.singleton_append, decode?_cons hc, toNat_ofNat hlt, UInt8.ofNat_toNat]
  · have hdigits : UInt8.ofNat (16 * (b.toNat / 16) + b.toNat % 16) = b := by
      rw [Nat.div_add_mod, UInt8.ofNat_toNat]
    simp only [List.cons_append, List.nil_append, decode?,
      Text.hexValue?_upperHexDigit _ (show b.toNat / 16 < 16 by omega),
      Text.hexValue?_upperHexDigit _ (show b.toNat % 16 < 16 by omega)]
    cases decode? cs with
    | none => rfl
    | some bs => exact congrArg (fun x => some (x :: bs)) hdigits

/-- What is written is read back. -/
theorem decode?_encode (bs : List UInt8) : decode? (encode bs) = some bs := by
  induction bs with
  | nil => rfl
  | cons b bs ih => rw [encode_cons, decode?_encodeByte, ih, Option.map_some]

end Percent

namespace Charset

variable {c : Charset} {v w out : String}

theorem encode_eq_ok_iff :
    c.encode v = .ok out ↔ ∃ bs, c.Spells v bs ∧ out.toList = Percent.encode bs := by
  rw [encode]
  cases h : c.bytes? v.toList with
  | none =>
    refine iff_of_false nofun ?_
    rintro ⟨bs, hbs, -⟩
    rw [bytes?_eq_some_iff.2 hbs] at h
    cases h
  | some bs =>
    constructor
    · intro ho
      rw [← Except.ok.inj ho, String.toList_ofList]
      exact ⟨bs, bytes?_eq_some_iff.1 h, rfl⟩
    · rintro ⟨bs', hbs', ho⟩
      rw [bytes?_eq_some_iff.2 hbs'] at h
      cases h
      exact congrArg Except.ok (ho ▸ String.ofList_toList)

theorem exists_encode_iff : (∃ out, c.encode v = .ok out) ↔ c.bytes? v.toList ≠ none := by
  rw [encode]
  cases c.bytes? v.toList with
  | none => exact iff_of_false (fun ⟨_, h⟩ => nomatch h) fun h => h rfl
  | some bs => exact iff_of_true ⟨_, rfl⟩ (Option.some_ne_none bs)

/-- An encoded value is decoded to itself. -/
theorem decode_encode (h : c.encode v = .ok out) :
    (Percent.decode? out.toList).bind c.decode? = some v := by
  obtain ⟨bs, hbs, ho⟩ := encode_eq_ok_iff.1 h
  rw [ho, Percent.decode?_encode, Option.bind_some, decode?_of_spells hbs]

theorem encode_append_iff : c.encode (v ++ w) = .ok out ↔
    ∃ a b, c.encode v = .ok a ∧ c.encode w = .ok b ∧ out = a ++ b := by
  simp only [encode_eq_ok_iff, ← bytes?_eq_some_iff, String.toList_append, bytes?_append]
  constructor
  · rintro ⟨_, ⟨xs, ys, hx, hy, rfl⟩, ho⟩
    refine ⟨String.ofList (Percent.encode xs), String.ofList (Percent.encode ys),
      ⟨xs, hx, String.toList_ofList⟩, ⟨ys, hy, String.toList_ofList⟩, String.toList_inj.1 ?_⟩
    rw [ho, String.toList_append, String.toList_ofList, String.toList_ofList,
      Percent.encode_append]
  · rintro ⟨a, b, ⟨xs, hx, ha⟩, ⟨ys, hy, hb⟩, rfl⟩
    refine ⟨xs ++ ys, ⟨xs, ys, hx, hy, rfl⟩, ?_⟩
    rw [String.toList_append, ha, hb, Percent.encode_append]

theorem encode_singleton {x : Char} (h : Percent.Unreserved x) :
    c.encode (.singleton x) = .ok (.singleton x) := by
  have hx := h.ascii
  have hbyte : (UInt8.ofNat x.toNat).toNat = x.toNat :=
    UInt8.toNat_ofNat_of_lt' (Nat.lt_trans hx (by decide))
  have hbytes : c.bytes? [x] = some [UInt8.ofNat x.toNat] := by
    cases c with
    | utf8 =>
      have hle : x.val.toNat ≤ 127 := Nat.le_of_lt_succ hx
      simp only [bytes?, List.flatMap_singleton, String.utf8EncodeChar, if_pos hle]
      rfl
    | latin1 => simp [bytes?, latin1Byte?, show x.toNat < 256 by omega]
  have hencode : Percent.encodeByte (UInt8.ofNat x.toNat) = [x] := by
    have hkept : Percent.unreserved (UInt8.ofNat x.toNat) = true := by
      rw [Percent.unreserved_iff, hbyte, Char.ofNat_toNat]
      exact ⟨hx, Percent.unreservedChar_iff.2 h⟩
    rw [Percent.encodeByte, if_pos hkept, hbyte, Char.ofNat_toNat]
  refine encode_eq_ok_iff.2 ⟨_, bytes?_eq_some_iff.1 (by rwa [String.toList_singleton]), ?_⟩
  rw [String.toList_singleton, Percent.encode, List.flatMap_singleton, hencode]

end Charset

/-- Every value has an encoded form in UTF-8, and in ISO-8859-1 those have one of which no character
is beyond U+00FF. It is written byte by byte, each as an unreserved character or as a triple, so
that unreserved characters stay as they are and nothing else of the value does. Decoding it gives
the value back, so that no two values have the same form. The form of a text is put together from
those of its parts. -/
theorem encode_lossless :
    (∀ v, ∃ out, Charset.utf8.encode v = .ok out) ∧
    (∀ v, (∃ out, Charset.latin1.encode v = .ok out) ↔ ∀ x ∈ v.toList, x.toNat ≤ 0xFF) ∧
    (∀ (c : Charset) v out, c.encode v = .ok out →
      (∃ bs pieces, c.Spells v bs ∧ List.Forall₂ Percent.Writes bs pieces ∧
        out.toList = pieces.flatten) ∧
      (Percent.decode? out.toList).bind c.decode? = some v ∧
      ∀ w, c.encode w = .ok out → w = v) ∧
    (∀ (c : Charset) x, Percent.Unreserved x → c.encode (.singleton x) = .ok (.singleton x)) ∧
    ∀ (c : Charset) v w out, c.encode (v ++ w) = .ok out ↔
      ∃ a b, c.encode v = .ok a ∧ c.encode w = .ok b ∧ out = a ++ b := by
  refine ⟨fun v => ⟨_, rfl⟩, fun v => ?_, fun c v out h => ⟨?_, Charset.decode_encode h,
    fun w hw => ?_⟩, fun c x => Charset.encode_singleton, fun c v w out => Charset.encode_append_iff⟩
  · rw [Charset.exists_encode_iff, Ne, Charset.bytes?_latin1_eq_none]
    simp only [not_exists, not_and, Nat.not_lt]
  · obtain ⟨bs, hbs, ho⟩ := Charset.encode_eq_ok_iff.1 h
    obtain ⟨pieces, hw, hp⟩ := Percent.writes_encode bs
    exact ⟨bs, pieces, hbs, hw, ho.trans hp⟩
  · have hv := (Charset.decode_encode hw).symm.trans (Charset.decode_encode h)
    exact Option.some.inj hv

end Herald
