import Herald.Proofs.Number.Spelling
import Herald.Settings.Environment

/-!
# Herald.Proofs.Settings.Arrival

What becomes of a text on its way through a variable.

* `Arrives`: the text that arrives. `exists_arrives`: there is one.
* `OwnSpelling`: the texts that arrive as they are. `Arrives.eq_iff`: no others do.
-/

namespace Herald.Settings

open Number Value

/-- What arrives where a text is needed, if a variable is set to a text. The text is taken for a
truth value, else for a whole number, else for a double, else for itself. -/
inductive Arrives (s : String) : String → Prop where
  | truth (b : Bool) (h : lower s = toString b) : Arrives s (toString b)
  | whole (i : Int) (hb : ∀ b : Bool, lower s ≠ toString b) (hi : readInt? s = some i) :
      Arrives s (toString i)
  | double (d : Double) (hb : ∀ b : Bool, lower s ≠ toString b) (hi : readInt? s = none)
      (hd : readDouble? s = some d) : Arrives s (d.text plain)
  | itself (hb : ∀ b : Bool, lower s ≠ toString b) (hi : readInt? s = none)
      (hd : readDouble? s = none) : Arrives s s

theorem exists_arrives (s : String) :
    ∃ t, text? (Environment.value s) = some t ∧ Arrives s t := by
  unfold Environment.value
  split
  · next h => exact ⟨_, rfl, .truth true h⟩
  · next h => exact ⟨_, rfl, .truth false h⟩
  · next ht hf =>
    have hb (b : Bool) : lower s ≠ toString b := by cases b; exacts [hf, ht]
    split
    · next i hi => exact ⟨_, rfl, .whole i hb hi⟩
    · next hi =>
      split
      · next d hd => exact ⟨_, rfl, .double d hb hi hd⟩
      · next hd => exact ⟨_, rfl, .itself hb hi hd⟩

/-- A text that is no truth value and no number in another spelling. -/
structure OwnSpelling (s : String) : Prop where
  truth : ∀ b : Bool, lower s = toString b → s = toString b
  whole : ∀ i, readInt? s = some i → s = toString i
  double : ∀ d, readInt? s = none → readDouble? s = some d → s = d.text plain

section

variable {s : String} {b : Bool}

theorem lower_ne_of_numeric (h : ∀ c ∈ s.toList, Numeric c) (b : Bool) : lower s ≠ toString b := by
  intro hb
  have hc : ∀ c ∈ (toString b).toList, Numeric c := by
    rw [← hb, lower, String.toList_ofList]
    intro c hc
    obtain ⟨d, hd, rfl⟩ := List.mem_map.1 hc
    exact (h d hd).toLower
  cases b with
  | false => exact absurd (hc 'f' (by decide)) (by decide)
  | true => exact absurd (hc 't' (by decide)) (by decide)

theorem readInt?_of_truth (h : lower s = toString b) : readInt? s = none := by
  cases hi : readInt? s with
  | none => rfl
  | some i => exact (lower_ne_of_numeric (numeric_of_readInt? hi) b h).elim

theorem readDouble?_of_truth (h : lower s = toString b) : readDouble? s = none := by
  cases hd : readDouble? s with
  | none => rfl
  | some d =>
    exfalso
    rcases numeric_of_readDouble? hd with hn | hn
    · exact lower_ne_of_numeric hn b h
    have hl : s.toList.map Char.toLower = (toString b).toList := by
      rw [← h, lower, String.toList_ofList]
    unfold splitSign at hn
    split at hn
    · next hs =>
      rw [hs] at hl
      cases b <;> cases hl
    · next hs =>
      rw [hs] at hl
      cases b <;> cases hl
    · have hm : toString b ∈ ["inf", "infinity", "nan"] := h ▸ hn
      revert hm
      cases b <;> decide

theorem Arrives.eq_iff {t : String} (h : Arrives s t) : t = s ↔ OwnSpelling s := by
  cases h with
  | truth b h =>
    refine ⟨fun hs => ⟨fun c hc => hs.symm.trans (h.symm.trans hc), fun i hi => ?_,
      fun d _ hd => ?_⟩, fun ho => (ho.truth b h).symm⟩
    · cases (readInt?_of_truth h).symm.trans hi
    · cases (readDouble?_of_truth h).symm.trans hd
  | whole i hb hi =>
    refine ⟨fun hs => ⟨fun b h => (hb b h).elim, fun j hj => ?_, fun d hn => ?_⟩,
      fun ho => (ho.whole i hi).symm⟩
    · cases hi.symm.trans hj
      exact hs.symm
    · cases hi.symm.trans hn
  | double d hb hi hd =>
    refine ⟨fun hs => ⟨fun b h => (hb b h).elim, fun j hj => ?_, fun e _ he => ?_⟩,
      fun ho => (ho.double d hi hd).symm⟩
    · cases hi.symm.trans hj
    · cases hd.symm.trans he
      exact hs.symm
  | itself hb hi hd =>
    refine ⟨fun _ => ⟨fun b h => (hb b h).elim, fun j hj => ?_, fun e _ he => ?_⟩, fun _ => rfl⟩
    · cases hi.symm.trans hj
    · cases hd.symm.trans he

/-- A text with a character of no number, but for the names of truth values and of what is no finite
number. -/
theorem ownSpelling_of_char (hb : ∀ b : Bool, lower s ≠ toString b)
    (hn : String.ofList ((splitSign s.toList).2.map Char.toLower) ∉ ["inf", "infinity", "nan"])
    {c : Char} (hc : c ∈ s.toList) (h : ¬ Numeric c) : OwnSpelling s := by
  refine ⟨fun b h => (hb b h).elim, fun i hi => ?_, fun d _ hd => ?_⟩
  · exact (h (numeric_of_readInt? hi c hc)).elim
  · exact ((numeric_of_readDouble? hd).elim (fun h' => h (h' c hc)) hn).elim

theorem ownSpelling_toString {i : Int} (h : fitsSigned i = true) : OwnSpelling (toString i) := by
  have hi := readInt?_toString h
  refine ⟨fun b hb => ?_, fun j hj => ?_, fun d hn => ?_⟩
  · exact (lower_ne_of_numeric (numeric_of_readInt? hi) b hb).elim
  · cases hi.symm.trans hj
    rfl
  · cases hi.symm.trans hn

theorem ownSpelling_padded_iff {zeros n : Nat} (h : fitsSigned n = true) :
    OwnSpelling (String.ofList (padded zeros n)) ↔ zeros = 0 := by
  have hp : String.ofList (padded 0 n) = toString (n : Int) := rfl
  constructor
  · intro ho
    have hs : String.ofList (padded zeros n) = String.ofList (padded 0 n) :=
      ho.whole _ (readInt?_padded zeros h)
    simpa [padded] using congrArg (fun s : String => s.toList.length) hs
  · rintro rfl
    exact hp ▸ ownSpelling_toString h

end

end Herald.Settings
