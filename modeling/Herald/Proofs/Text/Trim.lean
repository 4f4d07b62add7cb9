import Herald.Text.Blank
import Mathlib.Data.List.TakeWhile

/-!
# Herald.Proofs.Text.Trim

What trimming leaves of a text.

* `Trims`: a text is a core between blanks, and the core neither begins nor ends with one.
* `trimChars_eq_iff`: trimming finds the core, and there is no other.
-/

namespace Herald.Text

/-- A text is a core between blanks, and the core neither begins nor ends with a blank. -/
inductive Trims : List Char → List Char → Prop where
  | core (before core after : List Char) (hbefore : ∀ c ∈ before, isBlank c = true)
    (hafter : ∀ c ∈ after, isBlank c = true)
    (hfirst : ∀ c, core.head? = some c → isBlank c = false)
    (hlast : ∀ c, core.getLast? = some c → isBlank c = false) :
    Trims (before ++ core ++ after) core

variable {p : Char → Bool} {cs core : List Char}

/-- What is dropped from the front of a text ends where its first other character stands. -/
theorem dropWhile_front {before rest : List Char} (hbefore : ∀ c ∈ before, p c = true)
    (hrest : ∀ c, rest.head? = some c → p c = false) :
    (before ++ rest).dropWhile p = rest := by
  rw [List.dropWhile_append_of_pos hbefore]
  cases rest with
  | nil => rfl
  | cons c rest =>
    have hc : p c = false := hrest c rfl
    simp [hc]

theorem head?_dropWhile {c : Char} (h : (cs.dropWhile p).head? = some c) : p c = false := by
  have hn := List.head?_dropWhile_not p cs
  rw [h] at hn
  exact hn

theorem Trims.trimChars_eq (h : Trims cs core) : trimChars cs = core := by
  obtain ⟨before, core, after, hbefore, hafter, hfirst, hlast⟩ := h
  have hback (rest : List Char) (hr : ∀ c, rest.reverse.head? = some c → isBlank c = false) :
      ((rest ++ after).reverse.dropWhile isBlank).reverse = rest := by
    rw [List.reverse_append, dropWhile_front (fun c hc => hafter c (List.mem_reverse.1 hc)) hr,
      List.reverse_reverse]
  rw [trimChars, List.append_assoc]
  cases core with
  | nil =>
    -- nothing but blanks: they all go at the front
    rw [List.nil_append, List.dropWhile_append_of_pos hbefore]
    have hnil : after.dropWhile isBlank = [] := List.dropWhile_eq_nil_iff.2 hafter
    simp [hnil]
  | cons c core =>
    have hfront : (before ++ (c :: core ++ after)).dropWhile isBlank = c :: core ++ after :=
      dropWhile_front hbefore fun d hd => hfirst d hd
    rw [hfront]
    exact hback (c :: core) fun d hd => hlast d (by rwa [List.head?_reverse] at hd)

theorem trims_trimChars (cs : List Char) : Trims cs (trimChars cs) := by
  let rest := cs.dropWhile isBlank
  have hfront : cs = cs.takeWhile isBlank ++ rest := (List.takeWhile_append_dropWhile).symm
  have hrest : rest = trimChars cs ++ (rest.reverse.takeWhile isBlank).reverse := by
    rw [trimChars, ← List.reverse_append, List.takeWhile_append_dropWhile, List.reverse_reverse]
  have hfirst : ∀ c, (trimChars cs).head? = some c → isBlank c = false := by
    intro c hc
    have hr : rest.head? = some c := by
      rw [hrest, List.head?_append, hc]
      rfl
    exact head?_dropWhile hr
  have hlast : ∀ c, (trimChars cs).getLast? = some c → isBlank c = false := by
    intro c hc
    rw [trimChars, List.getLast?_reverse] at hc
    exact head?_dropWhile hc
  have hsplit : cs = cs.takeWhile isBlank ++ trimChars cs ++
      (rest.reverse.takeWhile isBlank).reverse := by
    rw [List.append_assoc, ← hrest]
    exact hfront
  have ht := Trims.core (cs.takeWhile isBlank) (trimChars cs)
    (rest.reverse.takeWhile isBlank).reverse (fun c hc => List.mem_takeWhile_imp hc)
    (fun c hc => List.mem_takeWhile_imp (List.mem_reverse.1 hc)) hfirst hlast
  rwa [← hsplit] at ht

/-- Trimming finds the core, and there is no other. -/
theorem trimChars_eq_iff : trimChars cs = core ↔ Trims cs core :=
  ⟨fun h => h ▸ trims_trimChars cs, Trims.trimChars_eq⟩

end Herald.Text
