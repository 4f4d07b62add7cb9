/-!
# Herald.Text.Split

Taking texts apart at their front.

* `after? p s`: what follows the lead `p` in `s`.
* `occurs w s`: whether `w` stands somewhere in `s`.
* `cutAt p s`: the parts before and after the first character with property `p`.
* `pieces p s`: the stretches of `s` between the characters with property `p`.
-/

namespace Herald.Text

/-- What follows `p` in a text that starts with `p`. -/
def after? : List Char → List Char → Option (List Char)
  | [], s => some s
  | _ :: _, [] => none
  | c :: p, d :: s => if c = d then after? p s else none

theorem after?_eq_some_iff {p s t : List Char} : after? p s = some t ↔ s = p ++ t := by
  fun_induction after? p s with
  | case1 s => simp [eq_comm]
  | case2 => simp
  | case3 c p s ih => simp [ih]
  | case4 c p d s h => simp [Ne.symm h]

@[simp] theorem after?_append (p t : List Char) : after? p (p ++ t) = some t :=
  after?_eq_some_iff.2 rfl

def occurs (word : List Char) : List Char → Bool
  | [] => word = []
  | c :: s => (after? word (c :: s)).isSome || occurs word s

theorem occurs_iff {word s : List Char} : occurs word s = true ↔ ∃ a b, s = a ++ word ++ b := by
  induction s with
  | nil =>
    simp only [occurs, decide_eq_true_eq]
    constructor
    · rintro rfl; exact ⟨[], [], rfl⟩
    · rintro ⟨a, b, h⟩; simp_all
  | cons c s ih =>
    simp only [occurs, Bool.or_eq_true, Option.isSome_iff_exists, after?_eq_some_iff, ih]
    constructor
    · rintro (⟨b, h⟩ | ⟨a, b, rfl⟩)
      · exact ⟨[], b, h⟩
      · exact ⟨c :: a, b, rfl⟩
    · rintro ⟨a, b, h⟩
      cases a with
      | nil => exact .inl ⟨b, h⟩
      | cons d a => exact .inr ⟨a, b, (List.cons.inj h).2⟩

/-- The parts before and after the first character with property `p`, which is in neither. -/
def cutAt (p : Char → Bool) : List Char → Option (List Char × List Char)
  | [] => none
  | c :: s => if p c then some ([], s) else (cutAt p s).map fun r => (c :: r.1, r.2)

theorem cutAt_eq_some {p : Char → Bool} {s a b : List Char} (h : cutAt p s = some (a, b)) :
    ∃ c, p c = true ∧ s = a ++ c :: b ∧ ∀ x ∈ a, p x = false := by
  fun_induction cutAt p s generalizing a b with
  | case1 => simp at h
  | case2 c s hc =>
    obtain ⟨rfl, rfl⟩ := Prod.mk.inj (Option.some.inj h)
    exact ⟨c, hc, rfl, by simp⟩
  | case3 c s hc ih =>
    obtain ⟨r, hr, he⟩ := Option.map_eq_some_iff.1 h
    obtain ⟨rfl, rfl⟩ := Prod.mk.inj he
    obtain ⟨x, hx, rfl, ha⟩ := ih hr
    exact ⟨x, hx, rfl, by simpa [hc] using ha⟩

/-- The stretches between the characters with property `p`. A text without such a character is one
piece, and neighbouring separators enclose an empty piece. -/
def pieces (p : Char → Bool) : List Char → List (List Char)
  | [] => [[]]
  | c :: s =>
    match p c, pieces p s with
    | true, ps => [] :: ps
    | false, [] => [[c]]
    | false, q :: ps => (c :: q) :: ps

theorem pieces_ne_nil (p : Char → Bool) (s : List Char) : pieces p s ≠ [] := by
  cases s with
  | nil => simp [pieces]
  | cons c s => unfold pieces; split <;> simp

end Herald.Text
