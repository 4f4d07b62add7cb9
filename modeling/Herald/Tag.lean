import Herald.Ordered
import Herald.Text.Split

/-!
# Herald.Tag

The tags in a text: a name between two pairs of braces, neither empty nor with a brace inside. A
name of the form `url:rest` asks for the value of `rest` in encoded form.

* `Tag.read?`: the tag at the front of a text.
* `segments`: a text as a row of characters and tags, with `join` as the way back.
* `Tag.names`: the names that a text asks for.
-/

namespace Herald

structure Tag where
  encoded : Bool
  name : List Char
  deriving DecidableEq, Repr

inductive Segment where
  | char (c : Char)
  | tag (t : Tag)
  deriving DecidableEq, Repr

namespace Tag

def urlMark : List Char := ['u', 'r', 'l', ':']

def isBrace (c : Char) : Bool := c = '{' || c = '}'

/-- The tag with this text between the braces. The mark alone is a name. -/
def ofInner (inner : List Char) : Tag :=
  match Text.after? urlMark inner with
  | some (c :: name) => ⟨true, c :: name⟩
  | _ => ⟨false, inner⟩

def inner (t : Tag) : List Char := if t.encoded then urlMark ++ t.name else t.name

def source (t : Tag) : List Char := '{' :: '{' :: (t.inner ++ ['}', '}'])

@[simp] theorem inner_ofInner (cs : List Char) : (ofInner cs).inner = cs := by
  unfold ofInner
  split
  · next c name h => exact (Text.after?_eq_some_iff.1 h).symm
  · rfl

def read? : List Char → Option (Tag × List Char)
  | '{' :: '{' :: r =>
    match r.takeWhile (!isBrace ·), r.dropWhile (!isBrace ·) with
    | c :: inner, '}' :: '}' :: rest => some (ofInner (c :: inner), rest)
    | _, _ => none
  | _ => none

theorem eq_of_read? {cs : List Char} {t : Tag} {rest : List Char} (h : read? cs = some (t, rest)) :
    cs = t.source ++ rest := by
  unfold read? at h
  split at h
  · next r =>
    split at h
    · next c inner rest' hl hr =>
      obtain ⟨rfl, rfl⟩ := Prod.mk.inj (Option.some.inj h)
      have := List.takeWhile_append_dropWhile (p := (!isBrace ·)) (l := r)
      rw [hl, hr] at this
      simp [source, ← this]
    · simp at h
  · simp at h

theorem length_of_read? {cs : List Char} {t : Tag} {rest : List Char}
    (h : read? cs = some (t, rest)) : rest.length < cs.length := by
  simp [eq_of_read? h, source]
  omega

end Tag

def Segment.source : Segment → List Char
  | .char c => [c]
  | .tag t => t.source

/-- A text as a row of characters and tags. A tag is taken where it starts, everything else stands
for itself. -/
def segments (cs : List Char) : List Segment :=
  match h : Tag.read? cs with
  | some (t, rest) =>
    have := Tag.length_of_read? h
    .tag t :: segments rest
  | none =>
    match cs with
    | [] => []
    | c :: rest => .char c :: segments rest
  termination_by cs.length

def Segment.join (ss : List Segment) : List Char := ss.flatMap source

theorem join_segments (cs : List Char) : Segment.join (segments cs) = cs := by
  fun_induction segments cs with
  | case1 cs t rest h _ ih =>
    rw [Tag.eq_of_read? h, Segment.join, List.flatMap_cons, ← Segment.join, ih]; rfl
  | case2 => rfl
  | case3 c rest h ih =>
    rw [Segment.join, List.flatMap_cons, ← Segment.join, ih]; rfl

def Segment.tag? : Segment → Option Tag
  | .tag t => some t
  | .char _ => none

/-- The names that a text asks for, in order, each once. -/
def Tag.names (text : String) : List String :=
  Ordered.distinct
    ((segments text.toList).filterMap fun s => s.tag?.map fun t => String.ofList t.name)

end Herald
