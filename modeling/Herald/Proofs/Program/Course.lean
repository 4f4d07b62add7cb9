import Herald.Proofs.Program.Follows

/-!
# Herald.Proofs.Program.Course

All that a lookup does from its beginning to its end, what it lets be seen among it.

`Follows` goes by a log, which leaves out what a lookup only lets be seen. Where that counts, the
whole course is wanted.

* `Course`: exchanges in their order, without leaving any out. `Course.log`: the log of a course.
* `Program.Courses Q`: however a program is answered, its course and its value are as `Q` says.

The lemmas named `courses_` put the course of a lookup together from those of its parts.
-/

namespace Herald

abbrev Course := List (Exchange Unit)

def Course.log (c : Course) (log : Log Unit) : Log Unit :=
  c.foldl (fun log x => log.record x.request x.answer x.label) log

variable {α β : Type}

namespace Program

/-- However it is answered, a program takes a course and ends as `Q` says. -/
def Courses : (Course → α → Prop) → Program α → Prop
  | Q, done a => Q [] a
  | Q, ask r next => ∀ x, (next x).Courses fun c a => Q (⟨r, x, ()⟩ :: c) a

theorem courses_done {Q : Course → α → Prop} {a : α} : (done a).Courses Q ↔ Q [] a := Iff.rfl

theorem courses_ask {Q : Course → α → Prop} {r : Request} {next : r.Answer → Program α} :
    (ask r next).Courses Q ↔ ∀ x, (next x).Courses fun c a => Q (⟨r, x, ()⟩ :: c) a := Iff.rfl

theorem courses_andThen {p : Program α} {f : α → Program β} {Q : Course → β → Prop} :
    (p.andThen f).Courses Q ↔ p.Courses fun c a => (f a).Courses fun c' b => Q (c ++ c') b := by
  induction p generalizing Q with
  | done a => rfl
  | ask r next ih => simp only [andThen, Courses, ih, List.cons_append]

theorem Courses.imp {p : Program α} {Q R : Course → α → Prop} (h : p.Courses Q)
    (hq : ∀ c a, Q c a → R c a) : p.Courses R := by
  induction p generalizing Q R with
  | done a => exact hq [] a h
  | ask r next ih =>
    intro x
    exact ih x (h x) fun c a => hq (⟨r, x, ()⟩ :: c) a

end Program

namespace Lookup

variable {Q : Course → Except EngineError α → Prop}

theorem courses_pure {a : α} : (pure a : Lookup α).run.Courses Q ↔ Q [] (.ok a) := Iff.rfl

theorem courses_throw {e : EngineError} :
    (throw e : Lookup α).run.Courses Q ↔ Q [] (.error e) := Iff.rfl

theorem courses_ofExcept {p : Program (Except EngineError α)} :
    (ofExcept p).run.Courses Q ↔ p.Courses Q := Iff.rfl

theorem courses_bind {l : Lookup β} {f : β → Lookup α} :
    (l >>= f).run.Courses Q ↔ l.run.Courses fun c r =>
      match r with
      | .ok a => (f a).run.Courses fun c' s => Q (c ++ c') s
      | .error e => Q c (.error e) := by
  have h : (l >>= f).run = l.run.andThen (ExceptT.bindCont f) := rfl
  rw [h, Program.courses_andThen]
  constructor
  · intro h
    refine h.imp fun c r hr => ?_
    cases r with
    | ok a => exact hr
    | error e =>
      have hr : Q (c ++ []) (.error e) := hr
      rwa [List.append_nil] at hr
  · intro h
    refine h.imp fun c r hr => ?_
    cases r with
    | ok a => exact hr
    | error e =>
      show Q (c ++ []) (.error e)
      rwa [List.append_nil]

theorem courses_lift {p : Program α} :
    (ExceptT.lift p : Lookup α).run.Courses Q ↔ p.Courses fun c a => Q c (.ok a) := by
  have h : (ExceptT.lift p : Lookup α).run = p.andThen fun a => .done (.ok a) := rfl
  rw [h, Program.courses_andThen]
  simp only [Program.Courses, List.append_nil]

theorem courses_request {r : Request} {Q : Course → Except EngineError r.Answer → Prop} :
    (request r).run.Courses Q ↔ ∀ x, Q [⟨r, x, ()⟩] (.ok x) := courses_lift

theorem courses_ask {r : Request} {f : r.Answer → Lookup α} :
    (request r >>= f).run.Courses Q ↔
      ∀ x, (f x).run.Courses fun c s => Q (⟨r, x, ()⟩ :: c) s := courses_bind

theorem courses_note {o : Observation} {Q : Course → Except EngineError Unit → Prop} :
    (note o).run.Courses Q ↔ Q [⟨.note o, (), ()⟩] (.ok ()) :=
  ⟨fun h => h (), fun h _ => h⟩

theorem courses_notes {os : List Observation} {Q : Course → Except EngineError Unit → Prop} :
    (ExceptT.lift (Program.notes os) : Lookup Unit).run.Courses Q ↔
      Q (os.map fun o => ⟨.note o, (), ()⟩) (.ok ()) := by
  induction os generalizing Q with
  | nil => rfl
  | cons o os ih =>
    have h : (ExceptT.lift (Program.notes (o :: os)) : Lookup Unit).run.Courses Q ↔
        Unit → (ExceptT.lift (Program.notes os) : Lookup Unit).run.Courses
          fun c r => Q (⟨.note o, (), ()⟩ :: c) r := Iff.rfl
    rw [h, forall_const, ih]
    rfl

theorem courses_inSpan {name : String} {l : Lookup α} :
    (inSpan name l).run.Courses Q ↔ l.run.Courses fun c r =>
      Q (⟨.note (.spanOpened name), (), ()⟩ :: (c ++ [⟨.note .spanClosed, (), ()⟩])) r := by
  simp only [inSpan, courses_bind, courses_note, courses_lift]
  rfl

end Lookup

-- from here on only by its lemmas, or else a whole lookup is run to see what is said of it
attribute [irreducible] Program.Courses

end Herald
