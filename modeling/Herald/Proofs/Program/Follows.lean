import Herald.Resolution.Program

/-!
# Herald.Proofs.Program.Follows

What a lookup asks, whatever it is answered.

* `Log`: the exchanges of a lookup with its surroundings so far, the last one first.
* `Program.Follows allows Q`: however the requests of a program are answered, it makes only those
  that `allows` permits after the exchanges before, and it ends as `Q` says.
* `Program.Follows.run`: such a program in surroundings that keep an invariant between their state
  and the log.

The lemmas named `follows_` open a lookup step by step, into what its answers make of it.
-/

namespace Herald

instance : LawfulMonad Program :=
  .mk' Program Program.andThen_done (fun _ _ => rfl) Program.andThen_assoc

/-- A request with its answer, and with what an onlooker notes beside it. -/
structure Exchange (β : Type) where
  request : Request
  answer : request.Answer
  label : β

/-- The exchanges of a lookup, the last one first. -/
abbrev Log (β : Type) := List (Exchange β)

/-- One more exchange. What a lookup only lets be seen is none. -/
def Log.record {β : Type} (log : Log β) : (r : Request) → r.Answer → β → Log β
  | .note _, _, _ => log
  | r, x, b => ⟨r, x, b⟩ :: log

variable {α β γ : Type}

namespace Program

/-- However it is answered, a program asks what `allows` permits and ends as `Q` says. -/
def Follows (allows : Log β → Request → Prop) (Q : Log β → α → Prop) : Program α → Log β → Prop
  | done a, log => Q log a
  | ask r next, log => allows log r ∧ ∀ x b, Follows allows Q (next x) (log.record r x b)

variable {allows : Log β → Request → Prop}

theorem follows_andThen {p : Program α} {f : α → Program γ} {Q : Log β → γ → Prop} {log : Log β} :
    (p.andThen f).Follows allows Q log ↔
      p.Follows allows (fun log a => (f a).Follows allows Q log) log := by
  induction p generalizing log with
  | done a => rfl
  | ask r next ih => simp only [andThen, Follows, ih]

theorem Follows.imp {p : Program α} {Q R : Log β → α → Prop} {log : Log β}
    (h : p.Follows allows Q log) (hq : ∀ log a, Q log a → R log a) : p.Follows allows R log := by
  induction p generalizing log with
  | done a => exact hq log a h
  | ask r next ih => exact ⟨h.1, fun x b => ih x (h.2 x b)⟩

theorem Follows.and {allows' : Log β → Request → Prop} {p : Program α} {Q R : Log β → α → Prop}
    {log : Log β} (h : p.Follows allows Q log) (h' : p.Follows allows' R log) :
    p.Follows allows (fun log a => Q log a ∧ R log a) log := by
  induction p generalizing log with
  | done a => exact ⟨h, h'⟩
  | ask r next ih => exact ⟨h.1, fun x b => ih x (h.2 x b) (h'.2 x b)⟩

/-- What was exchanged stays in the log. -/
theorem follows_mem {p : Program α} {x : Exchange β} {log : Log β} (hx : x ∈ log) :
    p.Follows (fun _ _ => True) (fun log _ => x ∈ log) log := by
  induction p generalizing log with
  | done a => exact hx
  | ask r next ih =>
    refine ⟨trivial, fun a b => ih a ?_⟩
    cases r with
    | note o => exact hx
    | _ => exact List.mem_cons_of_mem _ hx

/-- A program in surroundings that keep an invariant between their state and the log. -/
theorem Follows.run {σ : Type} {answer : (r : Request) → σ → Reply σ r.Answer} {b : β}
    {I : σ → Log β → Prop}
    (keeps : ∀ r s log, allows log r → I s log →
      I (answer r s).state (log.record r (answer r s).answer b))
    {p : Program α} {Q : Log β → α → Prop} {s : σ} {log : Log β}
    (h : p.Follows allows Q log) (hi : I s log) :
    ∃ log', I (p.run answer s).state log' ∧ Q log' (p.run answer s).answer := by
  induction p generalizing s log with
  | done a => exact ⟨log, hi, h⟩
  | ask r next ih => exact ih _ (h.2 _ b) (keeps r s log h.1 hi)

end Program

namespace Lookup

variable {allows : Log β → Request → Prop} {Q : Log β → Except EngineError α → Prop} {log : Log β}

theorem follows_pure {a : α} :
    (pure a : Lookup α).run.Follows allows Q log ↔ Q log (.ok a) := Iff.rfl

theorem follows_throw {e : EngineError} :
    (throw e : Lookup α).run.Follows allows Q log ↔ Q log (.error e) := Iff.rfl

theorem follows_bind {l : Lookup γ} {f : γ → Lookup α} :
    (l >>= f).run.Follows allows Q log ↔
      l.run.Follows allows (fun log r =>
        match r with
        | .ok a => (f a).run.Follows allows Q log
        | .error e => Q log (.error e)) log := by
  have h : (l >>= f).run = l.run.andThen (ExceptT.bindCont f) := rfl
  rw [h, Program.follows_andThen]
  constructor <;> refine fun h => h.imp fun log r hr => ?_ <;> cases r <;> exact hr

theorem follows_map {f : γ → α} {l : Lookup γ} :
    (f <$> l).run.Follows allows Q log ↔
      l.run.Follows allows (fun log r => Q log (r.map f)) log := by
  have h : (f <$> l).run = l.run.andThen fun r => .done (r.map f) := by
    show l.run.andThen _ = _
    congr 1
    funext r
    cases r <;> rfl
  rw [h, Program.follows_andThen]
  rfl

theorem follows_lift {p : Program α} :
    (ExceptT.lift p : Lookup α).run.Follows allows Q log ↔
      p.Follows allows (fun log a => Q log (.ok a)) log := Program.follows_andThen

theorem follows_ofExcept {p : Program (Except EngineError α)} :
    (ofExcept p).run.Follows allows Q log ↔ p.Follows allows Q log := Iff.rfl

theorem follows_ask {r : Request} {f : r.Answer → Lookup α} :
    (request r >>= f).run.Follows allows Q log ↔
      allows log r ∧ ∀ x b, (f x).run.Follows allows Q (log.record r x b) := follows_bind

section Notes

variable [Nonempty β]

theorem follows_note {o : Observation} {Q : Log β → Except EngineError Unit → Prop} :
    (note o).run.Follows allows Q log ↔ allows log (.note o) ∧ Q log (.ok ()) := by
  have h : (note o).run.Follows allows Q log ↔
      allows log (.note o) ∧ ∀ (_ : Unit) (_ : β), Q log (.ok ()) := follows_lift
  simp [h]

theorem follows_notes (hn : ∀ log o, allows log (.note o)) {os : List Observation}
    {Q : Log β → Unit → Prop} :
    (Program.notes os).Follows allows Q log ↔ Q log () := by
  induction os with
  | nil => rfl
  | cons o os ih =>
    have h : (Program.notes (o :: os)).Follows allows Q log ↔
        allows log (.note o) ∧ ∀ (_ : Unit) (_ : β), (Program.notes os).Follows allows Q log :=
      Program.follows_andThen
    simp [h, hn, ih]

@[simp] theorem mapError_ok {ε ε' : Type} (f : ε → ε') (a : α) :
    (Except.ok a).mapError f = .ok a := rfl

@[simp] theorem mapError_error {ε ε' : Type} (f : ε → ε') (e : ε) :
    (Except.error e : Except ε α).mapError f = .error (f e) := rfl

/-- A call of the store is its answer, with its fault told as one of the engine. -/
theorem follows_callStore (hn : ∀ log o, allows log (.note o)) {operation : String}
    {call : Program (Except StoreError α)} :
    (callStore operation call).run.Follows allows Q log ↔
      call.Follows allows (fun log x => Q log (x.mapError .store)) log := by
  simp only [callStore, follows_bind, follows_note, follows_lift, hn, true_and]
  constructor <;> intro h <;> refine h.imp fun log x hx => ?_ <;> cases x with
  | ok a => exact hx
  | error e =>
    simpa only [follows_bind, follows_note, follows_throw, hn, true_and, mapError_error] using hx

theorem follows_inSpan (hn : ∀ log o, allows log (.note o)) {name : String} {l : Lookup α} :
    (inSpan name l).run.Follows allows Q log ↔ l.run.Follows allows Q log := by
  simp only [inSpan, follows_bind, follows_note, follows_lift, follows_ofExcept, hn, true_and]
  rfl

end Notes

end Lookup

end Herald
