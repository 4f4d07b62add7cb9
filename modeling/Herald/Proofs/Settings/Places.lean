import Herald.Proofs.Ordered
import Herald.Settings.Load

/-!
# Herald.Proofs.Settings.Places

What stands where in a value, and what laying another value over it does there.

* `Value.at?`: what stands at names within tables.
* `Value.within`: a value within tables that hold nothing else. `setPath_member`: putting a value at
  names is laying such tables over the old ones.
* `at?_overlay`, `at?_overlay_apart`: the places that this changes, and the others.
-/

namespace Herald.Settings.Value

/-- What stands at names within tables. -/
def at? (v : Option Value) : List String → Option Value
  | [] => v
  | n :: ns => at? ((members v).lookup n) ns

/-- A value within tables that hold nothing else. -/
def within (v : Value) : List String → Value
  | [] => v
  | n :: ns => .table [(n, within v ns)]

def isTable : Value → Bool
  | .table _ => true
  | _ => false

/-- Names in the form under which they are kept. -/
def Kept (ns : List String) : Prop := ∀ n ∈ ns, key n = n

variable {old : Option Value} {v : Value} {n : String} {p q ns : List String}

theorem overlay_of_not_table (h : v.isTable = false) : overlay old v = v := by
  cases v with
  | table ms => cases h
  | _ => rfl

theorem overlay_cons :
    overlay old (within v (n :: ns)) =
      .table (Ordered.insert (key n) (overlay ((members old).lookup (key n)) (within v ns))
        (members old)) := rfl

theorem setPath_member (old : Option Value) (v : Value) (ns : List String) :
    setPath old (ns.map .member) v = some (overlay old (within v ns)) := by
  induction ns generalizing old with
  | nil => rfl
  | cons n ns ih =>
    rw [List.map_cons, setPath, ih, overlay_cons]
    rfl

theorem overlay_empty (hv : v.isTable = false) (hk : Kept ns) (ho : members old = []) :
    overlay old (within v ns) = within v ns := by
  induction ns generalizing old with
  | nil => exact overlay_of_not_table hv
  | cons n ns ih =>
    have hns : Kept ns := fun m hm => hk m (List.mem_cons_of_mem _ hm)
    rw [overlay_cons, hk n List.mem_cons_self, ho, ih hns rfl]
    rfl

theorem at?_none (p : List String) : at? none p = none := by
  induction p with
  | nil => rfl
  | cons n p ih => exact ih

/-- At a place on the way, what is left of the tables is laid over what stood there. -/
theorem at?_overlay (hk : Kept p) :
    at? (some (overlay old (within v (p ++ q)))) p = some (overlay (at? old p) (within v q)) := by
  induction p generalizing old with
  | nil => rfl
  | cons n p ih =>
    rw [List.cons_append, overlay_cons, hk n List.mem_cons_self, at?, members,
      Ordered.lookup_insert, if_pos rfl]
    exact ih fun m hm => hk m (List.mem_cons_of_mem _ hm)

/-- A place that neither is on the way nor beyond stays as it was. -/
theorem at?_overlay_apart (hk : Kept p) (hp : ¬ p <+: q) (hq : ¬ q <+: p) :
    at? (some (overlay old (within v p))) q = at? old q := by
  induction p generalizing old q with
  | nil => exact (hp List.nil_prefix).elim
  | cons n p ih =>
    cases q with
    | nil => exact (hq List.nil_prefix).elim
    | cons m q =>
      rw [overlay_cons, hk n List.mem_cons_self, at?, members, Ordered.lookup_insert, at?]
      split
      · next hm =>
        subst hm
        exact ih (fun l hl => hk l (List.mem_cons_of_mem _ hl))
          (fun h => hp (List.prefix_cons_inj m |>.2 h)) fun h => hq (List.prefix_cons_inj m |>.2 h)
      · rfl

end Herald.Settings.Value
