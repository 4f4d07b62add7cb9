import Herald.Cache.Invalidation
import Herald.Directory
import Herald.Resolution.Program
import Herald.Store.Basic

/-!
# Herald.Resolution.World

The surroundings of a lookup: a store, a directory, the caches, and the time.

* `World.answer`: how they answer a request.
* `World.perform`: running a lookup in them.
-/

namespace Herald

structure World where
  store : Store := Store.empty
  directory : Directory := {}
  caches : Caches
  /-- The time in nanoseconds. -/
  now : Nat := 0

namespace World

def ofCaches {α : Type} (w : World) (r : Reply Caches α) : Reply World α :=
  ⟨r.answer, { w with caches := r.state }, r.notes⟩

/-- How the surroundings answer a request. Only the caches change by it. -/
def answer : (r : Request) → World → Reply World r.Answer
  | .generation tier, w => ⟨(w.caches.tier tier).generation, w, []⟩
  | .lookup tier key, w => w.ofCaches (w.caches.onTier tier (·.get w.now key))
  | .fill tier key value generation, w =>
    w.ofCaches (w.caches.onTier tier (·.fill w.now key value generation))
  | .getTemplate scope path locale, w => ⟨.ok (w.store.getTemplate scope path locale), w, []⟩
  | .listTemplates scope path, w => ⟨.ok (w.store.listTemplates scope path), w, []⟩
  | .listTemplateTypes path tenant, w => ⟨.ok (w.store.listTemplateTypes path tenant), w, []⟩
  | .tenantId domain, w => ⟨.ok (w.directory.tenantId domain), w, []⟩
  | .organizationOf tenant, w => ⟨.ok (w.directory.organizationOf tenant), w, []⟩
  | .note o, w => ⟨(), w, [o]⟩

def perform {α : Type} (l : Lookup α) (w : World) : Reply World (Except EngineError α) :=
  l.run.run answer w

end World

end Herald
