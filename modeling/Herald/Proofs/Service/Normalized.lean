import Herald.Proofs.Notification.Build
import Herald.Proofs.Service.Validity
import Herald.Proofs.Text.ContentType

/-!
# Herald.Proofs.Service.Normalized

Content types that are normalized twice, by the lookup and by the rendering.

* `Template.render_normalized`: the second time changes nothing.
* `Engine.renderAll`: renderings of one template, one after the other.
* `normalized_once`: what a lookup hands out, or keeps, is rendered as the row that it was found in,
  as often as it may be.
-/

namespace Herald

open Resolution

theorem Template.contentTypeFor_normalized (t : Template) (channel : Channel) :
    t.normalized.contentTypeFor channel = t.contentTypeFor channel := by
  rw [contentTypeFor_eq, contentTypeFor_eq]
  exact ContentType.normalize_idem t.contentType

theorem Template.render_normalized (t : Template) (channel : Channel) (encoder : UrlEncoder)
    (values : Placeholders) (sendTo : String) (sendFrom : Option String) (stamp : Stamp) :
    t.normalized.render channel encoder values sendTo sendFrom stamp =
      t.render channel encoder values sendTo sendFrom stamp := by
  have hparts : t.normalized.renderParts channel encoder values =
      t.renderParts channel encoder values := rfl
  simp only [render, hparts, contentTypeFor_normalized]
  rfl

/-- What is rendered of a template, and for whom. -/
structure RenderCall where
  channel : Channel
  values : Placeholders
  sendTo : String
  sendFrom : Option String
  stamp : Stamp

namespace Engine

variable (e : Engine) (t : Template)

def renderOne (r : RenderCall) : Lookup Notification :=
  e.render r.channel t r.values r.sendTo r.sendFrom r.stamp

/-- The answers of renderings that are made one after the other, and what they leave. -/
def renderAll : List RenderCall → World → List (Except EngineError Notification) × World
  | [], w => ([], w)
  | r :: rs, w =>
    let reply := World.perform (e.renderOne t r) w
    let rest := renderAll rs reply.state
    (reply.answer :: rest.1, rest.2)

theorem renderOne_normalized (r : RenderCall) (w : World) :
    World.perform (e.renderOne t.normalized r) w = World.perform (e.renderOne t r) w := by
  rw [renderOne, renderOne, perform_render, perform_render, Template.render_normalized]
  rfl

theorem renderOne_state (r : RenderCall) (w : World) :
    (World.perform (e.renderOne t r) w).state = w := by
  rw [renderOne, perform_render]

theorem renderOne_contentType {r : RenderCall} {w : World} {n : Notification}
    (h : (World.perform (e.renderOne t r) w).answer = .ok n) :
    n.contentType = ContentType.normalize t.contentType :=
  ((build_exact e w r.channel t r.values r.sendTo r.sendFrom r.stamp).2.2.1 n h).2.2.2.2.2.2.2

theorem renderAll_normalized (rs : List RenderCall) (w : World) :
    e.renderAll t.normalized rs w = e.renderAll t rs w := by
  induction rs generalizing w with
  | nil => rfl
  | cons r rs ih => simp only [renderAll, renderOne_normalized, ih]

/-- However many renderings are made: the world is as it was, and every notification has the
content type of the template, normalized once. -/
theorem renderAll_cases (rs : List RenderCall) (w : World) :
    (e.renderAll t rs w).2 = w ∧
      ∀ n, .ok n ∈ (e.renderAll t rs w).1 → n.contentType = ContentType.normalize t.contentType := by
  induction rs generalizing w with
  | nil => exact ⟨rfl, fun n hn => absurd hn List.not_mem_nil⟩
  | cons r rs ih =>
    simp only [renderAll, renderOne_state]
    refine ⟨(ih w).1, fun n hn => ?_⟩
    rcases List.mem_cons.1 hn with hn | hn
    · exact e.renderOne_contentType t hn.symm
    · exact (ih w).2 n hn

end Engine

/-- A template is the normalized copy of a row that is rendered in the same way, and its content
type stays as it is. -/
structure Template.CopyOf (v t : Template) : Prop where
  normalized : v = t.normalized
  settled : ContentType.normalize v.contentType = v.contentType
  renderings : ∀ (e : Engine) (rs : List RenderCall) (w : World),
    e.renderAll v rs w = e.renderAll t rs w ∧ (e.renderAll v rs w).2 = w ∧
      ∀ n, .ok n ∈ (e.renderAll v rs w).1 → n.contentType = v.contentType

theorem Template.copyOf_normalized (t : Template) : t.normalized.CopyOf t where
  normalized := rfl
  settled := ContentType.normalize_idem t.contentType
  renderings e rs w := by
    obtain ⟨hworld, htypes⟩ := e.renderAll_cases t.normalized rs w
    refine ⟨e.renderAll_normalized t rs w, hworld, fun n hn => ?_⟩
    rw [htypes n hn]
    exact ContentType.normalize_idem t.contentType

theorem copyOf_of_backs {S : Sources} {locales : Locales} {key : TemplateKey} {v : Template}
    (h : S.Backs locales .resolved key v) : ∃ t, S.Offers locales key t ∧ v.CopyOf t := by
  obtain ⟨t, ho, ha⟩ := h
  obtain ⟨-, rfl⟩ := accepted_eq_ok.1 ha
  exact ⟨t, ho, t.copyOf_normalized⟩

/-- To normalize a content type twice is to do so once, and what comes out is not blank and has no
blanks around it. So a template and its normalized copy are rendered in the same way. In every run,
what lookups hand out or keep is the copy of a row that was found for its key, and its renderings,
however many there are, have its content type and leave everything as it is. -/
theorem normalized_once :
    (∀ s, let r := ContentType.normalize s
      ContentType.normalize r = r ∧ Text.trim r = r ∧ ∃ c ∈ r.toList, ¬ Text.isBlank c) ∧
    (∀ (e : Engine) (t : Template) (r : RenderCall) (w : World),
      World.perform (e.renderOne t.normalized r) w = World.perform (e.renderOne t r) w ∧
      ∀ n, (World.perform (e.renderOne t r) w).answer = .ok n →
        n.contentType = t.normalized.contentType) ∧
    ∀ {η μ : Type} (out : Outside η μ) (locales : Locales) (sh : Sharding) (outside : η)
      (enabled : Bool) (lifetime : Option Nat) (moves : List (Service.Move μ)),
      let first := Service.start outside enabled lifetime
      let s := first.run out locales sh moves
      let found := first.sources out locales sh moves
      (∀ k e, (s.caches.tier .resolved).entries.get? k = some e →
        ∃ t, found.Offers locales k t ∧ e.value.CopyOf t) ∧
      ∀ tenant application channel templateType raw v,
        s.Answers (.call (.resolve tenant application channel templateType raw)) v →
          ∃ t, found.Offers locales (keyFor locales tenant application channel templateType raw) t ∧
            v.CopyOf t := by
  refine ⟨fun s => ?_, fun e t r w => ⟨e.renderOne_normalized t r w, fun n => ?_⟩, ?_⟩
  · have h := ContentType.settled_normalize s
    refine ⟨h.normalize_eq, ?_, ?_⟩
    · rw [Text.trim, h.trims, String.ofList_toList]
    · have hn : ¬ ∀ c ∈ (ContentType.normalize s).toList, Text.isBlank c = true := by
        rw [← Text.trimChars_eq_nil, h.trims]
        exact h.ne_nil
      simpa using hn
  · exact e.renderOne_contentType t
  · intro η μ out locales sh outside enabled lifetime moves first s found
    have ht := Service.told_run out locales sh outside enabled lifetime moves
    exact ⟨fun k e he => copyOf_of_backs (ht.caches .resolved k e he),
      fun tenant application channel templateType raw v hv => copyOf_of_backs (ht.borne hv)⟩

end Herald
