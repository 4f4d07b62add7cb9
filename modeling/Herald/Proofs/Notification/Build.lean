import Mathlib.Data.List.TakeWhile
import Herald.Engine
import Herald.Proofs.Observation.Tally

/-!
# Herald.Proofs.Notification.Build

What a template comes to on a channel, from its texts to the counters.

* `Channel.parts`: what a channel carries, in the order in which it is rendered.
* `Template.renderings`: each carried part that is present, with what its rendering comes to.
* `renderParts_cases`: the first fault among them decides, or all of them are handed on.
* `build_exact`: the notification or the fault, and the one counter that moves.
-/

namespace Herald

inductive Part where
  | subject
  | body
  | footer
  deriving DecidableEq, Repr

/-- What a channel carries, in the order in which it is rendered. -/
def Channel.parts : Channel → List Part
  | .email => [.subject, .body, .footer]
  | .sms | .push => [.body]

def Template.part? (t : Template) : Part → Option String
  | .subject => t.subject
  | .body => some t.body
  | .footer => t.footer

def RenderedParts.part? (r : RenderedParts) : Part → Option String
  | .subject => r.subject
  | .body => some r.body
  | .footer => r.footer

def Notification.part? (n : Notification) : Part → Option String
  | .subject => n.subject
  | .body => some n.body
  | .footer => n.footer

/-- The carried parts that a template has, each with what its rendering comes to. -/
def Template.renderings (t : Template) (channel : Channel) (encoder : UrlEncoder)
    (values : Placeholders) : List (Part × Except EncodingError String) :=
  channel.parts.filterMap fun p => (t.part? p).map fun text => (p, encoder.render text values)

/-- The fault of a rendering, if it has one. -/
def Part.fault? : Part × Except EncodingError String → Option EncodingError
  | (_, .ok _) => none
  | (_, .error cause) => some cause

theorem Part.fault?_eq_none {x : Part × Except EncodingError String} :
    fault? x = none ↔ ∃ out, x.2 = .ok out := by
  obtain ⟨p, out | cause⟩ := x <;> simp [fault?]

theorem Part.fault?_eq_some {x : Part × Except EncodingError String} {cause : EncodingError} :
    fault? x = some cause ↔ x.2 = .error cause := by
  obtain ⟨p, out | cause⟩ := x <;> simp [fault?]

theorem Part.findSome?_fault?_eq_none {parts : List (Part × Except EncodingError String)} :
    parts.findSome? fault? = none ↔ ∀ x ∈ parts, ∃ out, x.2 = .ok out := by
  simp only [List.findSome?_eq_none_iff, fault?_eq_none]

theorem Part.findSome?_fault?_eq_some {parts : List (Part × Except EncodingError String)}
    {cause : EncodingError} : parts.findSome? fault? = some cause ↔
      ∃ before p after, parts = before ++ (p, .error cause) :: after ∧
        ∀ x ∈ before, ∃ out, x.2 = .ok out := by
  simp only [List.findSome?_eq_some_iff, fault?_eq_none, fault?_eq_some]
  constructor
  · rintro ⟨before, ⟨p, x⟩, after, hparts, rfl, hbefore⟩
    exact ⟨before, p, after, hparts, hbefore⟩
  · rintro ⟨before, p, after, hparts, hbefore⟩
    exact ⟨before, (p, .error cause), after, hparts, rfl, hbefore⟩

/-- The counter that a build moves, and its label. -/
def Channel.buildCounter (channel : Channel) :
    Except EngineError Notification → Counter × String
  | .ok _ => (.renders, channel.name)
  | .error (.encoding _) => (.renderFailures, "ENCODING_ERROR")
  | .error _ => (.renderFailures, "empty_body")

theorem Text.trimChars_eq_nil {cs : List Char} : trimChars cs = [] ↔ ∀ c ∈ cs, isBlank c := by
  rw [trimChars, List.reverse_eq_nil_iff, List.dropWhile_eq_nil_iff]
  constructor
  · intro h c hc
    rw [← List.takeWhile_append_dropWhile (p := isBlank) (l := cs)] at hc
    rcases List.mem_append.1 hc with hc | hc
    · exact List.mem_takeWhile_imp hc
    · exact h c (List.mem_reverse.2 hc)
  · intro h c hc
    exact h c ((List.dropWhile_sublist isBlank).subset (List.mem_reverse.1 hc))

/-- The default of a channel is that of a content type that says nothing. -/
theorem Template.contentTypeFor_eq (t : Template) (channel : Channel) :
    t.contentTypeFor channel = ContentType.normalize t.contentType := by
  have hdefault : channel.rules.contentType = ContentType.plainText := by cases channel <;> rfl
  rw [Template.contentTypeFor, hdefault]
  split
  case isTrue hblank =>
    have hnil := Text.trimChars_eq_nil.2 (List.all_eq_true.1 hblank)
    simp [ContentType.normalize, hnil]
  case isFalse => rfl

section

variable (t : Template) (channel : Channel) (encoder : UrlEncoder) (values : Placeholders)

def Part.rendering (p : Part) (text : Option String) : List (Part × Except EncodingError String) :=
  (text.map fun s => (p, encoder.render s values)).toList

theorem renderings_eq : t.renderings channel encoder values =
    Part.subject.rendering encoder values (if channel.rules.subject then t.subject else none) ++
      (.body, encoder.render t.body values) ::
        Part.footer.rendering encoder values (if channel.rules.footer then t.footer else none) := by
  cases channel with
  | email =>
    cases hs : t.subject <;> cases hf : t.footer <;>
      simp [Template.renderings, Channel.parts, Template.part?, Channel.rules, Part.rendering, hs,
        hf]
  | sms => rfl
  | push => rfl

theorem rendering_cases (p : Part) (text : Option String) :
    (∃ cause, encoder.render? text values = .error cause ∧
      (p.rendering encoder values text).findSome? Part.fault? = some cause) ∨
    ∃ out, encoder.render? text values = .ok out ∧
      (p.rendering encoder values text).findSome? Part.fault? = none ∧
      ∀ q s, (q, .ok s) ∈ p.rendering encoder values text ↔ q = p ∧ out = some s := by
  cases text with
  | none => exact .inr ⟨none, rfl, rfl, by simp [Part.rendering]⟩
  | some text =>
    cases hr : encoder.render text values with
    | error cause =>
      exact .inl ⟨cause, by simp [UrlEncoder.render?, hr, Except.map],
        by simp [Part.rendering, Part.fault?, hr]⟩
    | ok out =>
      refine .inr ⟨some out, by simp [UrlEncoder.render?, hr, Except.map],
        by simp [Part.rendering, Part.fault?, hr], fun q s => ?_⟩
      simp [Part.rendering, hr, eq_comm]

/-- The first fault decides, in the order of the parts. Without one, each part is handed on as it
was rendered. -/
theorem renderParts_cases :
    (∃ cause, (t.renderings channel encoder values).findSome? Part.fault? = some cause ∧
      t.renderParts channel encoder values = .error cause) ∨
    (t.renderings channel encoder values).findSome? Part.fault? = none ∧
      ∃ r, t.renderParts channel encoder values = .ok r ∧
        encoder.render t.body values = .ok r.body ∧
        ∀ p s, (p, .ok s) ∈ t.renderings channel encoder values ↔ r.part? p = some s := by
  rw [renderings_eq]
  simp only [List.findSome?_append, List.findSome?_cons, List.mem_append, List.mem_cons]
  rcases rendering_cases encoder values .subject (if channel.rules.subject then t.subject else none)
    with ⟨cause, hr, hf⟩ | ⟨subject, hrs, hfs, hs⟩
  · exact .inl ⟨cause, by simp [hf], by simp [Template.renderParts, hr, bind, Except.bind]⟩
  cases hb : encoder.render t.body values with
  | error cause =>
    exact .inl ⟨cause, by simp [hfs, Part.fault?],
      by simp [Template.renderParts, hrs, hb, bind, Except.bind]⟩
  | ok body =>
    rcases rendering_cases encoder values .footer (if channel.rules.footer then t.footer else none)
      with ⟨cause, hr, hf⟩ | ⟨footer, hrf, hff, hf⟩
    · exact .inl ⟨cause, by simp [hfs, Part.fault?, hf],
        by simp [Template.renderParts, hrs, hb, hr, bind, Except.bind]⟩
    · refine .inr ⟨by simp [hfs, hff, Part.fault?], ⟨subject, body, footer⟩,
        by simp [Template.renderParts, hrs, hb, hrf, bind, Except.bind, pure, Except.pure], rfl,
        fun p s => ?_⟩
      rw [hs, hf]
      cases p <;> simp [RenderedParts.part?, eq_comm]

end

section

variable (e : Engine) (w : World) (channel : Channel) (t : Template) (values : Placeholders)
  (sendTo : String) (sendFrom : Option String) (stamp : Stamp)

theorem perform_render : World.perform (e.render channel t values sendTo sendFrom stamp) w =
    ⟨(t.render channel e.encoder values sendTo sendFrom stamp).mapError RenderFailure.toError, w,
      Engine.renderNotes t channel (t.render channel e.encoder values sendTo sendFrom stamp)⟩ := by
  unfold Engine.render
  cases t.render channel e.encoder values sendTo sendFrom stamp with
  | error f => rfl
  | ok n => rfl

/-- The fault of a body that says nothing. -/
def Template.bodyFault (t : Template) (channel : Channel) : EngineError :=
  .invalidTemplate ("Template '" ++ t.templateType ++ "' (" ++ t.locale ++
    ") rendered an empty body for " ++ channel.name)

def Template.notification (t : Template) (channel : Channel) (sendTo : String)
    (sendFrom : Option String) (stamp : Stamp) (r : RenderedParts) : Notification :=
  ⟨stamp, channel, t.templateType, t.locale, ContentType.normalize t.contentType, sendTo, sendFrom,
    r.subject, r.body, r.footer⟩

/-- The three ways in which a build ends. -/
theorem build_cases :
    (∃ cause, (t.renderings channel e.encoder values).findSome? Part.fault? = some cause ∧
      World.perform (e.render channel t values sendTo sendFrom stamp) w =
        ⟨.error (.encoding cause.message), w, [.counted .renderFailures "ENCODING_ERROR" 1]⟩) ∨
    (t.renderings channel e.encoder values).findSome? Part.fault? = none ∧
      ∃ r : RenderedParts, e.encoder.render t.body values = .ok r.body ∧
        (∀ p s, (p, .ok s) ∈ t.renderings channel e.encoder values ↔ r.part? p = some s) ∧
        ((∀ c ∈ r.body.toList, Text.isBlank c) ∧
          World.perform (e.render channel t values sendTo sendFrom stamp) w =
            ⟨.error (t.bodyFault channel), w, [.counted .renderFailures "empty_body" 1]⟩ ∨
        (∃ c ∈ r.body.toList, ¬ Text.isBlank c) ∧
          World.perform (e.render channel t values sendTo sendFrom stamp) w =
            ⟨.ok (t.notification channel sendTo sendFrom stamp r), w,
              [.counted .renders channel.name 1,
                .log .debug "Notification rendered" [("channel", channel.name),
                  ("template_type", t.templateType), ("locale", t.locale)]]⟩) := by
  rw [perform_render, Template.render]
  rcases renderParts_cases t channel e.encoder values with
    ⟨cause, hf, hr⟩ | ⟨hf, r, hr, hbody, hparts⟩
  · rw [hr]
    exact .inl ⟨cause, hf, rfl⟩
  · rw [hr]
    refine .inr ⟨hf, r, hbody, hparts, ?_⟩
    by_cases hblank : Text.isBlankText r.body
    · simp only [if_pos hblank]
      exact .inl ⟨List.all_eq_true.1 hblank, rfl⟩
    · simp only [if_neg hblank, Template.contentTypeFor_eq]
      exact .inr ⟨by simpa [Text.isBlankText] using hblank, rfl⟩

end

/-- A build ends in the notification of all carried parts, each as it was rendered, or in the fault
of the first part that has one, or, without such a fault, in that of a blank body. The caches are
left alone, and one counter moves by one. -/
theorem build_exact (e : Engine) (w : World) (channel : Channel) (t : Template)
    (values : Placeholders) (sendTo : String) (sendFrom : Option String) (stamp : Stamp) :
    let r := World.perform (e.render channel t values sendTo sendFrom stamp) w
    let parts := t.renderings channel e.encoder values
    r.state = w ∧
    ((∃ n, r.answer = .ok n) ↔ (∀ x ∈ parts, ∃ out, x.2 = .ok out) ∧
      ∃ out, e.encoder.render t.body values = .ok out ∧ ∃ c ∈ out.toList, ¬ Text.isBlank c) ∧
    (∀ n, r.answer = .ok n → (∀ p out, n.part? p = some out ↔ (p, .ok out) ∈ parts) ∧
      n.stamp = stamp ∧ n.channel = channel ∧ n.templateType = t.templateType ∧
      n.locale = t.locale ∧ n.sendTo = sendTo ∧ n.sendFrom = sendFrom ∧
      n.contentType = ContentType.normalize t.contentType) ∧
    (∀ fault, r.answer = .error fault ↔
      (∃ before p cause after, parts = before ++ (p, .error cause) :: after ∧
        (∀ x ∈ before, ∃ out, x.2 = .ok out) ∧ fault = .encoding cause.message) ∨
      (∀ x ∈ parts, ∃ out, x.2 = .ok out) ∧
        (∃ out, e.encoder.render t.body values = .ok out ∧ ∀ c ∈ out.toList, Text.isBlank c) ∧
        fault = t.bodyFault channel) ∧
    (channel ≠ .email → ∀ subject footer,
      (World.perform (e.render channel { t with subject, footer } values sendTo sendFrom stamp) w)
        = r) ∧
    ∀ c label, Observation.tally c label r.notes =
      if (c, label) = channel.buildCounter r.answer then 1 else 0 := by
  intro r parts
  have hother (hc : channel ≠ .email) (subject footer : Option String) :
      World.perform (e.render channel { t with subject, footer } values sendTo sendFrom stamp) w =
        r := by
    cases channel with
    | email => exact absurd rfl hc
    | sms => rfl
    | push => rfl
  rcases build_cases e w channel t values sendTo sendFrom stamp with
    ⟨cause, hf, hr⟩ | ⟨hf, p, hbody, hparts, hends⟩
  · -- a part has a fault
    have hnot : ¬ ∀ x ∈ parts, ∃ out, x.2 = .ok out := by
      intro h
      have hnone := Part.findSome?_fault?_eq_none.2 h
      cases hf.symm.trans hnone
    obtain ⟨before, q, after, hsplit, hbefore⟩ := Part.findSome?_fault?_eq_some.1 hf
    refine ⟨congrArg Reply.state hr, ⟨?_, fun h => absurd h.1 hnot⟩, ?_, fun fault => ?_, hother,
      fun c label => ?_⟩ <;> simp only [r, hr]
    · exact nofun
    · exact nofun
    · constructor
      · rintro ⟨⟩
        exact .inl ⟨before, q, cause, after, hsplit, hbefore, rfl⟩
      · rintro (⟨before', q', cause', after', hsplit', hbefore', rfl⟩ | ⟨hall, -⟩)
        · have hf' := Part.findSome?_fault?_eq_some.2 ⟨before', q', after', hsplit', hbefore'⟩
          cases hf.symm.trans hf'
          rfl
        · exact absurd hall hnot
    · exact Observation.tally_single ..
  have hall := Part.findSome?_fault?_eq_none.1 hf
  have hno (before after : List (Part × Except EncodingError String)) (q : Part)
      (cause : EncodingError) : parts ≠ before ++ (q, .error cause) :: after := by
    intro h
    obtain ⟨out, ho⟩ := hall (q, .error cause) (by simp [parts, h])
    cases ho
  rcases hends with ⟨hblank, hr⟩ | ⟨⟨c₀, hc₀, hn₀⟩, hr⟩
  · -- all parts are rendered, the body to nothing
    refine ⟨congrArg Reply.state hr, ⟨?_, ?_⟩, ?_, fun fault => ?_, hother, fun c label => ?_⟩ <;>
      simp only [r, hr]
    · exact nofun
    · rintro ⟨-, out, ho, c, hc, hn⟩
      cases hbody.symm.trans ho
      exact absurd (hblank c hc) hn
    · exact nofun
    · constructor
      · rintro ⟨⟩
        exact .inr ⟨hall, ⟨p.body, hbody, hblank⟩, rfl⟩
      · rintro (⟨before, q, cause, after, hsplit, -⟩ | ⟨-, -, rfl⟩)
        · exact absurd hsplit (hno before after q cause)
        · rfl
    · exact Observation.tally_single ..
  · -- all parts are rendered, and the body says something
    refine ⟨congrArg Reply.state hr, ⟨fun _ => ⟨hall, p.body, hbody, c₀, hc₀, hn₀⟩, ?_⟩, ?_,
      fun fault => ⟨?_, ?_⟩, hother, fun c label => ?_⟩ <;> simp only [r, hr]
    · exact fun _ => ⟨_, rfl⟩
    · rintro _ ⟨⟩
      refine ⟨fun q out => ?_, rfl, rfl, rfl, rfl, rfl, rfl, rfl⟩
      rw [hparts]
      cases q <;> rfl
    · exact nofun
    · rintro (⟨before, q, cause, after, hsplit, -⟩ | ⟨-, ⟨out, ho, hblank⟩, -⟩)
      · exact absurd hsplit (hno before after q cause)
      · cases hbody.symm.trans ho
        exact absurd (hblank c₀ hc₀) hn₀
    · exact Observation.tally_single ..

end Herald
