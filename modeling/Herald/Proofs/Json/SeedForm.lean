import Herald.Proofs.Json.RoundTrip

/-!
# Herald.Proofs.Json.SeedForm

What a seed is written as.

* `Json.Gives`, `GivesOr`, `GivesOptional`: what the members of an object give for a field.
* `Template.Written`, `Scope.Written`, `Seed.Written`: the forms of a template, a scope and a seed.
* `Template.ofJson?_iff`, `Scope.ofJson?_iff`, `Seed.ofJson?_iff`: just these are read.
-/

namespace Herald

open Json

variable {ms : List (String × Json)} {depth : Nat}

namespace Json

/-- A text stands under a name, once. -/
def Gives (ms : List (String × Json)) (name s : String) : Prop := named name ms = [.str s]

/-- A text stands under a name, once, or nothing does and it is the default. -/
def GivesOr (ms : List (String × Json)) (name default s : String) : Prop :=
  named name ms = [.str s] ∨ named name ms = [] ∧ s = default

/-- A text stands under a name, once, or there is none: nothing stands there, or `null` does. -/
def GivesOptional (ms : List (String × Json)) (name : String) (o : Option String) : Prop :=
  (∃ s, named name ms = [.str s] ∧ o = some s) ∨
    (named name ms = [.null] ∨ named name ms = []) ∧ o = none

/-- In a record, the one value of a name stands for the name. -/
structure Record.Shows (r : Record) (ms : List (String × Json)) (name : String) : Prop where
  one : (named name ms).length ≤ 1
  get? : r.get? name = (named name ms).head?

namespace Record.Shows

variable {r : Record} {name : String}

theorem cases (h : r.Shows ms name) : named name ms = [] ∧ r.get? name = none ∨
    ∃ v, named name ms = [v] ∧ r.get? name = some v := by
  obtain ⟨hone, hget⟩ := h
  match named name ms, hone, hget with
  | [], _, hget => exact .inl ⟨rfl, hget⟩
  | [v], _, hget => exact .inr ⟨v, rfl, hget⟩

theorem required (h : r.Shows ms name) {s : String} :
    r.required name string? = some s ↔ Gives ms name s := by
  rcases h.cases with ⟨hn, hg⟩ | ⟨v, hn, hg⟩
  · simp [Record.required, Gives, hn, hg]
  · cases v <;> simp [Record.required, Gives, string?, hn, hg]

theorem withDefault (h : r.Shows ms name) {s default : String} :
    r.withDefault name default string? = some s ↔ GivesOr ms name default s := by
  rcases h.cases with ⟨hn, hg⟩ | ⟨v, hn, hg⟩
  · simp [Record.withDefault, GivesOr, hn, hg, eq_comm]
  · cases v <;> simp [Record.withDefault, GivesOr, string?, hn, hg]

theorem optional (h : r.Shows ms name) {o : Option String} :
    r.optional name string? = some o ↔ GivesOptional ms name o := by
  rcases h.cases with ⟨hn, hg⟩ | ⟨v, hn, hg⟩
  · simp [Record.optional, Record.withDefault, GivesOptional, hn, hg, eq_comm]
  · cases v <;>
      simp [Record.optional, Record.withDefault, GivesOptional, nullable?, string?, hn, hg, eq_comm]

end Record.Shows

theorem Gives.one {name s : String} (h : Gives ms name s) : (named name ms).length ≤ 1 := by
  rw [h]
  exact Nat.le_refl 1

theorem GivesOr.one {name default s : String} (h : GivesOr ms name default s) :
    (named name ms).length ≤ 1 := by
  rcases h with h | ⟨h, -⟩ <;> rw [h] <;> simp

theorem GivesOptional.one {name : String} {o : Option String} (h : GivesOptional ms name o) :
    (named name ms).length ≤ 1 := by
  rcases h with ⟨s, h, -⟩ | ⟨h | h, -⟩ <;> rw [h] <;> simp

/-- What is read by names from the members of an object. -/
theorem Record.bind_ofMembers?_iff {α : Type} {names : List String} {f : Record → Option α} {x : α}
    {P : Prop} (hf : ∀ r : Record, (∀ name ∈ names, r.Shows ms name) → (f r = some x ↔ P))
    (hone : P → ∀ name ∈ names, (named name ms).length ≤ 1) :
    (Record.ofMembers? names ms).bind f = some x ↔ P := by
  rw [Record.ofMembers?_eq]
  split
  · next h =>
    rw [Option.bind_some]
    exact hf _ fun name hn => ⟨h name hn, by rw [Record.get?_known, if_pos hn]⟩
  · next h => exact iff_of_false (fun he => by cases he) fun hp => h (hone hp)

end Json

/-! ## Templates -/

/-- The members that a template is written in, among others. -/
structure Template.Written (ms : List (String × Json)) (t : Template) : Prop where
  templateType : Gives ms "template_type" t.templateType
  displayName : GivesOr ms "display_name" "" t.displayName
  locale : Gives ms "locale" t.locale
  contentType : GivesOr ms "content_type" ContentType.plainText t.contentType
  subject : GivesOptional ms "subject" t.subject
  body : Gives ms "body" t.body
  footer : GivesOptional ms "footer" t.footer

theorem Template.Written.one {t : Template} (h : Written ms t) :
    ∀ name ∈ fieldNames, (named name ms).length ≤ 1 := by
  simp only [fieldNames, List.forall_mem_cons]
  exact ⟨h.templateType.one, h.displayName.one, h.locale.one, h.contentType.one, h.subject.one,
    h.body.one, h.footer.one, List.forall_mem_nil _⟩

theorem Template.ofRecord?_iff {r : Record} (h : ∀ name ∈ fieldNames, r.Shows ms name)
    {t : Template} : ofRecord? r = some t ↔ Written ms t := by
  simp only [fieldNames, List.forall_mem_cons] at h
  obtain ⟨htype, hname, hlocale, hcontent, hsubject, hbody, hfooter, -⟩ := h
  simp only [ofRecord?, Option.bind_eq_bind, Option.bind_eq_some_iff, Option.pure_def,
    Option.some.injEq, htype.required, hname.withDefault, hlocale.required, hcontent.withDefault,
    hsubject.optional, hbody.required, hfooter.optional]
  constructor
  · rintro ⟨_, htype, _, hname, _, hlocale, _, hcontent, _, hsubject, _, hbody, _, hfooter, rfl⟩
    exact ⟨htype, hname, hlocale, hcontent, hsubject, hbody, hfooter⟩
  · rintro ⟨htype, hname, hlocale, hcontent, hsubject, hbody, hfooter⟩
    exact ⟨_, htype, _, hname, _, hlocale, _, hcontent, _, hsubject, _, hbody, _, hfooter, rfl⟩

theorem Template.ofJson?_iff {t : Template} : ofJson? (.obj ms) = some t ↔ Written ms t :=
  Record.bind_ofMembers?_iff (fun _ h => ofRecord?_iff h) Written.one

/-! ## Scopes -/

/-- What a scope is written as: an object with the level and its fields among its members, or an
array of the level and its fields. -/
inductive Scope.Written : Json → Scope → Prop where
  | tenant {ms : List (String × Json)} {t : String} (hl : Gives ms "level" "tenant")
    (ht : Gives ms "tenant_id" t) : Written (.obj ms) (.tenant t)
  | application {ms : List (String × Json)} {t a : String} (hl : Gives ms "level" "application")
    (ht : Gives ms "tenant_id" t) (ha : Gives ms "application_id" a) :
    Written (.obj ms) (.application t a)
  | organization {ms : List (String × Json)} {o : String} {a : Option String}
    (hl : Gives ms "level" "organization") (ho : Gives ms "organization_id" o)
    (ha : GivesOptional ms "application_id" a) : Written (.obj ms) (.organization o a)
  | tenantItems (t : String) : Written (.arr [.str "tenant", .str t]) (.tenant t)
  | applicationItems (t a : String) :
    Written (.arr [.str "application", .str t, .str a]) (.application t a)
  | organizationItems (o : String) (a : Option String) {items : List Json}
    (ha : items = [ofText? a] ∨ items = [] ∧ a = none) :
    Written (.arr (.str "organization" :: .str o :: items)) (.organization o a)

theorem Scope.ofLevel?_members {level : String} {s : Scope} :
    ofLevel? level (fun names => Record.ofMembers? names ms) = some s ↔
      (level = "tenant" ∧ ∃ t, Gives ms "tenant_id" t ∧ .tenant t = s) ∨
      (level = "application" ∧ ∃ t a, Gives ms "tenant_id" t ∧ Gives ms "application_id" a ∧
        .application t a = s) ∨
      level = "organization" ∧ ∃ o a, Gives ms "organization_id" o ∧
        GivesOptional ms "application_id" a ∧ .organization o a = s := by
  unfold ofLevel?
  split
  case h_1 =>
    refine Iff.trans (Record.bind_ofMembers?_iff (P := ∃ t, Gives ms "tenant_id" t ∧ .tenant t = s)
      (fun r h => ?_) ?_) (by simp)
    · simp only [List.forall_mem_cons] at h
      simp [Option.bind_eq_some_iff, h.1.required]
    · rintro ⟨t, ht, -⟩
      simpa using ht.one
  case h_2 =>
    refine Iff.trans (Record.bind_ofMembers?_iff (P := ∃ t a, Gives ms "tenant_id" t ∧
      Gives ms "application_id" a ∧ .application t a = s) (fun r h => ?_) ?_) (by simp)
    · simp only [List.forall_mem_cons] at h
      simp [Option.bind_eq_some_iff, h.1.required, h.2.1.required]
    · rintro ⟨t, a, ht, ha, -⟩
      simpa using ⟨ht.one, ha.one⟩
  case h_3 =>
    refine Iff.trans (Record.bind_ofMembers?_iff (P := ∃ o a, Gives ms "organization_id" o ∧
      GivesOptional ms "application_id" a ∧ .organization o a = s) (fun r h => ?_) ?_) (by simp)
    · simp only [List.forall_mem_cons] at h
      simp [Option.bind_eq_some_iff, h.1.required, h.2.1.optional]
    · rintro ⟨o, a, ho, ha, -⟩
      simpa using ⟨ho.one, ha.one⟩
  case h_4 ht ha ho =>
    refine iff_of_false nofun ?_
    rintro (⟨rfl, -⟩ | ⟨rfl, -⟩ | ⟨rfl, -⟩)
    · exact ht rfl
    · exact ha rfl
    · exact ho rfl

theorem named_filter_ne {name other : String} (h : name ≠ other) (ms : List (String × Json)) :
    named name (ms.filter (·.1 ≠ other)) = named name ms := by
  simp only [named, List.filter_filter]
  refine congrArg (List.map Prod.snd) (List.filter_congr fun m _ => ?_)
  by_cases hm : m.1 = name
  · simp [hm, h]
  · simp [hm]

theorem Scope.ofJson?_obj_iff {s : Scope} :
    ofJson? depth (.obj ms) = some s ↔ (Json.obj ms).sound depth ∧ Written (.obj ms) s := by
  have htenant := named_filter_ne (show "tenant_id" ≠ "level" by decide) ms
  have happlication := named_filter_ne (show "application_id" ≠ "level" by decide) ms
  have horganization := named_filter_ne (show "organization_id" ≠ "level" by decide) ms
  rw [ofJson?_eq_some_iff]
  simp only [ofLevel?_members, Gives, GivesOptional, htenant, happlication, horganization]
  refine and_congr_right fun _ => ?_
  constructor
  · rintro ⟨level, hl, ⟨rfl, t, ht, rfl⟩ | ⟨rfl, t, a, ht, ha, rfl⟩ | ⟨rfl, o, a, ho, ha, rfl⟩⟩
    · exact .tenant hl ht
    · exact .application hl ht ha
    · exact .organization hl ho ha
  · intro h
    cases h with
    | tenant hl ht => exact ⟨_, hl, .inl ⟨rfl, _, ht, rfl⟩⟩
    | application hl ht ha => exact ⟨_, hl, .inr (.inl ⟨rfl, _, _, ht, ha, rfl⟩)⟩
    | organization hl ho ha => exact ⟨_, hl, .inr (.inr ⟨rfl, _, _, ho, ha, rfl⟩)⟩

theorem Scope.ofLevel?_items {level : String} {items : List Json} {s : Scope} :
    ofLevel? level (fun names => Record.read? names (.arr items)) = some s ↔
      Written (.arr (.str level :: items)) s := by
  constructor
  · intro h
    unfold ofLevel? at h
    split at h
    case h_1 =>
      match items with
      | [] => cases h
      | [v] =>
        cases v with
        | str t =>
          cases h
          exact .tenantItems t
        | _ => cases h
      | _ :: _ :: _ => simp [Record.read?] at h
    case h_2 =>
      match items with
      | [] => cases h
      | [v] => cases v <;> cases h
      | [v, w] =>
        cases v with
        | str t =>
          cases w with
          | str a =>
            cases h
            exact .applicationItems t a
          | _ => cases h
        | _ => cases h
      | _ :: _ :: _ :: _ => simp [Record.read?] at h
    case h_3 =>
      match items with
      | [] => cases h
      | [v] =>
        cases v with
        | str o =>
          cases h
          exact .organizationItems o none (.inr ⟨rfl, rfl⟩)
        | _ => cases h
      | [v, w] =>
        cases v with
        | str o =>
          cases w with
          | str a =>
            cases h
            exact .organizationItems o (some a) (.inl rfl)
          | null =>
            cases h
            exact .organizationItems o none (.inl rfl)
          | _ => cases h
        | _ => cases h
      | _ :: _ :: _ :: _ => simp [Record.read?] at h
    case h_4 => cases h
  · intro h
    cases h with
    | tenantItems t => rfl
    | applicationItems t a => rfl
    | organizationItems o a ha =>
      rcases ha with rfl | ⟨rfl, rfl⟩
      · cases a <;> rfl
      · rfl

theorem Scope.ofJson?_iff {v : Json} {s : Scope} :
    ofJson? depth v = some s ↔ v.sound depth ∧ Written v s := by
  -- a value of another form is no scope
  have hother (h : ofJson? depth v = none) (hw : ¬ Written v s) :
      ofJson? depth v = some s ↔ v.sound depth ∧ Written v s := by
    rw [h]
    exact iff_of_false (fun he => by cases he) fun h => hw h.2
  cases v with
  | obj ms => exact ofJson?_obj_iff
  | arr items =>
    cases items with
    | nil => exact hother (by unfold ofJson?; split <;> rfl) fun hw => by cases hw
    | cons v items =>
      cases v with
      | str level =>
        rw [← ofLevel?_items, ofJson?]
        cases (Json.arr (.str level :: items)).sound depth <;> simp
      | _ => exact hother (by unfold ofJson?; split <;> rfl) fun hw => by cases hw
  | _ => exact hother (by unfold ofJson?; split <;> rfl) fun hw => by cases hw

/-! ## Seeds -/

theorem Channel.ofJson?_iff {v : Json} {c : Channel} :
    ofJson? v = some c ↔ v = .str c.name ∨ v = .obj [(c.name, .null)] := by
  have hname {s : String} : ofName? s = some c ↔ s = c.name := by
    constructor
    · intro h
      have hs := List.find?_some h
      exact (of_decide_eq_true hs).symm
    · rintro rfl
      cases c <;> rfl
  unfold ofJson?
  split
  · next s => simp [hname]
  · next s => simp [hname]
  · next hs ho =>
    refine iff_of_false nofun ?_
    rintro (rfl | rfl)
    · exact hs _ rfl
    · exact ho _ rfl

/-- What a seed is written as: an object with its scope, its channel and the members of its template
among its members. -/
structure Seed.Written (depth : Nat) (ms : List (String × Json)) (x : Seed) : Prop where
  deep : 0 < depth
  sound : ∀ m ∈ ms, m.1 ∉ ownNames → m.2.sound (depth - 1)
  scope : ∃ v, named "scope" ms = [v] ∧ v.sound (depth - 1) ∧ Scope.Written v x.scope
  channel : named "channel" ms = [.str x.channel.name] ∨
    named "channel" ms = [.obj [(x.channel.name, .null)]]
  template : Template.Written ms x.template

theorem Seed.ofJson?_iff {v : Json} {x : Seed} :
    ofJson? depth v = some x ↔ ∃ ms, v = .obj ms ∧ Written depth ms x := by
  cases v with
  | obj ms =>
    simp only [ofJson?_eq_some_iff, Scope.ofJson?_iff, Channel.ofJson?_iff, Template.ofJson?_iff]
    constructor
    · rintro ⟨hd, hs, hscope, ⟨c, hc, hv⟩, ht⟩
      refine ⟨ms, rfl, hd, hs, hscope, ?_, ht⟩
      rcases hv with rfl | rfl
      · exact .inl hc
      · exact .inr hc
    · rintro ⟨_, hms, hd, hs, hscope, hchannel, ht⟩
      cases hms
      refine ⟨hd, hs, hscope, ?_, ht⟩
      rcases hchannel with hc | hc
      · exact ⟨_, hc, .inl rfl⟩
      · exact ⟨_, hc, .inr rfl⟩
  | _ => exact iff_of_false nofun fun ⟨_, h, _⟩ => nomatch h

end Herald
