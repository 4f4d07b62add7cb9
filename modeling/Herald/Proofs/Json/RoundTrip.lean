import Herald.Notification.Basic
import Herald.Proofs.Json.Members
import Herald.Store.Seed

/-!
# Herald.Proofs.Json.RoundTrip

The JSON forms are read back as what was written, whatever the order of the members and whatever
foreign members stand among them.

* `Template.ofJson?_extends`, `Scope.ofJson?_extends`, `Notification.ofJson?_extends`: order and
  foreign members do not matter.
* `Seed.ofJson?_eq_some_iff`: which member of a seed goes into which part of it.
* `json_round_trip`: all forms together.
-/

namespace Herald

open Json

variable {ms ms' : List (String × Json)} {depth : Nat}

def Json.names : Json → List String
  | .obj ms => ms.map Prod.fst
  | _ => []

theorem Channel.ofJson?_toJson (c : Channel) : ofJson? c.toJson = some c := by
  cases c <;> rfl

/-! ## Templates -/

theorem Template.ofJson?_toJson (t : Template) : ofJson? t.toJson = some t := by
  obtain ⟨templateType, displayName, locale, contentType, subject, body, footer⟩ := t
  cases subject <;> cases footer <;> rfl

theorem Template.ofRecord?_congr {r r' : Record} (h : r.Alike r') : ofRecord? r = ofRecord? r' := by
  simp only [ofRecord?, h.required, h.withDefault, h.optional]

theorem Template.ofJson?_extends (h : Extends (fun m => m.1 ∉ fieldNames) ms ms') :
    ofJson? (.obj ms') = ofJson? (.obj ms) :=
  Record.bind_ofMembers? h (fun _ => id) fun _ _ => ofRecord?_congr

/-! ## Scopes -/

/-- The fields of a scope of some level, but for the level. -/
def Scope.fieldNames : String → List String
  | "tenant" => ["tenant_id"]
  | "application" => ["tenant_id", "application_id"]
  | "organization" => ["organization_id", "application_id"]
  | _ => []

/-- What is foreign to a scope with some members: what is no field of its level. -/
def Scope.Foreign (depth : Nat) (ms : List (String × Json)) (m : String × Json) : Prop :=
  m.1 ≠ "level" ∧ (∀ level, named "level" ms = [.str level] → m.1 ∉ fieldNames level) ∧
    m.2.sound (depth - 1)

theorem Scope.ofJson?_toJson (s : Scope) (h : 0 < depth) : ofJson? depth s.toJson = some s := by
  obtain ⟨depth, rfl⟩ := Nat.exists_eq_succ_of_ne_zero (Nat.ne_of_gt h)
  cases s with
  | tenant t => rfl
  | application t a => rfl
  | organization o a => cases a <;> rfl

theorem sound_obj (depth : Nat) (ms : List (String × Json)) :
    (Json.obj ms).sound depth ↔ 0 < depth ∧ ∀ m ∈ ms, m.2.sound (depth - 1) := by
  cases depth with
  | zero => simp [Json.sound]
  | succ depth => simp [Json.sound, soundMembers_iff]

theorem Scope.ofJson?_eq_some_iff {s : Scope} : ofJson? depth (.obj ms) = some s ↔
    (Json.obj ms).sound depth ∧ ∃ level, named "level" ms = [.str level] ∧
      ofLevel? level (fun names => Record.ofMembers? names (ms.filter (·.1 ≠ "level"))) = some s := by
  simp only [ofJson?, named]
  cases (Json.obj ms).sound depth with
  | false => simp
  | true =>
    generalize ms.filter (·.1 = "level") = levels
    rcases levels with _ | ⟨⟨n, v⟩, _ | ⟨m, levels⟩⟩
    · simp
    · cases v <;> simp
    · simp

theorem Scope.ofLevel?_congr {level : String} {fields fields' : List String → Option Record}
    (h : ∀ f : Record → Option Scope, (∀ r r' : Record, r.Alike r' → f r = f r') →
      (fields (fieldNames level)).bind f = (fields' (fieldNames level)).bind f) :
    ofLevel? level fields = ofLevel? level fields' := by
  unfold ofLevel?
  unfold fieldNames at h
  split
  case h_1 => exact h _ fun r r' ha => by simp only [ha.required]
  case h_2 => exact h _ fun r r' ha => by simp only [ha.required]
  case h_3 => exact h _ fun r r' ha => by simp only [ha.required, ha.optional]
  case h_4 => rfl

theorem Scope.ofJson?_extends (h : Extends (Foreign depth ms) ms ms') :
    ofJson? depth (.obj ms') = ofJson? depth (.obj ms) := by
  refine Option.ext fun s => ?_
  have hsound : (Json.obj ms').sound depth ↔ (Json.obj ms).sound depth := by
    rw [sound_obj, sound_obj, h.forall_iff fun m hm => hm.2.2]
  rw [ofJson?_eq_some_iff, ofJson?_eq_some_iff, hsound]
  refine and_congr_right fun _ => exists_congr fun level => ?_
  rw [h.named_eq_singleton fun m hm => hm.1]
  refine and_congr_right fun hlevel => Eq.congr_left (ofLevel?_congr fun f hf => ?_)
  exact Record.bind_ofMembers? (h.filter _) (fun m hm => hm.2.1 level hlevel) hf

/-! ## Seeds -/

/-- The fields that a seed has besides those of its template. -/
def Seed.ownNames : List String := ["scope", "channel"]

/-- What is foreign to a seed: what is no field of it and none of a template. -/
def Seed.Foreign (depth : Nat) (m : String × Json) : Prop :=
  m.1 ∉ ownNames ++ Template.fieldNames ∧ m.2.sound (depth - 1)

/-- The fields of a template are found among all members of a seed. -/
theorem Template.ofMembers?_rest (ms : List (String × Json)) :
    Record.ofMembers? fieldNames (ms.filter fun m => !(["scope", "channel"].contains m.1)) =
      Record.ofMembers? fieldNames ms := by
  have hdisjoint : ∀ name ∈ fieldNames, ["scope", "channel"].contains name = false := by decide
  simp only [Record.ofMembers?, List.filter_filter]
  have hsame : (ms.filter fun m => fieldNames.contains m.1 && !(["scope", "channel"].contains m.1)) =
      ms.filter fun m => fieldNames.contains m.1 := by
    refine List.filter_congr fun m _ => ?_
    by_cases hm : m.1 ∈ fieldNames
    · simp only [hdisjoint m.1 hm, Bool.not_false, Bool.and_true]
    · have hm : fieldNames.contains m.1 = false := by simpa using hm
      simp only [hm, Bool.false_and]
  rw [hsame]

theorem Seed.ofJson?_obj (depth : Nat) (ms : List (String × Json)) :
    ofJson? depth (.obj ms) = (Record.ofMembers? ownNames ms).bind fun own =>
      if depth = 0 || !soundMembers (depth - 1) (ms.filter fun m => !(ownNames.contains m.1)) then
        none
      else (own.required "scope" (Scope.ofJson? (depth - 1))).bind fun scope =>
        (own.required "channel" Channel.ofJson?).bind fun channel =>
          (Template.ofJson? (.obj ms)).bind fun template => some ⟨scope, channel, template⟩ := by
  have hrest : Template.ofJson? (.obj ms) = (Record.ofMembers? Template.fieldNames
      (ms.filter fun m => !(["scope", "channel"].contains m.1))).bind Template.ofRecord? := by
    rw [Template.ofMembers?_rest]
    rfl
  rw [hrest]
  rfl

/-- The scope of a seed comes from its member `scope`, the channel from `channel`, and the template
from the members that a template has. -/
theorem Seed.ofJson?_eq_some_iff {s : Seed} : ofJson? depth (.obj ms) = some s ↔
    0 < depth ∧ (∀ m ∈ ms, m.1 ∉ ownNames → m.2.sound (depth - 1)) ∧
    (∃ v, named "scope" ms = [v] ∧ Scope.ofJson? (depth - 1) v = some s.scope) ∧
    (∃ v, named "channel" ms = [v] ∧ Channel.ofJson? v = some s.channel) ∧
    Template.ofJson? (.obj ms) = some s.template := by
  rw [ofJson?_obj, Record.ofMembers?_eq]
  by_cases hone : ∀ name ∈ ownNames, (named name ms).length ≤ 1
  · have hget (name : String) (hn : name ∈ ownNames) (v : Json) :
        Record.get? ⟨false, ms.filter fun m => ownNames.contains m.1⟩ name = some v ↔
          named name ms = [v] := by
      rw [Record.get?_known, if_pos hn]
      have hname := hone name hn
      rcases hnamed : named name ms with _ | ⟨u, _ | ⟨w, rest⟩⟩
      · simp
      · simp
      · rw [hnamed] at hname
        simp at hname
    have hscope := hget "scope" (by decide)
    have hchannel := hget "channel" (by decide)
    have hrest : soundMembers (depth - 1) (ms.filter fun m => !(ownNames.contains m.1)) = true ↔
        ∀ m ∈ ms, m.1 ∉ ownNames → m.2.sound (depth - 1) := by
      simp [soundMembers_iff]
    obtain ⟨scope, channel, template⟩ := s
    rw [if_pos hone, Option.bind_some, ← hrest, Nat.pos_iff_ne_zero]
    generalize (⟨false, ms.filter fun m => ownNames.contains m.1⟩ : Record) = own at hscope hchannel ⊢
    by_cases hd : depth = 0
    · simp [hd]
    · cases soundMembers (depth - 1) (ms.filter fun m => !(ownNames.contains m.1)) with
      | false => simp
      | true => simp [hd, Option.bind_eq_some_iff, Record.required, hscope, hchannel]
  · rw [if_neg hone]
    constructor
    · intro h
      rw [Option.bind_none] at h
      cases h
    · rintro ⟨-, -, ⟨v, hv, -⟩, ⟨c, hc, -⟩, -⟩
      refine absurd (fun name hn => ?_) hone
      rcases List.mem_pair.1 hn with rfl | rfl
      · simp [hv]
      · simp [hc]

@[simp] theorem sound_str (depth : Nat) (s : String) : (Json.str s).sound depth = true := by
  cases depth <;> rfl

theorem Template.members_eq_str (t : Template) {m : String × Json} (h : m ∈ t.members) :
    m.1 ∈ fieldNames ∧ ∃ s, m.2 = .str s := by
  obtain ⟨templateType, displayName, locale, contentType, subject, body, footer⟩ := t
  cases subject <;> cases footer <;> simp [members, Json.member?] at h <;>
    rcases h with rfl | rfl | rfl | rfl | rfl | rfl | rfl <;> simp [fieldNames]

theorem Seed.ofJson?_toJson (s : Seed) (h : 1 < depth) : ofJson? depth s.toJson = some s := by
  have hpos : 0 < depth - 1 := by omega
  have hown (name : String) (hn : name ∉ Template.fieldNames) : named name s.template.members = [] :=
    named_eq_nil fun m hm he => hn (he ▸ (s.template.members_eq_str hm).1)
  refine ofJson?_eq_some_iff.2 ⟨by omega, ?_, ⟨s.scope.toJson, ?_, Scope.ofJson?_toJson s.scope hpos⟩,
    ⟨s.channel.toJson, ?_, Channel.ofJson?_toJson s.channel⟩, ?_⟩
  · intro m hm hforeign
    rcases List.mem_append.1 hm with hm | hm
    · rcases List.mem_pair.1 hm with rfl | rfl <;> simp [ownNames] at hforeign
    · obtain ⟨-, text, he⟩ := s.template.members_eq_str hm
      rw [he, sound_str]
  · rw [named_append, hown _ (by decide)]
    rfl
  · rw [named_append, hown _ (by decide)]
    rfl
  · rw [← Template.ofJson?_toJson s.template]
    exact Template.ofJson?_extends ⟨_, List.perm_append_comm, by simp [Template.fieldNames]⟩

theorem Seed.ofJson?_extends (h : Extends (Foreign depth) ms ms') :
    ofJson? depth (.obj ms') = ofJson? depth (.obj ms) := by
  have hne (name : String) (hn : name ∈ ownNames ++ Template.fieldNames) (m : String × Json)
      (hm : Foreign depth m) : m.1 ≠ name := fun he => hm.1 (he ▸ hn)
  have htemplate : Template.ofJson? (.obj ms') = Template.ofJson? (.obj ms) :=
    Template.ofJson?_extends (h.mono fun m hm hn => hm.1 (List.mem_append_right _ hn))
  have hsound : (∀ m ∈ ms', m.1 ∉ ownNames → m.2.sound (depth - 1)) ↔
      ∀ m ∈ ms, m.1 ∉ ownNames → m.2.sound (depth - 1) :=
    h.forall_iff fun m hm _ => hm.2
  refine Option.ext fun s => ?_
  rw [ofJson?_eq_some_iff, ofJson?_eq_some_iff, hsound, htemplate]
  simp only [h.named_eq_singleton (hne "scope" (by decide)),
    h.named_eq_singleton (hne "channel" (by decide))]

/-- A seed in which the scope stands among some other members. -/
theorem Seed.ofJson?_scope_eq_some_iff {before after : List (String × Json)} {v : Json} {s : Seed} :
    ofJson? depth (.obj (before ++ ("scope", v) :: after)) = some s ↔
      0 < depth ∧ (∀ m ∈ before ++ after, m.1 ∉ ownNames → m.2.sound (depth - 1)) ∧
      (named "scope" (before ++ after) = [] ∧ Scope.ofJson? (depth - 1) v = some s.scope) ∧
      (∃ v, named "channel" (before ++ after) = [v] ∧ Channel.ofJson? v = some s.channel) ∧
      Template.ofJson? (.obj (before ++ after)) = some s.template := by
  have hperm : (before ++ ("scope", v) :: after).Perm (before ++ after ++ [("scope", v)]) := by
    rw [List.append_assoc]
    exact (List.perm_append_singleton _ _).symm.append_left before
  have htemplate : Template.ofJson? (.obj (before ++ ("scope", v) :: after)) =
      Template.ofJson? (.obj (before ++ after)) :=
    Template.ofJson?_extends ⟨_, hperm, by simp [Template.fieldNames]⟩
  have hchannel : named "channel" (before ++ ("scope", v) :: after) =
      named "channel" (before ++ after) := by
    simp [named_cons]
  have hscope : (∃ u, named "scope" (before ++ ("scope", v) :: after) = [u] ∧
      Scope.ofJson? (depth - 1) u = some s.scope) ↔
        named "scope" (before ++ after) = [] ∧ Scope.ofJson? (depth - 1) v = some s.scope := by
    simp only [named_append, named_cons, if_true, List.append_eq_nil_iff]
    cases named "scope" before with
    | nil => cases named "scope" after <;> simp
    | cons u us => simp
  have hsound : (∀ m ∈ before ++ ("scope", v) :: after, m.1 ∉ ownNames → m.2.sound (depth - 1)) ↔
      ∀ m ∈ before ++ after, m.1 ∉ ownNames → m.2.sound (depth - 1) := by
    have hown : "scope" ∈ ownNames := by decide
    simp only [hperm.mem_iff]
    exact List.forall_mem_append.trans (and_iff_left (by simp [hown]))
  rw [ofJson?_eq_some_iff, htemplate, hscope, hchannel, hsound]

/-! ## Notifications -/

/-- An identifier and a time whose texts are read as what they were written for. -/
structure Stamp.Legible (s : Stamp) : Prop where
  id : Uuid.read? s.id.text = some s.id
  createdAt : Timestamp.read? s.createdAt.text = some s.createdAt

theorem named_member? (name key : String) (o : Option String) :
    named name (member? key o) = if key = name then (o.map Json.str).toList else [] := by
  cases o with
  | none => simp [member?]
  | some s => simp [member?, named_cons]

theorem nullable_text {r : Record} {name : String} {o : Option String} (hr : r.positional = false)
    (h : r.get? name = o.map Json.str) : r.nullable name string? = some o := by
  cases o with
  | none => simp [Record.nullable, h, hr]
  | some s => simp [Record.nullable, h, nullable?, string?]

theorem Notification.read?_toJson (n : Notification) :
    ∃ r : Record, Record.read? fieldNames n.toJson = some r ∧ r.positional = false ∧
      r.get? "id" = some (.str n.stamp.id.text) ∧
      r.get? "created_at" = some (.str n.stamp.createdAt.text) ∧
      r.get? "channel" = some n.channel.toJson ∧
      r.get? "template_type" = some (.str n.templateType) ∧
      r.get? "locale" = some (.str n.locale) ∧
      r.get? "content_type" = some (.str n.contentType) ∧
      r.get? "send_to" = some (.str n.sendTo) ∧
      r.get? "send_from" = n.sendFrom.map .str ∧
      r.get? "subject" = n.subject.map .str ∧
      r.get? "body" = some (.str n.body) ∧
      r.get? "footer" = n.footer.map .str := by
  let ms := [("id", .str n.stamp.id.text), ("created_at", .str n.stamp.createdAt.text)] ++
    n.contentMembers
  have hone : ∀ name ∈ fieldNames, (named name ms).length ≤ 1 := by
    simp [fieldNames, ms, contentMembers, named_cons, named_member?]
  have hread : Record.read? fieldNames n.toJson =
      some ⟨false, ms.filter fun m => fieldNames.contains m.1⟩ :=
    (Record.ofMembers?_eq fieldNames ms).trans (if_pos hone)
  refine ⟨_, hread, rfl, ?_⟩
  have hget : ∀ name ∈ fieldNames,
      Record.get? ⟨false, ms.filter fun m => fieldNames.contains m.1⟩ name =
        (named name ms).head? := by
    intro name hn
    rw [Record.get?_known, if_pos hn]
  generalize (⟨false, ms.filter fun m => fieldNames.contains m.1⟩ : Record) = r at hget ⊢
  simpa [fieldNames, ms, contentMembers, named_cons, named_member?] using hget

theorem Notification.ofJson?_toJson (n : Notification) (h : n.stamp.Legible) :
    ofJson? n.toJson = some n := by
  obtain ⟨r, hr, hpositional, hid, htime, hchannel, htype, hlocale, hcontent, hto, hfrom, hsubject,
    hbody, hfooter⟩ := n.read?_toJson
  have hfrom := nullable_text hpositional hfrom
  have hsubject := nullable_text hpositional hsubject
  have hfooter := nullable_text hpositional hfooter
  simp [ofJson?, hr, Record.required, hid, htime, hchannel, htype, hlocale, hcontent, hto, hfrom,
    hsubject, hbody, hfooter, h.id, h.createdAt, string?, Channel.ofJson?_toJson]

theorem Notification.ofJson?_extends (h : Extends (fun m => m.1 ∉ fieldNames) ms ms') :
    ofJson? (.obj ms') = ofJson? (.obj ms) := by
  unfold ofJson?
  exact Record.bind_ofMembers? h (fun _ => id) fun r r' ha => by
    simp only [ha.required, ha.nullable]

/-! ## All forms -/

/-- Reordering the members of an object, or adding foreign ones, changes nothing for a reader. -/
def Json.Indifferent {α : Type} (decode : Json → Option α)
    (foreign : List (String × Json) → String × Json → Prop) : Prop :=
  ∀ ms ms', Extends (foreign ms) ms ms' → decode (.obj ms') = decode (.obj ms)

/-- Every value is read back from its JSON form, where an absent part has no member. No reader minds
the order of the members or foreign ones, in the scope of a seed neither, and a seed never takes one
of its parts for another. -/
theorem json_round_trip :
    ((∀ t : Template, Template.ofJson? t.toJson = some t ∧
      ("subject" ∈ t.toJson.names ↔ t.subject ≠ none) ∧
      ("footer" ∈ t.toJson.names ↔ t.footer ≠ none)) ∧
    Indifferent Template.ofJson? fun _ m => m.1 ∉ Template.fieldNames) ∧
    (∀ depth, 0 < depth → (∀ s : Scope, Scope.ofJson? depth s.toJson = some s) ∧
      (∀ o a, "application_id" ∈ (Scope.organization o a).toJson.names ↔ a ≠ none) ∧
      Indifferent (Scope.ofJson? depth) (Scope.Foreign depth)) ∧
    (∀ depth, 1 < depth → (∀ s : Seed, Seed.ofJson? depth s.toJson = some s ∧
      ("subject" ∈ s.toJson.names ↔ s.template.subject ≠ none) ∧
      ("footer" ∈ s.toJson.names ↔ s.template.footer ≠ none)) ∧
      (∀ ms s, Seed.ofJson? depth (.obj ms) = some s →
        (∃ v, named "scope" ms = [v] ∧ Scope.ofJson? (depth - 1) v = some s.scope) ∧
        (∃ v, named "channel" ms = [v] ∧ Channel.ofJson? v = some s.channel) ∧
        Template.ofJson? (.obj ms) = some s.template) ∧
      Indifferent (Seed.ofJson? depth) (fun _ => Seed.Foreign depth) ∧
      ∀ before after, Indifferent
        (fun scope => Seed.ofJson? depth (.obj (before ++ ("scope", scope) :: after)))
        (Scope.Foreign (depth - 1))) ∧
    (∀ n : Notification, (n.stamp.Legible → Notification.ofJson? n.toJson = some n) ∧
      ("send_from" ∈ n.toJson.names ↔ n.sendFrom ≠ none) ∧
      ("subject" ∈ n.toJson.names ↔ n.subject ≠ none) ∧
      ("footer" ∈ n.toJson.names ↔ n.footer ≠ none)) ∧
    Indifferent Notification.ofJson? fun _ m => m.1 ∉ Notification.fieldNames := by
  have hmember (name key : String) (o : Option String) :
      name ∈ (member? key o).map Prod.fst ↔ name = key ∧ o ≠ none := by
    cases o <;> simp [member?]
  refine ⟨⟨fun t => ⟨t.ofJson?_toJson, ?_, ?_⟩, fun ms ms' => Template.ofJson?_extends⟩,
    fun depth hd => ⟨fun s => s.ofJson?_toJson hd, fun o a => ?_, fun ms ms' => Scope.ofJson?_extends⟩,
    fun depth hd => ⟨fun s => ⟨s.ofJson?_toJson hd, ?_, ?_⟩, fun ms s h => ?_,
      fun ms ms' => Seed.ofJson?_extends, fun before after ms ms' h => ?_⟩,
    fun n => ⟨n.ofJson?_toJson, ?_, ?_, ?_⟩, fun ms ms' => Notification.ofJson?_extends⟩
  · simp [Template.toJson, names, Template.members, hmember]
  · simp [Template.toJson, names, Template.members, hmember]
  · simp [Scope.toJson, names, hmember]
  · simp [Seed.toJson, names, Template.members, hmember]
  · simp [Seed.toJson, names, Template.members, hmember]
  · exact (Seed.ofJson?_eq_some_iff.1 h).2.2
  · refine Option.ext fun s => ?_
    rw [Seed.ofJson?_scope_eq_some_iff, Seed.ofJson?_scope_eq_some_iff, Scope.ofJson?_extends h]
  · simp [Notification.toJson, names, Notification.contentMembers, hmember]
  · simp [Notification.toJson, names, Notification.contentMembers, hmember]
  · simp [Notification.toJson, names, Notification.contentMembers, hmember]

/-- A notification with its stamp, one part of which is absent, is read back, also where its members
stand the other way round and another one stands among them. -/
theorem json_round_trip_stamped :
    let n : Notification := {
      stamp := ⟨⟨0x5f0c8c1e4d0b4c6f9d1e2a3b4c5d6e7f⟩, ⟨1767323045, 120000000⟩⟩
      channel := .email, templateType := "welcome", locale := "en_US", contentType := "text/plain"
      sendTo := "ann@acme.com", sendFrom := none, subject := some "Hello", body := "Hello, Ann"
      footer := some "Acme" }
    n.stamp.Legible ∧ ∃ ms, n.toJson = .obj ms ∧ Notification.ofJson? (.obj ms) = some n ∧
      Notification.ofJson? (.obj (("sent", .bool true) :: ms.reverse)) = some n := by
  intro n
  have hstamp : n.stamp.Legible := ⟨by decide +kernel, by decide +kernel⟩
  obtain ⟨-, -, -, hn, hindifferent⟩ := json_round_trip
  have hread : Notification.ofJson? n.toJson = some n := (hn n).1 hstamp
  refine ⟨hstamp, _, rfl, hread, ?_⟩
  rw [hindifferent _ _ ?_]
  · exact hread
  · exact ⟨[("sent", .bool true)], ((List.reverse_perm _).cons _).trans
      (List.perm_append_singleton _ _).symm, List.forall_mem_singleton.2 (by decide)⟩

end Herald
