import Herald.Channel.Basic
import Herald.Store.Basic
import Herald.Template.Basic

/-!
# Herald.Proofs.Store.Paths

Paths tell channels and types apart.

* `IsSegment`: the types that a path can end in. `isSegment_of_valid`: those of valid templates.
* `templatePath_inj`: channel and type from a path.
-/

namespace Herald

/-- A stretch of a path between two slashes. -/
def IsSegment (s : String) : Prop := s ≠ "" ∧ '/' ∉ s.toList

theorem isSegment_of_valid {t : Template} (h : t.defect? = none) : IsSegment t.templateType := by
  unfold Template.defect? at h
  constructor
  · intro he
    simp [he] at h
  · intro hm
    have hc : t.templateType.toList.all Template.isTypeChar = false :=
      List.all_eq_false.2 ⟨'/', hm, by decide⟩
    rw [hc] at h
    split at h <;> cases h

theorem toList_templatePath (c : Channel) (templateType : String) :
    (c.templatePath templateType).toList = c.basePath.toList ++ '/' :: templateType.toList := by
  simp [Channel.templatePath, String.toList_append]

theorem after?_basePath {c d : Channel} {cs : List Char} :
    Text.after? d.basePath.toList (c.basePath.toList ++ '/' :: cs) =
      if d = c then some ('/' :: cs) else none := by
  cases c <;> cases d <;> rfl

theorem templatePath_inj {c d : Channel} {a b : String} (h : c.templatePath a = d.templatePath b) :
    c = d ∧ a = b := by
  have hl : c.basePath.toList ++ '/' :: a.toList = d.basePath.toList ++ '/' :: b.toList := by
    rw [← toList_templatePath, ← toList_templatePath, h]
  have ha := congrArg (Text.after? c.basePath.toList) hl
  rw [after?_basePath, after?_basePath, if_pos rfl] at ha
  split at ha
  · next hcd =>
    have hs : a.toList = b.toList := (List.cons.inj (Option.some.inj ha)).2
    exact ⟨hcd, String.toList_inj.1 hs⟩
  · cases ha

theorem isBelow_templatePath {c d : Channel} {a : String} :
    isBelow d.basePath (c.templatePath a) = true ↔ d = c ∧ a ≠ "" := by
  rw [isBelow, toList_templatePath, after?_basePath]
  by_cases hd : d = c
  · cases ha : a.toList with
    | nil =>
      have h : a = "" := String.toList_eq_nil_iff.1 ha
      simp [hd, h]
    | cons x xs =>
      have h : a ≠ "" := by
        rintro rfl
        cases ha
      simp [hd, h]
  · simp [hd]

end Herald
