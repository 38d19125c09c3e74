/-
# Fields that mention nobody

`SPEC_FULL` §4.3: `process` on texts without placeholders.

A plain field has no placeholder of a person in its text (`Item.Plain`).  To process it is
to read it: its text is shown as it stands, and nothing is drawn or bound
(`yields_process_of_plain`).  Any other field is processed alike in two items that hold the
same there (`yields_process_congr`).
-/

import Alternation.Proofs.Render.Casting
import Alternation.Proofs.Render.Seam

namespace Alternation

/-- A text without a percent sign mentions nobody. -/
theorem Segment.no_person_of_not_mem {text : String} (h : '%' ∉ text.toList) (p : Placeholder) :
    .person p ∉ parse text := by
  intro hmem
  obtain ⟨before, after, htext, hbegins⟩ := exists_person_iff_begins.1 ⟨p, hmem⟩
  cases after with
  | nil => exact Placeholder.not_begins_nil hbegins
  | cons c rest =>
    obtain rfl := hbegins.head
    exact h (by rw [htext]; simp)

/-! ## Reading fields -/

namespace Item

variable {item item' : Item} {field : String}

/-- A text that a field holds is the value of the field. -/
theorem get?_of_text? {text : String} (h : item.text? field = some text) :
    item.get? field = some (.text text) := by
  obtain ⟨value, hvalue, htext⟩ := Option.bind_eq_some_iff.1 h
  cases value with
  | text s =>
    obtain rfl := Option.some.inj htext
    exact hvalue
  | _ => exact nomatch htext

/-- A required text is there just if the field holds it. -/
theorem requireText_eq_ok_iff {text : String} :
    item.requireText field = .ok text ↔ item.text? field = some text := by
  refine ⟨text?_of_requireText, fun h => ?_⟩
  rw [requireText, get?_of_text? h]

/-- A required value is there just if the field has it. -/
theorem requireValue_eq_ok_iff {value : Value} :
    item.requireValue field = .ok value ↔ item.get? field = some value := by
  rw [requireValue]
  cases item.get? field with
  | none => simp
  | some value' => simp

/-- A required flag is there just if the field is, and it tells whether the value counts as
yes. -/
theorem requireFlag_eq_ok_iff {flag : Bool} :
    item.requireFlag field = .ok flag ↔
      ∃ value, item.get? field = some value ∧ value.isTruthy = flag := by
  rw [requireFlag, requireValue]
  cases item.get? field with
  | none => simp [Except.map]
  | some value => simp [Except.map]

/-- Fields with equal values hold the same text. -/
theorem text?_congr (h : item'.get? field = item.get? field) :
    item'.text? field = item.text? field := by
  rw [text?, text?, h]

/-- Setting a text changes what is read under its name and nothing else. -/
theorem text?_set (item : Item) (field field' text : String) :
    (item.set field (.text text)).text? field' =
      if field' = field then some text else item.text? field' := by
  rw [text?, get?_set]
  split
  · rfl
  · rfl

/-- The field mentions nobody. -/
def Plain (item : Item) (field : String) : Prop :=
  ∀ text ∈ item.text? field, ∀ p, .person p ∉ Segment.parse text

end Item

/-! ## Processing fields -/

section

variable {σ : Type} [RandomSource σ] {corpus : NameCorpus} {item item' : Item} {field text : String}
  {s s' : Scene σ}

/-- To process a field is to substitute in the text that it holds. -/
theorem yields_process_iff :
    Yields (Rendering.process corpus item field) s text s' ↔
      ∃ raw, item.text? field = some raw ∧ Yields (Rendering.substitute corpus raw) s text s' := by
  simp only [Rendering.process, yields_bind_iff, yields_check_iff, Item.requireText_eq_ok_iff]
  constructor
  · rintro ⟨raw, _, ⟨hraw, rfl⟩, hyields⟩
    exact ⟨raw, hraw, hyields⟩
  · rintro ⟨raw, hraw, hyields⟩
    exact ⟨raw, _, ⟨hraw, rfl⟩, hyields⟩

/-- Items with the same field are processed in the same way. -/
theorem yields_process_congr (h : item'.get? field = item.get? field) :
    Yields (Rendering.process corpus item' field) s text s' ↔
      Yields (Rendering.process corpus item field) s text s' := by
  rw [yields_process_iff, yields_process_iff, Item.text?_congr h]

/-- **A plain field** is shown as it stands. -/
theorem yields_process_of_plain (h : item.Plain field) :
    Yields (Rendering.process corpus item field) s text s' ↔
      item.text? field = some text ∧ s' = s := by
  rw [yields_process_iff]
  constructor
  · rintro ⟨raw, hraw, hyields⟩
    have hplain := yields_substitute_of_no_person corpus (h raw hraw) s
    obtain ⟨htext, rfl⟩ := Prod.mk.inj (hyields.symm.trans hplain)
    exact ⟨by rw [hraw, Except.ok.inj htext], rfl⟩
  · rintro ⟨htext, rfl⟩
    exact ⟨text, htext, yields_substitute_of_no_person corpus (h text htext) s'⟩

end
end Alternation
