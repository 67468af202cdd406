import LabelPress.Document.Basic

/-!
# Entries of mappings

What is found under a name after the entries of a mapping were changed: a value that is put
under a name shows there and nowhere else, and so does the removal of a name.
-/

namespace LabelPress
namespace Document

variable {entries others : Entries} {name other : Text} {value : Document}

theorem sameKey_text_iff {key : Document} :
    key.sameKey (.text name) = true ↔ key = .text name := by
  cases key <;> simp [sameKey, keyNumber?, number?]

theorem get?_cons {entry : Document × Document} :
    get? (entry :: entries) name =
      if entry.1.sameKey (.text name) then some entry.2 else get? entries name := by
  rw [get?, get?, List.find?_cons]
  cases entry.1.sameKey (.text name) <;> rfl

theorem get?_append :
    get? (entries ++ others) name = (get? entries name).or (get? others name) := by
  rw [get?, get?, get?, List.find?_append, Option.map_or]

/-- Another value under a key that is there. -/
theorem get?_replaced :
    get? (entries.map fun entry =>
        if entry.1.sameKey (.text name) then (entry.1, value) else entry) other =
      if other = name then (get? entries other).map fun _ => value else get? entries other := by
  induction entries with
  | nil => simp [get?]
  | cons entry rest inductionHypothesis =>
      rw [List.map_cons, get?_cons, inductionHypothesis, get?_cons]
      by_cases key : entry.1.sameKey (.text name) = true
      · by_cases same : other = name
        · simp [key, same]
        · have different : entry.1.sameKey (.text other) = false := by
            simp [sameKey_text_iff.1 key, sameKey, Ne.symm same]
          simp [key, same, different]
      · by_cases same : other = name
        · simp [key, same]
        · simp [key, same]

/-- A value that is put under a name is found there, and nothing else changes. -/
theorem get?_put :
    get? (put entries (.text name) value) other =
      if other = name then some value else get? entries other := by
  unfold put
  split
  · rename_i known
    have found : (get? entries name).isSome := by simpa [get?] using known
    obtain ⟨former, found⟩ := Option.isSome_iff_exists.1 found
    rw [get?_replaced]
    by_cases same : other = name
    · rw [if_pos same, if_pos same, same, found, Option.map_some]
    · rw [if_neg same, if_neg same]
  · rename_i unknown
    have missing : get? entries name = none := by simpa [get?] using unknown
    rw [get?_append, get?_cons]
    by_cases same : other = name
    · simp [same, missing, sameKey]
    · simp [same, sameKey, Ne.symm same, get?]

/-- The entries without those of a name. -/
def without
    (entries : Entries)
    (name : Text) : Entries :=
  entries.filter fun entry => !entry.1.sameKey (.text name)

/-- A name that is left out is not found, and nothing else changes. -/
theorem get?_without :
    get? (without entries name) other = if other = name then none else get? entries other := by
  induction entries with
  | nil => simp [without, get?]
  | cons entry rest inductionHypothesis =>
      by_cases key : entry.1.sameKey (.text name) = true
      · have dropped : without (entry :: rest) name = without rest name := by
          simp [without, key]
        rw [dropped, inductionHypothesis, get?_cons]
        by_cases same : other = name
        · rw [if_pos same, if_pos same]
        · have different : entry.1.sameKey (.text other) = false := by
            simp [sameKey_text_iff.1 key, sameKey, Ne.symm same]
          simp [same, different]
      · have kept : without (entry :: rest) name = entry :: without rest name := by
          simp [without, key]
        rw [kept, get?_cons, inductionHypothesis, get?_cons]
        by_cases same : other = name
        · simp [same, key]
        · rw [if_neg same, if_neg same]

end Document
end LabelPress
