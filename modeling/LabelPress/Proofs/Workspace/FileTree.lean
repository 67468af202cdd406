import LabelPress.Proofs.Outcome
import LabelPress.Workspace.FileTree

/-!
# Files of a tree

What a tree says about its files behind a write.  A file that is written changes no other
file and no folder, so a path leads to the same place before and after.
-/

namespace LabelPress
namespace FileTree

variable {tree changed : FileTree} {path : Path} {place other : List Text} {text : Text}

/-- The other files stay as they are. -/
theorem file?_put_of_ne (different : other ≠ place) :
    (tree.put place text).file? other = tree.file? other := by
  have kept (files : List (List Text × Text)) :
      (files.filter fun entry => entry.1 ≠ place).lookup other = files.lookup other := by
    induction files with
    | nil => rfl
    | cons entry others inductionHypothesis =>
        by_cases here : entry.1 = place
        · have apart : (other == entry.1) = false := by
            rw [here]
            exact beq_false_of_ne different
          rw [List.filter_cons_of_neg (by simpa using here), inductionHypothesis,
            List.lookup_cons, apart]
        · rw [List.filter_cons_of_pos (by simpa using here), List.lookup_cons, List.lookup_cons,
            inductionHypothesis]
  rw [file?, put, List.lookup_cons, beq_false_of_ne different]
  exact kept tree.files

@[simp] theorem folders_put :
    (tree.put place text).folders = tree.folders := rfl

@[simp] theorem isFolder_put :
    (tree.put place text).isFolder other = tree.isFolder other := rfl

/-- A way that was open stays open. -/
theorem follow_put
    {here parts found : List Text}
    (led : tree.follow here parts = .ok found) :
    (tree.put place text).follow here parts = .ok found := by
  induction parts generalizing here with
  | nil =>
      unfold follow at led ⊢
      exact led
  | cons part others inductionHypothesis =>
      unfold follow at led ⊢
      rw [isFolder_put]
      split at led
      · rename_i folder
        rw [if_pos folder]
        split at led
        · rename_i upwards
          rw [if_pos upwards]
          cases here with
          | nil => cases led
          | cons inner outer => exact inductionHypothesis led
        · rename_i downwards
          rw [if_neg downwards]
          split at led
          · cases led
          · rename_i short
            rw [if_neg short]
            exact inductionHypothesis led
      · split at led <;> cases led

theorem place_eq_ok :
    tree.place path = .ok place ↔ path.fault? = none ∧ tree.follow [] path.names = .ok place := by
  unfold FileTree.place
  cases path.fault? <;> simp

theorem place_put (led : tree.place path = .ok other) :
    (tree.put place text).place path = .ok other := by
  rw [place_eq_ok] at led ⊢
  exact ⟨led.1, follow_put led.2⟩

/-- A folder never ends a way early. -/
theorem follow_ne_isFolder {here parts : List Text} :
    tree.follow here parts ≠ .error .isFolder := by
  induction parts generalizing here with
  | nil =>
      unfold follow
      exact nofun
  | cons part others inductionHypothesis =>
      unfold follow
      split
      · split
        · cases here with
          | nil => exact nofun
          | cons inner outer => exact inductionHypothesis
        · split
          · exact nofun
          · exact inductionHypothesis
      · split <;> exact nofun

theorem place_ne_isFolder :
    tree.place path ≠ .error .isFolder := by
  unfold FileTree.place
  split
  · rename_i refused
    unfold Path.fault? at refused
    split at refused
    · cases refused
      exact nofun
    · split at refused
      · cases refused
        exact nofun
      · cases refused
  · exact follow_ne_isFolder

/-- A way of names that are not too long never ends at one. -/
theorem follow_ne_nameTooLong
    {here parts : List Text}
    (short : ∀ part ∈ parts, Path.bytes part ≤ Path.nameLimit) :
    tree.follow here parts ≠ .error .nameTooLong := by
  induction parts generalizing here with
  | nil =>
      unfold follow
      exact nofun
  | cons part others inductionHypothesis =>
      obtain ⟨fits, othersFit⟩ := List.forall_mem_cons.1 short
      unfold follow
      rw [if_neg (Nat.not_lt.2 fits)]
      split
      · split
        · cases here with
          | nil => exact nofun
          | cons inner outer => exact inductionHypothesis othersFit
        · exact inductionHypothesis othersFit
      · split <;> exact nofun

/-- Something can be looked for at a path that is not refused and has no such name. -/
theorem isOverlong_eq_false
    (accepted : path.fault? = none)
    (short : ∀ part ∈ path.names, Path.bytes part ≤ Path.nameLimit) :
    tree.isOverlong path = false := by
  have reached : tree.place path ≠ .error .nameTooLong := by
    rw [FileTree.place, accepted]
    exact follow_ne_nameTooLong short
  unfold isOverlong
  split
  · rename_i overlong
    exact absurd overlong reached
  · rfl

/-- A path that is too long leads to nothing. -/
theorem isOverlong_eq_true :
    tree.isOverlong path = true ↔ tree.place path = .error .nameTooLong := by
  unfold isOverlong
  split
  · rename_i overlong
    exact iff_of_true rfl overlong
  · rename_i other
    exact iff_of_false nofun other

theorem write_eq_ok :
    tree.write path text = .ok changed ↔
      ∃ place, tree.place path = .ok place ∧ tree.isFolder place = false ∧
        changed = tree.put place text := by
  rw [write, bind_eq_ok]
  apply exists_congr
  intro place
  cases tree.isFolder place with
  | true => simp
  | false => simp [eq_comm]

/-- One tree is the other with a text in the file at a place, to which a path leads in both. -/
structure Gains
    (tree changed : FileTree)
    (path : Path)
    (place : List Text)
    (text : Text) : Prop where
  place_eq : tree.place path = .ok place
  place_changed_eq : changed.place path = .ok place
  file?_eq : changed.file? place = some text
  file?_other_eq : ∀ other, other ≠ place → changed.file? other = tree.file? other
  folders_eq : changed.folders = tree.folders

/-- A write that succeeds changes one file and nothing else. -/
theorem gains_of_write (written : tree.write path text = .ok changed) :
    ∃ place, tree.Gains changed path place text := by
  obtain ⟨place, led, -, rfl⟩ := write_eq_ok.1 written
  exact ⟨place, led, place_put led, file?_put _ _ _, fun _ => file?_put_of_ne, folders_put⟩

theorem read_eq_ok :
    tree.read path = .ok text ↔
      ∃ place found, tree.place path = .ok place ∧ tree.isFolder place = false ∧
        tree.file? place = some found ∧ text = normalizeBreaks found := by
  rw [read, bind_eq_ok]
  apply exists_congr
  intro place
  cases tree.isFolder place with
  | true => simp
  | false => cases tree.file? place <;> simp [eq_comm]

theorem read_eq_isFolder :
    tree.read path = .error .isFolder ↔
      ∃ place, tree.place path = .ok place ∧ tree.isFolder place = true := by
  rw [read, bind_eq_error, or_iff_right place_ne_isFolder]
  apply exists_congr
  intro place
  cases tree.isFolder place with
  | true => simp
  | false => cases tree.file? place <;> simp

/-- What is at the end of a path is a folder or a file with a text. -/
theorem holds_iff :
    tree.holds path = true ↔
      tree.read path = .error .isFolder ∨ ∃ text, tree.read path = .ok text := by
  simp only [read_eq_isFolder, read_eq_ok, holds]
  cases tree.place path with
  | error fault => simp
  | ok place =>
      cases folder : tree.isFolder place with
      | true => simp [folder]
      | false => cases found : tree.file? place <;> simp [folder, found]

/-- What is there can be looked for. -/
theorem isOverlong_of_holds (present : tree.holds path = true) :
    tree.isOverlong path = false := by
  unfold holds at present
  unfold isOverlong
  cases led : tree.place path with
  | ok place => rfl
  | error fault =>
      rw [led] at present
      cases present

end FileTree
end LabelPress
