/-
This file shows that the way to a directory stays open when files are put and dropped beside it.
-/

import Mathlib.Data.List.Basic
import ChatCalculator.Files.Basic

namespace ChatCalculator.Files

/-- One tree has all directories of another. -/
def KeepsDirectories (before after : Files) : Prop :=
  ∀ path, before.node? path = some .directory → after.node? path = some .directory

theorem keepsDirectories_put {files : Files} {path : Path} {content : ByteArray}
    (named : ¬(path = [] ∨ path = [['/']])) (free : files.node? path ≠ some .directory) :
    KeepsDirectories files (files.put path (.file content)) := by
  intro other directory
  rw [node?_put _ _ _ _ named, if_neg, directory]
  rintro rfl
  exact free directory

theorem keepsDirectories_drop {files : Files} {path : Path} (named : ¬(path = [] ∨ path = [['/']]))
    (free : files.node? path ≠ some .directory) : KeepsDirectories files (files.drop path) := by
  intro other directory
  rw [node?_drop _ _ _ named, if_neg, directory]
  rintro rfl
  exact free directory

theorem enter_of_keepsDirectories {before after : Files} (kept : KeepsDirectories before after)
    {place next : Path} {name : Text} (found : before.enter place name = .ok next) :
    after.enter place name = .ok next := by
  unfold enter at found ⊢
  split at found
  · next dot =>
      rw [if_pos dot]
      exact found
  · next other =>
      rw [if_neg other]
      split at found
      · next up =>
          rw [if_pos up]
          exact found
      · next down =>
          rw [if_neg down]
          split at found
          · cases found
          · next short =>
              rw [if_neg short]
              split at found
              · next directory =>
                  rw [kept _ directory]
                  exact found
              · cases found
              · cases found

/-- The way to a directory is still the same when no directory on it is lost. -/
theorem directory_of_keepsDirectories {before after : Files} (kept : KeepsDirectories before after)
    {path place : Path} (found : before.directory path = .ok place) :
    after.directory path = .ok place := by
  have walk : ∀ (names start : Path), names.foldlM before.enter start = .ok place →
      names.foldlM after.enter start = .ok place := by
    intro names
    induction names with
    | nil => exact fun start found => found
    | cons name rest inductionHypothesis =>
        intro start found
        rw [List.foldlM_cons] at found ⊢
        cases entered : before.enter start name with
        | error obstacle =>
            rw [entered] at found
            cases found
        | ok next =>
            rw [entered] at found
            rw [enter_of_keepsDirectories kept entered]
            exact inductionHypothesis next found
  unfold directory at found ⊢
  split at found
  · cases found
  · next short =>
      rw [if_neg short]
      exact walk path [] found

/-- Nothing is made where there is a directory already. -/
theorem eq_of_makeDirectory {path place : Path} {files made : Files}
    (found : files.directory path = .ok place) (done : makeDirectory path files = .ok () made) :
    made = files := by
  rw [makeDirectory, found] at done
  cases done
  rfl

/-- Otherwise it is missing and not blocked. -/
theorem directory_of_makeDirectory {path : Path} {files made : Files}
    (done : makeDirectory path files = .ok () made) :
    files.directory path = .error .missing ∨ ∃ place, files.directory path = .ok place := by
  unfold makeDirectory at done
  split at done
  · next place found => exact .inr ⟨place, found⟩
  · cases done
  · next missing => exact .inl missing

end ChatCalculator.Files
