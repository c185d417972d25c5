/-
This file shows what making a directory changes: whether it succeeds or not, directories are added
and nothing else.
-/

import Mathlib.Data.List.Basic
import ChatCalculator.Proofs.Files.Directory

namespace ChatCalculator.Files

/-- One tree has what another one has, and besides only directories. -/
structure AddsDirectories (before after : Files) : Prop where
  kept : ∀ path node, before.node? path = some node → after.node? path = some node
  added : ∀ path node, after.node? path = some node →
    before.node? path = some node ∨ node = .directory

theorem AddsDirectories.refl (files : Files) : AddsDirectories files files :=
  ⟨fun _ _ standing => standing, fun _ _ standing => .inl standing⟩

theorem AddsDirectories.trans {before between after : Files}
    (first : AddsDirectories before between) (second : AddsDirectories between after) :
    AddsDirectories before after := by
  constructor
  · intro path node standing
    exact second.kept path node (first.kept path node standing)
  · intro path node standing
    rcases second.added path node standing with earlier | new
    · exact first.added path node earlier
    · exact .inr new

theorem AddsDirectories.keepsDirectories {before after : Files}
    (adds : AddsDirectories before after) : KeepsDirectories before after :=
  fun path standing => adds.kept path .directory standing

/-- A file is not added. -/
theorem AddsDirectories.file {before after : Files} (adds : AddsDirectories before after)
    {path : Path} {content : ByteArray} (standing : after.node? path = some (.file content)) :
    before.node? path = some (.file content) := by
  rcases adds.added path _ standing with earlier | new
  · exact earlier
  · cases new

/-- Where the next directory is missing, nothing stands, and a directory there is entered. -/
theorem of_enter_missing {files : Files} {place : Path} {name : Text}
    (missing : files.enter place name = .error .missing) :
    files.node? (place ++ [name]) = none ∧
      ∀ after : Files, after.node? (place ++ [name]) = some .directory →
        after.enter place name = .ok (place ++ [name]) := by
  unfold enter at missing ⊢
  split at missing
  · cases missing
  · next other =>
      split at missing
      · cases missing
      · next down =>
          split at missing
          · cases missing
          · next short =>
              split at missing
              · cases missing
              · cases missing
              · next nothing =>
                  refine ⟨nothing, fun after standing => ?_⟩
                  rw [if_neg other, if_neg down, if_neg short, standing]

theorem addsDirectories_put {files : Files} {path : Path} (free : files.node? path = none) :
    AddsDirectories files (files.put path .directory) := by
  have named : ¬(path = [] ∨ path = [['/']]) := by
    intro root
    rw [node?, if_pos root] at free
    cases free
  constructor
  · intro other node standing
    rw [node?_put _ _ _ _ named, if_neg, standing]
    rintro rfl
    cases free.symm.trans standing
  · intro other node standing
    rw [node?_put _ _ _ _ named] at standing
    split at standing
    · cases standing
      exact .inr rfl
    · exact .inl standing

/-- One step on the way is entered afterwards, or it is blocked and nothing has changed. -/
theorem enterOrMake_cases (place : Path) (name : Text) (files : Files) :
    (∃ next made, enterOrMake place name files = .ok next made ∧ AddsDirectories files made ∧
        made.enter place name = .ok next) ∨
      enterOrMake place name files = .error .blocked files ∧
        files.enter place name = .error .blocked := by
  unfold enterOrMake
  cases entered : files.enter place name with
  | ok next => exact .inl ⟨next, files, rfl, .refl files, entered⟩
  | error obstacle =>
      cases obstacle with
      | blocked => exact .inr ⟨rfl, rfl⟩
      | missing =>
          obtain ⟨free, reached⟩ := of_enter_missing entered
          have adds := addsDirectories_put free
          refine .inl ⟨place ++ [name], _, rfl, adds, reached _ ?_⟩
          have named : ¬(place ++ [name] = [] ∨ place ++ [name] = [['/']]) := by
            intro root
            rw [node?, if_pos root] at free
            cases free
          rw [node?_put _ _ _ _ named, if_pos rfl]

/-- The steps lead on the same way afterwards, and where one of them is blocked, the way still ends
there. -/
theorem foldlM_enterOrMake_cases (names start : Path) (files : Files) :
    (∃ final made, names.foldlM enterOrMake start files = .ok final made ∧
        AddsDirectories files made ∧ names.foldlM made.enter start = .ok final) ∨
      ∃ obstacle after, names.foldlM enterOrMake start files = .error obstacle after ∧
        AddsDirectories files after ∧ ∀ final, names.foldlM after.enter start ≠ .ok final := by
  induction names generalizing start files with
  | nil => exact .inl ⟨start, files, rfl, .refl files, rfl⟩
  | cons name rest inductionHypothesis =>
      simp only [List.foldlM_cons, bind, EStateM.bind]
      rcases enterOrMake_cases start name files with
        ⟨next, made, stepped, adds, entered⟩ | ⟨stepped, blocked⟩
      · rw [stepped]
        dsimp only
        have onward : ∀ {after : Files}, AddsDirectories made after →
            after.enter start name = .ok next := fun later =>
          enter_of_keepsDirectories later.keepsDirectories entered
        rcases inductionHypothesis next made with
          ⟨final, reached, done, more, walked⟩ | ⟨obstacle, after, failed, more, ended⟩
        · refine .inl ⟨final, reached, done, adds.trans more, ?_⟩
          rw [onward more]
          exact walked
        · refine .inr ⟨obstacle, after, failed, adds.trans more, ?_⟩
          rw [onward more]
          exact ended
      · rw [stepped]
        refine .inr ⟨.blocked, files, rfl, .refl files, ?_⟩
        rw [blocked]
        nofun

theorem namesToMake_append (path : Path) : ∃ rest, namesToMake path ++ rest = path := by
  unfold namesToMake
  split
  · exact (List.dropLast_prefix _).trans (List.dropLast_prefix _)
  · exact ⟨[], List.append_nil path⟩

/-- A directory that is made is there afterwards. It was there before and nothing has changed, or it
was missing and directories were added. -/
theorem of_makeDirectory {path : Path} {files made : Files}
    (done : makeDirectory path files = .ok () made) :
    ∃ place, made.directory path = .ok place ∧ AddsDirectories files made ∧
      (made = files ∨ files.directory path = .error .missing) := by
  unfold makeDirectory at done
  split at done
  · next place found =>
      cases done
      exact ⟨place, found, .refl files, .inl rfl⟩
  · cases done
  · next missing =>
      rcases foldlM_enterOrMake_cases (namesToMake path) [] files with
        ⟨final, reached, walked, adds, -⟩ | ⟨obstacle, after, failed, -⟩
      · rw [walked] at done
        dsimp only at done
        split at done
        · next place found =>
            cases done
            exact ⟨place, found, adds, .inr missing⟩
        · cases done
      · rw [failed] at done
        cases done

/-- A directory that cannot be made is not there, neither before nor afterwards. -/
theorem not_directory_of_makeDirectory {path : Path} {files after : Files} {obstacle : Obstacle}
    (failed : makeDirectory path files = .error obstacle after) :
    (∀ place, files.directory path ≠ .ok place) ∧ ∀ place, after.directory path ≠ .ok place := by
  unfold makeDirectory at failed
  split at failed
  · cases failed
  · next blocked =>
      cases failed
      rw [blocked]
      exact ⟨nofun, nofun⟩
  · next missing =>
      refine ⟨by rw [missing]; nofun, ?_⟩
      rcases foldlM_enterOrMake_cases (namesToMake path) [] files with
        ⟨final, reached, walked, -⟩ | ⟨other, left, stopped, -, ended⟩
      · rw [walked] at failed
        dsimp only at failed
        split at failed
        · cases failed
        · next unreached =>
            cases failed
            rw [unreached]
            nofun
      · rw [stopped] at failed
        cases failed
        intro place
        unfold directory
        split
        · nofun
        · -- The way to the whole path begins with the way that was blocked.
          obtain ⟨rest, whole⟩ := namesToMake_append path
          intro found
          rw [← whole, List.foldlM_append] at found
          cases begun : (namesToMake path).foldlM after.enter [] with
          | ok between => exact ended between begun
          | error way =>
              rw [begun] at found
              cases found

end ChatCalculator.Files
