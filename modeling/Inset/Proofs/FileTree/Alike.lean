import Inset.Proofs.FileTree.Store

/-!
# Trees that hold the same

A tree lists its entries, and the one that was put last comes first.  So two trees may hold
the same at every location and yet differ in their lists.  A walk looks locations up and
nothing else, hence the operations that writing is composed of do the same in trees that are
alike, and leave trees that are alike (`Respects`).  What is composed of such operations does
so, too (`Respects.bind`), up to writing a file with the directories above it.
-/

namespace Inset.FileTree

variable {first second third : FileTree} {path : Path}

/-- Whether two trees hold the same at every location. -/
def Alike (first second : FileTree) : Prop :=
  ∀ location, first.get? location = second.get? location

namespace Alike

theorem refl (tree : FileTree) : Alike tree tree :=
  fun _ => rfl

theorem symm (alike : Alike first second) : Alike second first :=
  fun location => (alike location).symm

theorem trans (alike : Alike first second) (alike' : Alike second third) : Alike first third :=
  fun location => (alike location).trans (alike' location)

/-! ## Walks -/

variable (alike : Alike first second)

include alike

theorem walk_eq (purpose : Purpose)
    (follow : Bool → Location → List String → Except StoreError Target) :
    first.walk purpose follow = second.walk purpose follow := by
  funext slash directory steps
  induction steps generalizing directory with
  | nil => rfl
  | cons step rest ih => simp only [walk, alike _, ih]

theorem walkWithin_eq (purpose : Purpose) (links : Nat) :
    first.walkWithin purpose links = second.walkWithin purpose links := by
  induction links with
  | zero => exact alike.walk_eq purpose _
  | succ links ih => rw [walkWithin, walkWithin, ih, alike.walk_eq]

theorem resolve_eq (purpose : Purpose) (path : Path) :
    first.resolve purpose path = second.resolve purpose path := by
  rw [resolve, resolve, alike.walkWithin_eq]

theorem readBytes_eq (path : Path) : first.readBytes path = second.readBytes path := by
  rw [readBytes, readBytes, alike.resolve_eq]

theorem isDirectory_eq (path : Path) : first.isDirectory path = second.isDirectory path := by
  rw [isDirectory, isDirectory, alike.resolve_eq]

/-! ## Changes -/

theorem put (directory : Location) (name : String) (entry : Entry) :
    Alike (first.put directory name entry) (second.put directory name entry) := by
  have same : first.Admits directory name ↔ second.Admits directory name := by
    rw [Admits, Admits, alike, alike]
  intro location
  by_cases admits : first.Admits directory name
  · rw [get?_put admits, get?_put (same.mp admits), alike]
  · rw [FileTree.put, FileTree.put, dif_neg admits, dif_neg (mt same.mpr admits), alike]

end Alike

/-! ## Operations -/

/-- Whether an operation gives the same in trees that are alike, and leaves them alike. -/
def Respects {α : Type} (operation : StateM FileTree α) : Prop :=
  ∀ first second, Alike first second →
    (operation.run first).1 = (operation.run second).1 ∧
      Alike (operation.run first).2 (operation.run second).2

namespace Respects

variable {α β : Type}

theorem pure (result : α) : Respects (Pure.pure result : StateM FileTree α) :=
  fun _ _ alike => ⟨rfl, alike⟩

/-- What an operation gives in one tree it gives in every tree that is alike. -/
theorem exists_run {operation : StateM FileTree α} {result : α} {after : FileTree}
    (respects : Respects operation) (alike : Alike first second)
    (ran : operation.run first = (result, after)) :
    ∃ after', operation.run second = (result, after') ∧ Alike after after' := by
  rcases ran' : operation.run second with ⟨result', after'⟩
  have both := respects first second alike
  rw [ran, ran'] at both
  obtain ⟨rfl, alike'⟩ : result = result' ∧ Alike after after' := both
  exact ⟨after', rfl, alike'⟩

theorem bind {operation : StateM FileTree α} {next : α → StateM FileTree β}
    (respects : Respects operation) (later : ∀ result, Respects (next result)) :
    Respects (operation >>= next) := by
  intro first second alike
  rcases ran : operation.run first with ⟨result, after⟩
  rcases respects.exists_run alike ran with ⟨after', ran', alike'⟩
  rw [run_bind ran, run_bind ran']
  exact later result after after' alike'

theorem isDirectory (path : Path) : Respects (Files.isDirectory path) :=
  fun _ _ alike => ⟨alike.isDirectory_eq path, alike⟩

theorem makeDirectory (path : Path) : Respects (Files.makeDirectory path) := by
  intro first second alike
  rw [run_makeDirectory, run_makeDirectory, FileTree.makeDirectory, FileTree.makeDirectory,
    alike.resolve_eq]
  cases second.resolve .make path with
  | error cause => exact ⟨rfl, alike⟩
  | ok target =>
      cases target with
      | found location entry slash => exact ⟨rfl, alike⟩
      | vacant directory name slash => exact ⟨rfl, alike.put directory name .directory⟩

theorem writeText (path : Path) (text : String) : Respects (Files.writeText path text) := by
  intro first second alike
  rw [run_writeText, run_writeText, writeBytes, writeBytes, alike.resolve_eq]
  cases second.resolve .write path with
  | error cause => exact ⟨rfl, alike⟩
  | ok target =>
      cases target with
      | vacant directory name slash => exact ⟨rfl, alike.put directory name _⟩
      | found location entry slash =>
          cases location with
          | nil => exact ⟨rfl, alike⟩
          | cons name directory =>
              cases entry with
              | file bytes => exact ⟨rfl, alike.put directory name _⟩
              | _ => exact ⟨rfl, alike⟩

theorem acceptExisting (path : Path) (cause : StoreError) :
    Respects (Files.acceptExisting path cause) := by
  rw [Files.acceptExisting]
  refine (isDirectory path).bind fun isDirectory => ?_
  split
  · exact .pure _
  · exact .pure _

theorem makeDirectoriesWithin (count : Nat) (path : Path) :
    Respects (Files.makeDirectoriesWithin count path) := by
  induction count generalizing path with
  | zero => exact .pure _
  | succ count ih =>
      rw [Files.makeDirectoriesWithin]
      cases path.parent? with
      | none => exact .pure _
      | some parent =>
          refine (makeDirectory path).bind fun made => ?_
          rcases made with cause | _
          · cases cause with
            | noEntry =>
                refine (ih parent).bind fun madeAbove => ?_
                rcases madeAbove with cause | _
                · exact .pure _
                · refine (makeDirectory path).bind fun made => ?_
                  rcases made with cause | _
                  · exact acceptExisting path cause
                  · exact .pure _
            | _ => exact acceptExisting path _
          · exact .pure _

/-- Writing a file with its path in the error. -/
theorem writeReporting (path : Path) (text : String) :
    Respects (do match ← Files.writeText path text with
      | .error cause => return .error ⟨path, cause⟩
      | .ok () => return .ok () : StateM FileTree (Except IoError Unit)) := by
  refine (writeText path text).bind fun written => ?_
  rcases written with cause | _
  · exact .pure _
  · exact .pure _

theorem writeCreating (path : Path) (text : String) :
    Respects (Files.writeCreating path text) := by
  rw [Files.writeCreating]
  split
  · exact writeReporting path text
  · refine (makeDirectoriesWithin _ _).bind fun made => ?_
    rcases made with cause | _
    · exact .pure _
    · exact writeReporting path text

end Respects

end Inset.FileTree
