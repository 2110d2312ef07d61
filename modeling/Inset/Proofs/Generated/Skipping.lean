import Inset.Proofs.FileTree.Alike
import Inset.Proofs.Generated.Outcome

/-!
# Files that are not written again

A file that is up to date is left alone, and so every file is read before it is written.
Writing all files regardless would come to the same, but for one case: a file that is there
and whose bytes are no text can be written over, and yet it cannot be read
(`written_iff_written_over`).
-/

namespace Inset

open FileTree

variable {tree before after after' : FileTree} {root path : Path} {location : Location}
  {bytes : ByteArray} {files : List GeneratedFile} {file : GeneratedFile}

/-! ## Before a file was written -/

namespace FileTree

variable {written made : Location → Prop} {links bound : Nat} {slash slash' : Bool}
  {directory : Location} {steps : List String}

/-- Before the tree grew, steps that lead to a file ended there as well, at a file or at
nothing, or a directory on the way was missing. -/
theorem Route.before_grows (grows : Grows before after written made)
    (route : Route after .look links slash directory steps
      (.found location (.file bytes) slash')) (few : links ≤ bound) :
    before.walkWithin .look bound slash directory steps = .error .noEntry ∨
      (∃ parent name,
        before.walkWithin .look bound slash directory steps = .ok (.vacant parent name slash')) ∨
      ∃ old, before.walkWithin .look bound slash directory steps =
        .ok (.found location (.file old) slash') := by
  generalize arrived : Target.found location (.file bytes) slash' = target at route
  induction route generalizing bound with
  | done => cases arrived
  | current later ih =>
      rw [walkWithin_current]
      exact ih few arrived
  | parent later ih =>
      rw [walkWithin_parent]
      exact ih few arrived
  | @enter _ _ directory name rest _ isName entry later ih =>
      have goesOn : rest ≠ [] := by
        rintro rfl
        cases later
        cases arrived
      have development := grows (name :: directory)
      rw [entry] at development
      generalize entry' : before.get? (name :: directory) = occupant? at development
      cases development with
      | kept =>
          rw [walkWithin_directory isName entry']
          exact ih few arrived
      | directoryMade =>
          left
          cases bound <;> simp [walkWithin, walk_cons isName, entry', goesOn]
  | vacant => cases arrived
  | @file _ directory name _ isName entry =>
      cases arrived
      have development := grows (name :: directory)
      rw [entry] at development
      generalize entry' : before.get? (name :: directory) = occupant? at development
      right
      cases development with
      | kept =>
          exact .inr ⟨bytes, by cases bound <;> simp [walkWithin, walk_cons isName, entry']⟩
      | fileMade =>
          exact .inl ⟨directory, name, by
            cases bound <;> simp [walkWithin, walk_cons isName, entry']⟩
      | fileReplaced _ old =>
          exact .inr ⟨old, by cases bound <;> simp [walkWithin, walk_cons isName, entry']⟩
  | link isName making => contradiction
  | follow isName goesOn linked later ih =>
      obtain ⟨fewer, rfl⟩ : ∃ fewer, bound = fewer + 1 :=
        Nat.exists_eq_add_one.mpr (Nat.zero_lt_of_lt few)
      rw [walkWithin, walk_cons isName, grows.link.mp linked]
      simp only [reduceCtorEq, and_false, if_false]
      exact ih (Nat.le_of_succ_le_succ few) arrived

/-- Before the tree grew, nothing was read under a path that leads to a file, or a file was
there already. -/
theorem textAt_before_grows (grows : Grows before after written made)
    (resolved : after.resolve .look path = .ok (.found location (.file bytes) false)) :
    before.textAt path = .ok none ∨
      ∃ old, before.resolve .look path = .ok (.found location (.file old) false) := by
  rcases resolve_eq_ok_iff.mp resolved with ⟨walkable, links, few, route⟩
  have walked : before.resolve .look path = _ := walkable.resolve_eq .look
  rcases route.before_grows grows few with missing | ⟨directory, name, vacant⟩ | found
  · left
    rw [textAt, readText, readBytes, walked, missing]
  · left
    rw [textAt, readText, readBytes, walked, vacant]
  · right
    rwa [walked]

/-! ## Bytes that are a text -/

/-- Whether the bytes of the file that a path leads to, if there is one, are a text. -/
def IsTextAt (tree : FileTree) (path : Path) : Prop :=
  ∀ bytes, tree.readBytes path = .ok bytes → bytes.IsValidUTF8

theorem isTextAt_of_textAt {existing : Option String} (read : tree.textAt path = .ok existing) :
    tree.IsTextAt path := by
  intro bytes found
  rw [textAt, readText, found] at read
  cases decoded : String.fromUTF8? bytes with
  | none => simp [decoded] at read
  | some text => exact isValidUTF8_iff.mpr ⟨text, fromUTF8?_eq_some_iff.mp decoded⟩

theorem IsTextAt.exists_textAt (isText : tree.IsTextAt path)
    (resolved : tree.resolve .look path = .ok (.found location (.file bytes) false)) :
    ∃ text, tree.textAt path = .ok (some text) := by
  have found := readBytes_eq_ok_iff.mpr ⟨location, resolved⟩
  rcases isValidUTF8_iff.mp (isText bytes found) with ⟨text, rfl⟩
  exact ⟨text, textAt_eq_some_iff_resolve.mpr ⟨location, resolved⟩⟩

/-- Whether the bytes of every file are a text. -/
def HoldsTexts (tree : FileTree) : Prop :=
  ∀ location bytes, tree.get? location = some (.file bytes) → bytes.IsValidUTF8

theorem HoldsTexts.isTextAt (holds : tree.HoldsTexts) (path : Path) : tree.IsTextAt path := by
  intro bytes found
  rcases readBytes_eq_ok_iff.mp found with ⟨location, resolved⟩
  exact holds location bytes (get?_of_resolve resolved)

theorem HoldsTexts.of_grows (holds : before.HoldsTexts) (grows : Grows before after written made)
    (texts : ∀ location, written location → ∀ bytes, after.get? location = some (.file bytes) →
      bytes.IsValidUTF8) : after.HoldsTexts := by
  intro location bytes there
  by_cases allowed : written location
  · exact texts location allowed bytes there
  · have development := grows location
    rw [there] at development
    generalize entry : before.get? location = occupant? at development
    cases development with
    | kept => exact holds location bytes entry
    | fileMade => contradiction
    | fileReplaced => contradiction

/-- Writing a text, whatever comes of it, leaves a tree of texts. -/
theorem HoldsTexts.of_writeCreating {text : String} {result : Except IoError Unit}
    (holds : tree.HoldsTexts)
    (ran : (Files.writeCreating path text : StateM FileTree _).run tree = (result, after)) :
    after.HoldsTexts := by
  rcases result with error | _
  · have grows : Grows tree after (fun _ => False) _ := grows_of_writeCreating_error ran
    exact holds.of_grows grows fun _ never => never.elim
  · rcases grows_of_writeCreating_ok ran with ⟨target, found, grows⟩
    refine holds.of_grows grows ?_
    rintro _ rfl bytes there
    rw [get?_of_resolve found, Option.some.injEq, Entry.file.injEq] at there
    exact isValidUTF8_iff.mpr ⟨text, there.symm⟩

end FileTree

/-! ## One file -/

namespace GeneratedFile

/-- A file that is written unless it is up to date could be written regardless, which gives
the same, and no bytes were found that are no text. -/
theorem exists_writeCreating_of_write {change : Change}
    (ran : (file.write root : StateM FileTree _).run tree = (.ok change, after)) :
    ∃ after', (Files.writeCreating (root.join file.path) file.content : StateM FileTree _).run
        tree = (.ok (), after') ∧
      tree.IsTextAt (root.join file.path) ∧ Alike after after' := by
  rw [run_write] at ran
  split at ran
  · cases ran
  · next existing read =>
    split at ran
    · next upToDate =>
      cases ran
      rcases textAt_eq_some_iff_resolve.mp (upToDate ▸ read) with ⟨location, resolved⟩
      rcases exists_writeCreating_of_resolve file.content resolved with
        ⟨after', wrote, there, grows⟩
      refine ⟨after', wrote, isTextAt_of_textAt read, fun other => ?_⟩
      by_cases here : other = location
      · rw [here, there, get?_of_resolve resolved]
      · exact ((grows other).eq_of_neither here not_false).symm
    · split at ran
      · cases ran
      · next wrote =>
        cases ran
        exact ⟨_, wrote, isTextAt_of_textAt read, .refl _⟩

/-- A file that can be written regardless is written unless it is up to date, if no bytes are
found that are no text. -/
theorem exists_write_of_writeCreating
    (wrote : (Files.writeCreating (root.join file.path) file.content : StateM FileTree _).run
      tree = (.ok (), after')) (isText : tree.IsTextAt (root.join file.path)) :
    ∃ change after, (file.write root : StateM FileTree _).run tree = (.ok change, after) := by
  obtain ⟨existing, read⟩ : ∃ existing, tree.textAt (root.join file.path) = .ok existing := by
    rcases grows_of_writeCreating_ok wrote with ⟨location, found, grows⟩
    rcases textAt_before_grows grows found with nothing | ⟨old, resolved⟩
    · exact ⟨none, nothing⟩
    · rcases isText.exists_textAt resolved with ⟨text, read⟩
      exact ⟨some text, read⟩
  rw [run_write, read, wrote]
  simp only
  split
  · exact ⟨_, _, rfl⟩
  · exact ⟨_, _, rfl⟩

end GeneratedFile

/-! ## All files -/

/-- Write files below a directory, whatever is there, up to the first failure. -/
def writeRegardless {m : Type → Type} [Monad m] [Files m] (root : Path) :
    List GeneratedFile → m (Except IoError Unit)
  | [] => return .ok ()
  | file :: rest => do
      match ← Files.writeCreating (root.join file.path) file.content with
      | .error error => return .error error
      | .ok () => writeRegardless root rest

theorem run_writeRegardless_cons (root : Path) (file : GeneratedFile) (rest : List GeneratedFile)
    (tree : FileTree) :
    (writeRegardless root (file :: rest) : StateM FileTree _).run tree =
      match (Files.writeCreating (root.join file.path) file.content : StateM FileTree _).run tree
      with
      | (.error error, after) => (.error error, after)
      | (.ok (), after) => (writeRegardless root rest : StateM FileTree _).run after := by
  rw [writeRegardless]
  rcases ran : (Files.writeCreating (root.join file.path) file.content :
    StateM FileTree _).run tree with ⟨result, after⟩
  rw [run_bind ran]
  cases result <;> rfl

theorem respects_writeRegardless (root : Path) (files : List GeneratedFile) :
    Respects (writeRegardless root files) := by
  induction files with
  | nil => exact .pure _
  | cons file rest ih =>
      refine (Respects.writeCreating _ _).bind fun wrote => ?_
      rcases wrote with error | _
      · exact .pure _
      · exact ih

/-- Whether no file, when its turn comes to be written regardless, is found to hold bytes that
are no text. -/
def FindsTexts (tree : FileTree) (root : Path) (files : List GeneratedFile) : Prop :=
  ∀ front file back, files = front ++ file :: back →
    ((writeRegardless root front : StateM FileTree _).run tree).2.IsTextAt (root.join file.path)

theorem findsTexts_cons {rest : List GeneratedFile}
    (wrote : (Files.writeCreating (root.join file.path) file.content : StateM FileTree _).run
      tree = (.ok (), after)) :
    FindsTexts tree root (file :: rest) ↔
      tree.IsTextAt (root.join file.path) ∧ FindsTexts after root rest := by
  constructor
  · intro finds
    refine ⟨finds [] file rest rfl, fun front other back split => ?_⟩
    have later := finds (file :: front) other back (by rw [split, List.cons_append])
    rwa [run_writeRegardless_cons, wrote] at later
  · rintro ⟨here, later⟩ front other back split
    cases front with
    | nil =>
        obtain ⟨rfl, _⟩ := List.cons.inj split
        exact here
    | cons first front =>
        obtain ⟨rfl, rest_eq⟩ := List.cons.inj split
        rw [run_writeRegardless_cons, wrote]
        exact later front other back rest_eq

theorem FindsTexts.of_alike (finds : FindsTexts before root files)
    (alike : Alike before after) : FindsTexts after root files := by
  intro front file back split bytes found
  apply finds front file back split
  rwa [(respects_writeRegardless root front before after alike).2.readBytes_eq]

/-- In a tree of texts no other bytes are found. -/
theorem findsTexts_of_holdsTexts (holds : tree.HoldsTexts) : FindsTexts tree root files := by
  intro front file back _
  apply HoldsTexts.isTextAt
  clear * - holds
  induction front generalizing tree with
  | nil => exact holds
  | cons file rest ih =>
      rw [run_writeRegardless_cons]
      split
      · next wrote => exact holds.of_writeCreating wrote
      · next wrote => exact ih (holds.of_writeCreating wrote)

/-- Files that have been written could all be written regardless. -/
theorem exists_writeRegardless_of_written {report : WriteReport}
    (ran : (writeGenerated root files : StateM FileTree _).run tree = (report, after))
    (succeeded : report.failure = none) :
    ∃ after', (writeRegardless root files : StateM FileTree _).run tree = (.ok (), after') ∧
      FindsTexts tree root files ∧ Alike after after' := by
  induction files generalizing tree report with
  | nil =>
      cases ran
      exact ⟨_, rfl, by simp [FindsTexts], .refl _⟩
  | cons file rest ih =>
      rcases exists_of_writeGenerated_cons ran succeeded with
        ⟨change, middle, restReport, first, later, restSucceeded, rfl⟩
      rcases GeneratedFile.exists_writeCreating_of_write first with
        ⟨middle', wrote, isText, alike⟩
      rcases ih later restSucceeded with ⟨last, regardless, finds, same⟩
      -- The rest is written regardless from a tree that is only alike.
      rcases (respects_writeRegardless root rest).exists_run alike regardless with
        ⟨last', regardless', same'⟩
      refine ⟨last', ?_, (findsTexts_cons wrote).mpr ⟨isText, finds.of_alike alike⟩,
        same.trans same'⟩
      rw [run_writeRegardless_cons, wrote]
      exact regardless'

/-- Files that can be written regardless are written, if no bytes are found that are no text. -/
theorem failure_eq_none_of_writeRegardless
    (ran : (writeRegardless root files : StateM FileTree _).run tree = (.ok (), after'))
    (finds : FindsTexts tree root files) :
    ((writeGenerated root files : StateM FileTree _).run tree).1.failure = none := by
  induction files generalizing tree after' with
  | nil => rfl
  | cons file rest ih =>
      rw [run_writeRegardless_cons] at ran
      split at ran
      · cases ran
      · next middle' wrote =>
        rcases (findsTexts_cons wrote).mp finds with ⟨isText, later⟩
        rcases GeneratedFile.exists_write_of_writeCreating wrote isText with
          ⟨change, middle, first⟩
        rcases GeneratedFile.exists_writeCreating_of_write first with ⟨_, wrote', _, alike⟩
        obtain rfl : middle' = _ := (Prod.mk.inj (wrote.symm.trans wrote')).2
        rcases (respects_writeRegardless root rest).exists_run alike.symm ran with
          ⟨_, regardless, _⟩
        rw [run_writeGenerated_cons, first]
        exact ih regardless (later.of_alike alike.symm)

/-- Files are written exactly if all of them can be written regardless of what is there, and no
file is found, when its turn comes, that holds bytes other than a text.  Then the same is at
every location in the end.  No such file is found in a tree that holds only texts. -/
theorem written_iff_written_over {report : WriteReport} {result : Except IoError Unit}
    (ran : (writeGenerated root files : StateM FileTree _).run tree = (report, after))
    (ran' : (writeRegardless root files : StateM FileTree _).run tree = (result, after')) :
    ((∃ summary, report.outcome = .ok summary) ↔ result = .ok () ∧ FindsTexts tree root files) ∧
      ((∃ summary, report.outcome = .ok summary) →
        ∀ location, after.get? location = after'.get? location) ∧
      (tree.HoldsTexts → FindsTexts tree root files) := by
  rw [WriteReport.exists_outcome_eq_ok_iff]
  refine ⟨⟨fun succeeded => ?_, ?_⟩, fun succeeded => ?_, findsTexts_of_holdsTexts⟩
  · rcases exists_writeRegardless_of_written ran succeeded with ⟨_, regardless, finds, _⟩
    exact ⟨(Prod.mk.inj (ran'.symm.trans regardless)).1, finds⟩
  · rintro ⟨rfl, finds⟩
    have written := failure_eq_none_of_writeRegardless ran' finds
    rwa [ran] at written
  · rcases exists_writeRegardless_of_written ran succeeded with ⟨_, regardless, _, alike⟩
    obtain rfl : after' = _ := (Prod.mk.inj (ran'.symm.trans regardless)).2
    exact alike

/-- A file that is left alone can as well be written again. -/
theorem written_over_below_shelf :
    ((writeRegardless ⟨"/s"⟩ shelfFiles : StateM FileTree _).run shelfTree).1 = .ok () ∧
      ∀ location,
        ((writeGenerated ⟨"/s"⟩ shelfFiles : StateM FileTree _).run shelfTree).2.get? location =
          ((writeRegardless ⟨"/s"⟩ shelfFiles : StateM FileTree _).run shelfTree).2.get?
            location := by
  have succeeded := outcome_shelfFiles
  rcases ran : (writeGenerated ⟨"/s"⟩ shelfFiles : StateM FileTree _).run shelfTree
    with ⟨report, after⟩
  rcases ran' : (writeRegardless ⟨"/s"⟩ shelfFiles : StateM FileTree _).run shelfTree
    with ⟨result, after'⟩
  rw [ran] at succeeded
  rcases written_iff_written_over ran ran' with ⟨written, same, _⟩
  exact ⟨(written.mp ⟨_, succeeded⟩).1, same ⟨_, succeeded⟩⟩

/-- Bytes that are no text stay where they are, although they could be written over. -/
theorem not_written_over_raw :
    ((writeGenerated ⟨"/s"⟩ [⟨⟨"raw"⟩, "4"⟩] : StateM FileTree _).run shelfTree).1.outcome =
        .error ⟨⟨"/s/raw"⟩, .notText⟩ ∧
      ((writeGenerated ⟨"/s"⟩ [⟨⟨"raw"⟩, "4"⟩] : StateM FileTree _).run shelfTree).2.get?
        ["raw", "s"] = some (.file ⟨#[255]⟩) ∧
      ((writeRegardless ⟨"/s"⟩ [⟨⟨"raw"⟩, "4"⟩] : StateM FileTree _).run shelfTree).1 = .ok () ∧
      ((writeRegardless ⟨"/s"⟩ [⟨⟨"raw"⟩, "4"⟩] : StateM FileTree _).run shelfTree).2.get?
        ["raw", "s"] = some (.file "4".toUTF8) := by
  refine ⟨?_, ?_, ?_, ?_⟩ <;> decide +kernel

end Inset
