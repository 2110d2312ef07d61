import Inset.Proofs.FileTree.Planting
import Inset.Proofs.Generated.Containment

/-!
# When generated files can be written

A file goes where its path descends to if no file stands above that location and nothing
or another text is in its place.  Each file that is written changes this for the others:
they must not go above or below it.  So a list of files can be written exactly if every
one could be written alone and no two are nested (`failure_writeGenerated_eq_none_iff`).
-/

namespace Inset

open FileTree

variable {tree after : FileTree} {root path : Path} {target : Location}

namespace FileTree

/-- Whether a file can be put at a location: no file stands above it, and nothing or a text
is there. -/
structure TakesFile (tree : FileTree) (target : Location) : Prop where
  clear : ∀ outer : Location, outer.Encloses target → ∀ bytes, tree.get? outer ≠ some (.file bytes)
  free : tree.get? target = none ∨ ∃ text : String, tree.get? target = some (.file text.toUTF8)

/-- Whether a path descends to a location below some directory. -/
def DescendsTo (tree : FileTree) (path : Path) (target : Location) : Prop :=
  ∃ start steps name, tree.Descends path start (steps ++ [name]) ∧
    name :: (steps.reverse ++ start) = target

/-- A file in the way is a file above the target. -/
theorem Descends.isBlocked_iff {start : Location} {steps : List String} {name : String}
    (descends : tree.Descends path start (steps ++ [name])) :
    tree.IsBlocked start steps ↔
      ∃ outer : Location, outer.Encloses (name :: (steps.reverse ++ start)) ∧
        ∃ bytes, tree.get? outer = some (.file bytes) := by
  constructor
  · rintro ⟨front, ⟨back, rfl⟩, bytes, file⟩
    refine ⟨front.reverse ++ start, ⟨?_, ?_⟩, bytes, file⟩
    · rw [List.reverse_append, List.append_assoc, ← List.cons_append]
      exact List.suffix_append _ _
    · intro same
      have length := congrArg List.length same
      simp at length
      omega
  · rintro ⟨outer, ⟨above, strict⟩, bytes, file⟩
    have higher : outer <:+ steps.reverse ++ start :=
      (List.suffix_cons_iff.mp above).resolve_left strict
    rcases List.suffix_or_suffix_of_suffix higher (List.suffix_append steps.reverse start) with
      aboveStart | ⟨mid, rfl⟩
    · -- Everything above the start is a directory.
      have isDirectory : tree.get? outer = some .directory := by
        by_cases same : outer = start
        · rw [same]
          exact descends.isDirectory_start
        · exact get?_of_suffix aboveStart same (by simp [descends.isDirectory_start])
      simp [isDirectory] at file
    · rcases higher with ⟨back, split⟩
      rw [← List.append_assoc, List.append_cancel_right_eq] at split
      have steps_eq : steps = mid.reverse ++ back.reverse := by
        rw [← List.reverse_append, split, List.reverse_reverse]
      refine ⟨mid.reverse, steps_eq ▸ List.prefix_append _ _, bytes, ?_⟩
      rwa [List.reverse_reverse]

/-- Where a file can be put, none is in the way. -/
theorem Descends.not_isBlocked {start : Location} {steps : List String} {name : String}
    (descends : tree.Descends path start (steps ++ [name]))
    (takesFile : tree.TakesFile (name :: (steps.reverse ++ start))) :
    ¬tree.IsBlocked start steps := by
  rw [descends.isBlocked_iff]
  rintro ⟨outer, encloses, bytes, file⟩
  exact takesFile.clear outer encloses bytes file

namespace DescendsTo

theorem of_grows {before : FileTree} {written made : Location → Prop}
    (descendsTo : before.DescendsTo path target) (grows : Grows before after written made) :
    after.DescendsTo path target := by
  rcases descendsTo with ⟨start, steps, name, descends, here⟩
  exact ⟨start, steps, name, descends.of_grows grows, here⟩

/-- Where a file can be put, what is there can be read. -/
theorem textAt_of_takesFile (descendsTo : tree.DescendsTo path target)
    (takesFile : tree.TakesFile target) :
    tree.textAt path = .ok none ∧ tree.get? target = none ∨
      ∃ text, tree.textAt path = .ok (some text) ∧
        tree.get? target = some (.file text.toUTF8) := by
  rcases descendsTo with ⟨start, steps, name, descends, rfl⟩
  have clear := descends.not_isBlocked takesFile
  rcases descends.parent_cases clear with parent | missing
  · have resolved := descends.resolve_eq_ok parent .look
    rcases takesFile.free with vacant | ⟨text, there⟩
    · rw [vacant] at resolved
      left
      constructor
      · rw [textAt, readText, readBytes, resolved]
        rfl
      · exact vacant
    · rw [there] at resolved
      exact .inr ⟨text, textAt_eq_some_iff_resolve.mpr ⟨_, resolved⟩, there⟩
  · left
    constructor
    · rw [textAt, readText, readBytes, descends.resolve_of_none clear missing]
    · by_contra present
      have parent := get?_tail (Option.isSome_iff_ne_none.mpr present)
      simp [missing] at parent

/-- Where what is there can be read, a file can be put. -/
theorem takesFile_of_textAt (descendsTo : tree.DescendsTo path target)
    {existing : Option String} (read : tree.textAt path = .ok existing) :
    tree.TakesFile target := by
  rcases descendsTo with ⟨start, steps, name, descends, rfl⟩
  have clear : ¬tree.IsBlocked start steps := by
    intro blocked
    rw [textAt, readText, readBytes, descends.resolve_of_isBlocked blocked] at read
    cases read
  refine ⟨fun outer encloses bytes file => clear (descends.isBlocked_iff.mpr
    ⟨outer, encloses, bytes, file⟩), ?_⟩
  rcases descends.parent_cases clear with parent | missing
  · have resolved := descends.resolve_eq_ok parent .look
    cases there : tree.get? (name :: (steps.reverse ++ start)) with
    | none => exact .inl rfl
    | some entry =>
        rw [there] at resolved
        cases entry with
        | directory =>
            rw [textAt, readText, readBytes, resolved] at read
            cases read
        | link goal =>
            rw [textAt, readText, readBytes, resolved] at read
            cases read
        | file bytes =>
            cases existing with
            | none =>
                rw [textAt_eq_none_iff (location?_eq_some resolved)] at read
                exact .inl (there ▸ read)
            | some text =>
                rcases textAt_eq_some_iff_resolve.mp read with ⟨location, resolved'⟩
                rw [resolved] at resolved'
                cases resolved'
                exact .inr ⟨text, rfl⟩
  · left
    by_contra present
    have parent := get?_tail (Option.isSome_iff_ne_none.mpr present)
    simp [missing] at parent

end DescendsTo

/-- After a file has been planted, another one can be put where it could be before, unless
one of them lies above the other. -/
theorem takesFile_of_planted_iff {text : String} {other : Location}
    (takesFile : tree.TakesFile target)
    (planted : tree.Planted after target (.file text.toUTF8)) :
    after.TakesFile other ↔
      tree.TakesFile other ∧ ¬target.Encloses other ∧ ¬other.Encloses target := by
  have elsewhere {location : Location} (outside : ¬location.Encloses target)
      (apart : location ≠ target) : after.get? location = tree.get? location :=
    planted.get?_of_not_suffix fun above => outside ⟨above, apart⟩
  have aboveTarget {location : Location} (above : location.Encloses target) :
      after.get? location = some .directory := by
    rw [planted, if_neg above.2, if_pos above.1]
  constructor
  · intro later
    have notBelow : ¬target.Encloses other := fun below =>
      later.clear target below _ planted.get?_target
    have notAbove : ¬other.Encloses target := by
      intro above
      rcases later.free with vacant | ⟨content, file⟩
      · simp [aboveTarget above] at vacant
      · simp [aboveTarget above] at file
    refine ⟨⟨?_, ?_⟩, notBelow, notAbove⟩
    · intro outer encloses bytes file
      by_cases above : outer.Encloses target
      · exact takesFile.clear outer above bytes file
      · have apart : outer ≠ target := by
          rintro rfl
          exact notBelow encloses
        exact later.clear outer encloses bytes ((elsewhere above apart).trans file)
    · by_cases same : other = target
      · rw [same]
        exact takesFile.free
      · rw [← elsewhere notAbove same]
        exact later.free
  · rintro ⟨earlier, notBelow, notAbove⟩
    constructor
    · intro outer encloses bytes file
      by_cases above : outer.Encloses target
      · simp [aboveTarget above] at file
      · have apart : outer ≠ target := by
          rintro rfl
          exact notBelow encloses
        exact earlier.clear outer encloses bytes ((elsewhere above apart).symm.trans file)
    · by_cases same : other = target
      · rw [same]
        exact .inr ⟨text, planted.get?_target⟩
      · rw [elsewhere notAbove same]
        exact earlier.free

end FileTree

/-! ## One file -/

namespace GeneratedFile

variable {file : GeneratedFile}

/-- A file is written, or up to date, where it can be put, and it is planted there. -/
theorem exists_write_of_takesFile (descendsTo : tree.DescendsTo (root.join file.path) target)
    (takesFile : tree.TakesFile target) :
    ∃ change after, (file.write root : StateM FileTree _).run tree = (.ok change, after) ∧
      tree.Planted after target (.file file.content.toUTF8) := by
  rw [run_write]
  have read := descendsTo.textAt_of_takesFile takesFile
  rcases descendsTo with ⟨start, steps, name, descends, rfl⟩
  have clear := descends.not_isBlocked takesFile
  have writable : tree.get? (name :: (steps.reverse ++ start)) = none ∨
      ∃ bytes, tree.get? (name :: (steps.reverse ++ start)) = some (.file bytes) :=
    takesFile.free.imp_right fun ⟨_, there⟩ => ⟨_, there⟩
  rcases descends.exists_writeCreating clear writable file.content with ⟨after, wrote, planted⟩
  rcases read with ⟨nothing, _⟩ | ⟨text, found, there⟩
  · rw [nothing]
    simp only [reduceCtorEq, if_false, wrote]
    exact ⟨_, after, rfl, planted⟩
  · rw [found]
    simp only [Option.some.injEq]
    split
    · next upToDate =>
      rw [upToDate] at there
      exact ⟨_, tree, rfl, planted_self there⟩
    · rw [wrote]
      exact ⟨_, after, rfl, planted⟩

/-- A file that is written, or up to date, could be put there, and it has been planted. -/
theorem takesFile_of_write (descendsTo : tree.DescendsTo (root.join file.path) target)
    {change : Change}
    (ran : (file.write root : StateM FileTree _).run tree = (.ok change, after)) :
    tree.TakesFile target ∧ tree.Planted after target (.file file.content.toUTF8) := by
  have takesFile : tree.TakesFile target := by
    rw [run_write] at ran
    split at ran
    · cases ran
    · next read => exact descendsTo.takesFile_of_textAt read
  rcases exists_write_of_takesFile descendsTo takesFile with ⟨change', after', ran', planted⟩
  rw [ran] at ran'
  cases ran'
  exact ⟨takesFile, planted⟩

end GeneratedFile

/-! ## A list of files -/

/-- Files whose paths descend are all written exactly if each of them could be written alone
and none goes below another. -/
theorem failure_writeGenerated_eq_none_iff {files : List GeneratedFile}
    {place : GeneratedFile → Location}
    (descendsTo : ∀ file ∈ files, tree.DescendsTo (root.join file.path) (place file)) :
    ((writeGenerated root files : StateM FileTree _).run tree).1.failure = none ↔
      (∀ file ∈ files, tree.TakesFile (place file)) ∧
        ∀ first ∈ files, ∀ second ∈ files, ¬(place first).Encloses (place second) := by
  induction files generalizing tree with
  | nil => exact iff_of_true rfl (by simp)
  | cons file rest ih =>
      rw [List.forall_mem_cons] at descendsTo
      rw [run_writeGenerated_cons]
      rcases ran : (file.write root : StateM FileTree _).run tree with ⟨result, after⟩
      cases result with
      | error error =>
          constructor
          · intro succeeded
            cases succeeded
          · rintro ⟨takesFile, _⟩
            rcases GeneratedFile.exists_write_of_takesFile descendsTo.1
              (takesFile file List.mem_cons_self) with ⟨change, after', ran', _⟩
            rw [ran] at ran'
            cases ran'
      | ok change =>
          rcases GeneratedFile.takesFile_of_write descendsTo.1 ran with ⟨takesFile, planted⟩
          rcases GeneratedFile.grows_of_write_ok ran with ⟨_, _, grows⟩
          have later (other : GeneratedFile) (member : other ∈ rest) :
              after.DescendsTo (root.join other.path) (place other) :=
            (descendsTo.2 other member).of_grows grows
          have step (other : GeneratedFile) : after.TakesFile (place other) ↔ _ :=
            takesFile_of_planted_iff takesFile planted
          have irrefl : ¬(place file).Encloses (place file) := fun encloses => encloses.2 rfl
          change ((writeGenerated root rest : StateM FileTree _).run after).1.failure = none ↔ _
          rw [ih later]
          simp only [step, List.forall_mem_cons]
          constructor
          · rintro ⟨takesRest, apart⟩
            exact ⟨⟨takesFile, fun other member => (takesRest other member).1⟩,
              ⟨irrefl, fun other member => (takesRest other member).2.1⟩,
              fun other member => ⟨(takesRest other member).2.2, apart other member⟩⟩
          · rintro ⟨⟨_, takesRest⟩, ⟨_, below⟩, above⟩
            exact ⟨fun other member => ⟨takesRest other member, below other member,
              (above other member).1⟩, fun other member => (above other member).2⟩

end Inset
