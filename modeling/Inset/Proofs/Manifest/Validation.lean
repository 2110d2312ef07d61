import Inset.Manifest.Validation

/-!
# What accepted manifests satisfy

A check goes through *requirements* in a fixed order, and reports the error that belongs to
the first one that fails (`ChecksInOrder`).  The requirements of a manifest compare every
host with all hosts before it, whereas an acceptable manifest is described without any
order, and yet a manifest is accepted exactly if it is acceptable
(`Manifest.validate_eq_ok_iff`).  Its paths name files: they are relative, and cleaned
they are more than the current directory.
-/

namespace Inset

/-! ## Requirements -/

/-- A condition, and the error that is reported if it is the first that fails. -/
structure Requirement where
  holds : Prop
  error : ConfigurationError

/-- A check goes through requirements in order, up to the first that fails. -/
inductive ChecksInOrder : List Requirement → Check → Prop
  | passed : ChecksInOrder [] (.ok ())
  | next {requirement : Requirement} {rest : List Requirement} {check : Check}
      (holds : requirement.holds) (later : ChecksInOrder rest check) :
      ChecksInOrder (requirement :: rest) check
  | failed {requirement : Requirement} {rest : List Requirement}
      (fails : ¬requirement.holds) :
      ChecksInOrder (requirement :: rest) (.error requirement.error)

namespace ChecksInOrder

variable {requirement : Requirement} {rest : List Requirement}

/-- One check after another goes through the requirements of both. -/
theorem bind {front back : List Requirement} {first : Check} {next : Unit → Check}
    (earlier : ChecksInOrder front first) (later : ChecksInOrder back (next ())) :
    ChecksInOrder (front ++ back) (first >>= next) := by
  induction earlier with
  | passed => exact later
  | next holds _ ih => exact .next holds ih
  | failed fails => exact .failed fails

/-- A branch on the opposite of a requirement. -/
theorem ite {fault : Prop} [Decidable fault] {check : Check}
    (agrees : requirement.holds ↔ ¬fault) (later : ChecksInOrder rest check) :
    ChecksInOrder (requirement :: rest)
      (if fault then .error requirement.error else check) := by
  split
  · next found => exact .failed fun holds => agrees.mp holds found
  · next absent => exact .next (agrees.mpr absent) later

/-- A guard in front of a check. -/
theorem guard {fault : Prop} [Decidable fault] {next : Unit → Check}
    (agrees : requirement.holds ↔ ¬fault) (later : ChecksInOrder rest (next ())) :
    ChecksInOrder (requirement :: rest)
      (if fault then Except.error requirement.error >>= next else next ()) :=
  ite agrees later

theorem eq_ok_iff {requirements : List Requirement} {check : Check}
    (inOrder : ChecksInOrder requirements check) :
    check = .ok () ↔ ∀ requirement ∈ requirements, requirement.holds := by
  induction inOrder with
  | passed => simp
  | next holds _ ih => simp [holds, ih]
  | failed fails => simp [fails]

theorem eq_error_iff {requirements : List Requirement} {check : Check}
    (inOrder : ChecksInOrder requirements check) (error : ConfigurationError) :
    check = .error error ↔
      ∃ front requirement back, requirements = front ++ requirement :: back ∧
        (∀ met ∈ front, met.holds) ∧ ¬requirement.holds ∧ requirement.error = error := by
  induction inOrder with
  | passed => simp
  | @next first rest check holds later ih =>
      rw [ih]
      constructor
      · rintro ⟨front, requirement, back, rfl, met, fails⟩
        exact ⟨first :: front, requirement, back, rfl,
          List.forall_mem_cons.mpr ⟨holds, met⟩, fails⟩
      · rintro ⟨front, requirement, back, split, met, fails⟩
        cases front with
        | nil =>
            obtain ⟨rfl, _⟩ := List.cons.inj split
            exact absurd holds fails.1
        | cons other front =>
            obtain ⟨_, rfl⟩ := List.cons.inj split
            exact ⟨front, requirement, back, rfl, (List.forall_mem_cons.mp met).2, fails⟩
  | @failed first rest fails =>
      constructor
      · intro reported
        exact ⟨[], first, rest, rfl, by simp, fails, Except.error.inj reported⟩
      · rintro ⟨front, requirement, back, split, met, _, rfl⟩
        cases front with
        | nil =>
            obtain ⟨rfl, _⟩ := List.cons.inj split
            rfl
        | cons other front =>
            obtain ⟨rfl, _⟩ := List.cons.inj split
            exact absurd (List.forall_mem_cons.mp met).1 fails

end ChecksInOrder

/-! ## Fields -/

/-- Whether a text holds a character besides white space. -/
def IsVisible (text : String) : Prop :=
  ∃ c ∈ text.toList, Text.isBlankChar c = false

/-- What is required of a text. -/
def textRequirement (place : Place) (field text : String) : Requirement :=
  ⟨IsVisible text, .empty place field⟩

theorem checkText_inOrder (place : Place) (field text : String) :
    ChecksInOrder [textRequirement place field text] (checkText place field text) := by
  apply ChecksInOrder.ite _ .passed
  simp [textRequirement, IsVisible, Text.isBlank_iff]

/-- What is required of a path. -/
def pathRequirements (place : Place) (field : String) (path : Path) : List Requirement :=
  [⟨path.text ≠ "", .empty place field⟩,
    ⟨path.isRooted = false, .notRelative place field path⟩,
    ⟨path.clean ≠ ⟨"."⟩, .notFile place field path⟩]

theorem checkPath_inOrder (place : Place) (field : String) (path : Path) :
    ChecksInOrder (pathRequirements place field path) (checkPath place field path) :=
  .ite Iff.rfl (.ite (by simp) (.ite Iff.rfl .passed))

/-! ## Hosts and languages -/

/-- What is required of the fields of a host. -/
def HostEntry.fieldRequirements (index : Nat) (entry : HostEntry) : List Requirement :=
  [textRequirement (.host index) "vsname" entry.id,
    textRequirement (.host index) "embedded_scope" entry.scope] ++
  pathRequirements (.host index) "output" entry.output ++
  [⟨∀ scopes, entry.injectTo = some scopes → "" ∉ scopes, .empty (.host index) "inject_to"⟩]

theorem HostEntry.check_inOrder (index : Nat) (entry : HostEntry) :
    ChecksInOrder (entry.fieldRequirements index) (entry.check index) := by
  apply (checkText_inOrder _ _ _).bind
  apply (checkText_inOrder _ _ _).bind
  apply (checkPath_inOrder _ _ _).bind
  apply ChecksInOrder.ite _ .passed
  simp [Option.any_eq_true]

/-- What is required of a host that comes after others. -/
def HostEntry.requirements (before : List HostEntry) (index : Nat) (entry : HostEntry) :
    List Requirement :=
  entry.fieldRequirements index ++
  [⟨∀ earlier ∈ before, earlier.id ≠ entry.id, .duplicateId entry.id⟩,
    ⟨∀ earlier ∈ before, earlier.output.clean ≠ entry.output.clean,
      .duplicateOutput entry.output⟩]

/-- What is required of the hosts of a manifest, each compared with those before it. -/
def hostRequirements (hosts : List HostEntry) : List Requirement :=
  hosts.zipIdx.flatMap fun listed => listed.1.requirements (hosts.take listed.2) listed.2

/-- The hosts that have been checked are those at the beginning of the list. -/
theorem checkHosts_inOrder {before front : List HostEntry} (rest : List HostEntry)
    (same : ∀ entry, entry ∈ before ↔ entry ∈ front) :
    ChecksInOrder
      ((rest.zipIdx front.length).flatMap fun listed =>
        listed.1.requirements ((front ++ rest).take listed.2) listed.2)
      (checkHosts before front.length rest) := by
  induction rest generalizing before front with
  | nil => exact .passed
  | cons entry rest ih =>
      have same' (other : HostEntry) : other ∈ entry :: before ↔ other ∈ front ++ [entry] := by
        simp [same, or_comm]
      have later := ih same'
      rw [List.length_append, List.length_singleton, List.append_assoc,
        List.singleton_append] at later
      rw [List.zipIdx_cons, List.flatMap_cons, List.take_left, HostEntry.requirements,
        List.append_assoc]
      apply (entry.check_inOrder front.length).bind
      apply ChecksInOrder.guard
      · simp [same]
      · apply ChecksInOrder.guard _ later
        simp [same]

/-- What is required of an embedded language. -/
def Embedded.requirements (index : Nat) (language : Embedded) : List Requirement :=
  [textRequirement (.embedded index) "name" language.name,
    textRequirement (.embedded index) "id_choice_re" language.tags,
    textRequirement (.embedded index) "vsname" language.id,
    textRequirement (.embedded index) "root_scope" language.rootScope]

theorem Embedded.check_inOrder (index : Nat) (language : Embedded) :
    ChecksInOrder (language.requirements index) (language.check index) :=
  (checkText_inOrder _ _ _).bind ((checkText_inOrder _ _ _).bind
    ((checkText_inOrder _ _ _).bind (checkText_inOrder _ _ _)))

/-- What is required of the embedded languages of a manifest. -/
def embeddedRequirements (languages : List Embedded) : List Requirement :=
  languages.zipIdx.flatMap fun listed => listed.1.requirements listed.2

theorem checkEmbedded_inOrder (index : Nat) (languages : List Embedded) :
    ChecksInOrder
      ((languages.zipIdx index).flatMap fun listed => listed.1.requirements listed.2)
      (checkEmbedded index languages) := by
  induction languages generalizing index with
  | nil => exact .passed
  | cons language rest ih =>
      rw [List.zipIdx_cons, List.flatMap_cons]
      exact (language.check_inOrder index).bind (ih (index + 1))

/-! ## Manifests -/

/-- What is required of the path of the fragment. -/
def contributesRequirements (hosts : List HostEntry) (path : Path) : List Requirement :=
  pathRequirements .manifest "contributes" path ++
  [⟨∀ entry ∈ hosts, entry.output.clean ≠ path.clean, .contributesIsOutput path⟩]

theorem checkContributes_inOrder (hosts : List HostEntry) (path : Path) :
    ChecksInOrder (contributesRequirements hosts path) (checkContributes hosts path) := by
  apply (checkPath_inOrder _ _ _).bind
  apply ChecksInOrder.ite _ .passed
  simp

/-- What is required of a manifest, in the order in which it is checked. -/
def Manifest.requirements (manifest : Manifest) : List Requirement :=
  ⟨manifest.hosts ≠ [], .noHosts⟩ :: (hostRequirements manifest.hosts ++
    (manifest.contributes.toList.flatMap (contributesRequirements manifest.hosts) ++
      embeddedRequirements manifest.embedded))

theorem Manifest.validate_inOrder (manifest : Manifest) :
    ChecksInOrder manifest.requirements manifest.validate := by
  have hosts : ChecksInOrder (hostRequirements manifest.hosts)
      (checkHosts [] 0 manifest.hosts) := by
    have none (entry : HostEntry) : entry ∈ [] ↔ entry ∈ [] := Iff.rfl
    exact checkHosts_inOrder manifest.hosts none
  rw [requirements, validate]
  apply ChecksInOrder.guard
  · simp
  apply hosts.bind
  cases given : manifest.contributes with
  | none => exact ChecksInOrder.bind .passed (checkEmbedded_inOrder 0 manifest.embedded)
  | some path =>
      rw [Option.toList_some, List.flatMap_singleton]
      exact (checkContributes_inOrder manifest.hosts path).bind
        (checkEmbedded_inOrder 0 manifest.embedded)

/-! ## Acceptable manifests -/

/-- Whether a path names a file, seen from the directory of a manifest. -/
structure Path.NamesFile (path : Path) : Prop where
  nonempty : path.text ≠ ""
  relative : path.isRooted = false
  notCurrent : path.clean ≠ ⟨"."⟩

/-- Whether a host can be accepted on its own. -/
structure HostEntry.IsAcceptable (entry : HostEntry) : Prop where
  id : IsVisible entry.id
  scope : IsVisible entry.scope
  output : entry.output.NamesFile
  injectTo : ∀ scopes, entry.injectTo = some scopes → "" ∉ scopes

/-- Whether an embedded language can be accepted. -/
structure Embedded.IsAcceptable (language : Embedded) : Prop where
  name : IsVisible language.name
  tags : IsVisible language.tags
  id : IsVisible language.id
  rootScope : IsVisible language.rootScope

/-- Whether a manifest can be accepted: it has hosts, all its parts can be accepted on
their own, no two hosts share an identifier or a file, and the fragment shares its file
with no host. -/
structure Manifest.IsAcceptable (manifest : Manifest) : Prop where
  nonempty : manifest.hosts ≠ []
  hosts : ∀ entry ∈ manifest.hosts, entry.IsAcceptable
  ids : manifest.hosts.Pairwise fun first second => first.id ≠ second.id
  outputs : manifest.hosts.Pairwise fun first second => first.output.clean ≠ second.output.clean
  contributes : ∀ path, manifest.contributes = some path →
    path.NamesFile ∧ ∀ entry ∈ manifest.hosts, entry.output.clean ≠ path.clean
  embedded : ∀ language ∈ manifest.embedded, language.IsAcceptable

theorem forall_pathRequirements {place : Place} {field : String} {path : Path} :
    (∀ requirement ∈ pathRequirements place field path, requirement.holds) ↔
      path.NamesFile := by
  simp only [pathRequirements, List.forall_mem_cons, List.not_mem_nil, false_implies,
    implies_true, and_true]
  exact ⟨fun ⟨nonempty, relative, notCurrent⟩ => ⟨nonempty, relative, notCurrent⟩,
    fun named => ⟨named.nonempty, named.relative, named.notCurrent⟩⟩

theorem HostEntry.forall_requirements {before : List HostEntry} {index : Nat}
    {entry : HostEntry} :
    (∀ requirement ∈ entry.requirements before index, requirement.holds) ↔
      entry.IsAcceptable ∧ (∀ earlier ∈ before, earlier.id ≠ entry.id) ∧
        ∀ earlier ∈ before, earlier.output.clean ≠ entry.output.clean := by
  simp only [requirements, fieldRequirements, List.forall_mem_append, List.forall_mem_cons,
    forall_pathRequirements, textRequirement, List.not_mem_nil, false_implies, implies_true,
    and_true]
  constructor
  · rintro ⟨⟨⟨⟨id, scope⟩, output⟩, injectTo⟩, distinct⟩
    exact ⟨⟨id, scope, output, injectTo⟩, distinct⟩
  · rintro ⟨own, distinct⟩
    exact ⟨⟨⟨⟨own.id, own.scope⟩, own.output⟩, own.injectTo⟩, distinct⟩

theorem Embedded.forall_requirements {index : Nat} {language : Embedded} :
    (∀ requirement ∈ language.requirements index, requirement.holds) ↔
      language.IsAcceptable := by
  simp only [requirements, List.forall_mem_cons, textRequirement, List.not_mem_nil,
    false_implies, implies_true, and_true]
  exact ⟨fun ⟨name, tags, id, rootScope⟩ => ⟨name, tags, id, rootScope⟩,
    fun own => ⟨own.name, own.tags, own.id, own.rootScope⟩⟩

/-- A list compared with its beginnings is a list compared pairwise. -/
theorem forall_mem_take_iff_pairwise {α : Type} {relation : α → α → Prop} {values : List α} :
    (∀ index value, values[index]? = some value → ∀ earlier ∈ values.take index,
      relation earlier value) ↔ values.Pairwise relation := by
  rw [List.pairwise_iff_getElem]
  constructor
  · intro all first second _ here before
    apply all second _ (List.getElem?_eq_getElem here)
    rw [List.mem_take_iff_getElem]
    exact ⟨first, by omega, rfl⟩
  · intro pairwise index value found earlier member
    rcases List.getElem?_eq_some_iff.mp found with ⟨here, rfl⟩
    rcases List.mem_take_iff_getElem.mp member with ⟨first, before, rfl⟩
    exact pairwise first index (by omega) here (by omega)

/-- Requirements collected from the values of a list and their indices. -/
theorem forall_flatMap_zipIdx {α : Type} {values : List α}
    {required : α × Nat → List Requirement} :
    (∀ requirement ∈ values.zipIdx.flatMap required, requirement.holds) ↔
      ∀ index value, values[index]? = some value →
        ∀ requirement ∈ required (value, index), requirement.holds := by
  simp only [List.mem_flatMap, forall_exists_index, and_imp]
  constructor
  · intro all index value found requirement member
    exact all requirement (value, index) (List.mem_zipIdx_iff_getElem?.mpr found) member
  · intro all requirement listed member required
    exact all listed.2 listed.1 (List.mem_zipIdx_iff_getElem?.mp member) requirement required

theorem forall_hostRequirements {hosts : List HostEntry} :
    (∀ requirement ∈ hostRequirements hosts, requirement.holds) ↔
      (∀ entry ∈ hosts, entry.IsAcceptable) ∧
        (hosts.Pairwise fun first second => first.id ≠ second.id) ∧
        hosts.Pairwise fun first second => first.output.clean ≠ second.output.clean := by
  rw [hostRequirements, forall_flatMap_zipIdx, ← forall_mem_take_iff_pairwise,
    ← forall_mem_take_iff_pairwise]
  simp only [HostEntry.forall_requirements]
  constructor
  · intro all
    refine ⟨fun entry member => ?_, fun index entry found => (all index entry found).2.1,
      fun index entry found => (all index entry found).2.2⟩
    rcases List.getElem?_of_mem member with ⟨index, found⟩
    exact (all index entry found).1
  · rintro ⟨own, ids, outputs⟩ index entry found
    exact ⟨own entry (List.mem_of_getElem? found), ids index entry found,
      outputs index entry found⟩

theorem forall_embeddedRequirements {languages : List Embedded} :
    (∀ requirement ∈ embeddedRequirements languages, requirement.holds) ↔
      ∀ language ∈ languages, language.IsAcceptable := by
  rw [embeddedRequirements, forall_flatMap_zipIdx]
  simp only [Embedded.forall_requirements]
  constructor
  · intro all language member
    rcases List.getElem?_of_mem member with ⟨index, found⟩
    exact all index language found
  · exact fun own index language found => own language (List.mem_of_getElem? found)

theorem forall_contributesRequirements {hosts : List HostEntry} {path : Path} :
    (∀ requirement ∈ contributesRequirements hosts path, requirement.holds) ↔
      path.NamesFile ∧ ∀ entry ∈ hosts, entry.output.clean ≠ path.clean := by
  rw [contributesRequirements, List.forall_mem_append, forall_pathRequirements]
  simp

namespace Manifest

variable {manifest : Manifest}

theorem forall_requirements :
    (∀ requirement ∈ manifest.requirements, requirement.holds) ↔ manifest.IsAcceptable := by
  have fragment : (∀ requirement ∈
        manifest.contributes.toList.flatMap (contributesRequirements manifest.hosts),
        requirement.holds) ↔
      ∀ path, manifest.contributes = some path →
        path.NamesFile ∧ ∀ entry ∈ manifest.hosts, entry.output.clean ≠ path.clean := by
    cases manifest.contributes with
    | none => simp
    | some path => simp [forall_contributesRequirements]
  rw [requirements, List.forall_mem_cons, List.forall_mem_append, List.forall_mem_append,
    forall_hostRequirements, fragment, forall_embeddedRequirements]
  constructor
  · rintro ⟨nonempty, ⟨hosts, ids, outputs⟩, contributes, embedded⟩
    exact ⟨nonempty, hosts, ids, outputs, contributes, embedded⟩
  · intro acceptable
    exact ⟨acceptable.nonempty, ⟨acceptable.hosts, acceptable.ids, acceptable.outputs⟩,
      acceptable.contributes, acceptable.embedded⟩

/-- A manifest is accepted exactly if it is acceptable. -/
theorem validate_eq_ok_iff : manifest.validate = .ok () ↔ manifest.IsAcceptable :=
  manifest.validate_inOrder.eq_ok_iff.trans forall_requirements

/-- The paths of an accepted manifest: where the grammars go, and the fragment. -/
def writtenPaths (manifest : Manifest) : List Path :=
  manifest.hosts.map HostEntry.output ++ manifest.contributes.toList

theorem namesFile_of_validate (accepted : manifest.validate = .ok ()) {path : Path}
    (member : path ∈ manifest.writtenPaths) : path.NamesFile := by
  have acceptable := validate_eq_ok_iff.mp accepted
  rcases List.mem_append.mp member with output | contributes
  · rcases List.mem_map.mp output with ⟨entry, inHosts, rfl⟩
    exact (acceptable.hosts entry inHosts).output
  · exact (acceptable.contributes path (Option.mem_toList.mp contributes)).1

end Manifest

end Inset
