import Inset.Proofs.Manifest.Validation
import Inset.Proofs.Path.Cleaning

/-!
# Which manifests are accepted

A manifest is accepted exactly if it is acceptable, and the error of any other is that of
the first requirement that fails (`Manifest.validate_accepts_exactly`).  As the order of
the hosts and of the languages plays no part in what is acceptable, nor the spelling of a
path, a manifest that is rearranged is accepted as well.
-/

namespace Inset

/-! ## Rearranged manifests -/

/-- A path names a file exactly if what it is cleaned to is relative and more than the
current directory. -/
theorem Path.namesFile_iff_clean {path : Path} :
    path.NamesFile ↔ path.clean.isRooted = false ∧ path.clean ≠ ⟨"."⟩ := by
  rw [Path.isRooted_clean]
  constructor
  · exact fun named => ⟨named.relative, named.notCurrent⟩
  · rintro ⟨relative, notCurrent⟩
    refine ⟨fun empty => ?_, relative, notCurrent⟩
    rcases path with ⟨text⟩
    obtain rfl : text = "" := empty
    exact notCurrent rfl

/-- A host with the path of its file as it is cleaned. -/
def HostEntry.cleaned (entry : HostEntry) : HostEntry :=
  { entry with output := entry.output.clean }

theorem HostEntry.IsAcceptable.of_cleaned {first second : HostEntry}
    (acceptable : first.IsAcceptable) (same : first.cleaned = second.cleaned) :
    second.IsAcceptable := by
  simp only [cleaned, HostEntry.mk.injEq] at same
  rcases same with ⟨_, id, scope, output, injectTo⟩
  refine ⟨id ▸ acceptable.id, scope ▸ acceptable.scope, ?_, injectTo ▸ acceptable.injectTo⟩
  rw [Path.namesFile_iff_clean, ← output]
  exact Path.namesFile_iff_clean.mp acceptable.output

namespace Manifest

/-- Whether two manifests have the same hosts and the same languages, in any order, and the
same paths after cleaning. -/
structure IsRearranged (manifest other : Manifest) : Prop where
  hosts : (manifest.hosts.map HostEntry.cleaned).Perm (other.hosts.map HostEntry.cleaned)
  contributes : manifest.contributes.map Path.clean = other.contributes.map Path.clean
  embedded : manifest.embedded.Perm other.embedded

namespace IsRearranged

variable {manifest other : Manifest}

theorem symm (rearranged : manifest.IsRearranged other) : other.IsRearranged manifest :=
  ⟨rearranged.hosts.symm, rearranged.contributes.symm, rearranged.embedded.symm⟩

theorem exists_host (rearranged : manifest.IsRearranged other) {entry : HostEntry}
    (member : entry ∈ other.hosts) :
    ∃ original ∈ manifest.hosts, original.cleaned = entry.cleaned :=
  List.mem_map.mp (rearranged.hosts.mem_iff.mpr (List.mem_map_of_mem member))

/-- Hosts that differ pairwise after cleaning do so in another order. -/
theorem pairwise_ne {α : Type} (rearranged : manifest.IsRearranged other)
    (key : HostEntry → α)
    (differ : manifest.hosts.Pairwise fun first second => key first.cleaned ≠ key second.cleaned) :
    other.hosts.Pairwise fun first second => key first.cleaned ≠ key second.cleaned := by
  have cleaned : (manifest.hosts.map HostEntry.cleaned).Pairwise (key · ≠ key ·) :=
    List.pairwise_map.mpr differ
  rw [rearranged.hosts.pairwise_iff Ne.symm, List.pairwise_map] at cleaned
  exact cleaned

theorem isAcceptable (rearranged : manifest.IsRearranged other)
    (acceptable : manifest.IsAcceptable) : other.IsAcceptable where
  nonempty none := by
    have empty := rearranged.hosts
    rw [none, List.map_nil, List.perm_nil, List.map_eq_nil_iff] at empty
    exact acceptable.nonempty empty
  hosts entry member := by
    rcases rearranged.exists_host member with ⟨original, inHosts, same⟩
    exact (acceptable.hosts original inHosts).of_cleaned same
  ids := rearranged.pairwise_ne HostEntry.id acceptable.ids
  outputs := rearranged.pairwise_ne HostEntry.output acceptable.outputs
  contributes path given := by
    have cleaned := rearranged.contributes
    rw [given, Option.map_some, Option.map_eq_some_iff] at cleaned
    rcases cleaned with ⟨original, originalGiven, same⟩
    rcases acceptable.contributes original originalGiven with ⟨named, own⟩
    rw [Path.namesFile_iff_clean, same] at named
    refine ⟨Path.namesFile_iff_clean.mpr named, fun entry member => ?_⟩
    rcases rearranged.exists_host member with ⟨host, inHosts, sameHost⟩
    have sameOutput : host.output.clean = entry.output.clean :=
      congrArg HostEntry.output sameHost
    rw [← same, ← sameOutput]
    exact own host inHosts
  embedded language member :=
    acceptable.embedded language (rearranged.embedded.mem_iff.mpr member)

end IsRearranged

/-- A manifest is accepted exactly if it is acceptable.  Otherwise the error is that of the
first of its requirements that fails.  Acceptance depends neither on the order of the hosts
or of the languages, nor on how a path is spelled. -/
theorem validate_accepts_exactly (manifest : Manifest) :
    (manifest.validate = .ok () ↔ manifest.IsAcceptable) ∧
    (∀ error, manifest.validate = .error error ↔
      ∃ front requirement back, manifest.requirements = front ++ requirement :: back ∧
        (∀ met ∈ front, met.holds) ∧ ¬requirement.holds ∧ requirement.error = error) ∧
    (∀ other, manifest.IsRearranged other →
      (manifest.validate = .ok () ↔ other.validate = .ok ())) := by
  refine ⟨validate_eq_ok_iff, manifest.validate_inOrder.eq_error_iff, ?_⟩
  intro other rearranged
  rw [validate_eq_ok_iff, validate_eq_ok_iff]
  exact ⟨rearranged.isAcceptable, rearranged.symm.isAcceptable⟩

/-- Two hosts and a fragment with paths as they are cleaned, or in another spelling and the
other order. -/
def twoHosts (respelled : Bool) : Manifest where
  contributes := some (if respelled then ⟨"./c.json"⟩ else ⟨"c.json"⟩)
  hosts :=
    if respelled then [⟨.go, "w", "s", ⟨"x/..//b.json"⟩, none⟩, ⟨.go, "v", "s", ⟨"a.json"⟩, none⟩]
    else [⟨.go, "v", "s", ⟨"a.json"⟩, none⟩, ⟨.go, "w", "s", ⟨"b.json"⟩, none⟩]
  embedded := []

/-- Hosts in the other order with paths in another spelling are accepted as well. -/
theorem validate_accepts_respelled :
    (twoHosts false).validate = .ok () ∧ (twoHosts false).IsRearranged (twoHosts true) ∧
      (twoHosts true).validate = .ok () := by
  have accepted : (twoHosts false).validate = .ok () := by decide
  have rearranged : (twoHosts false).IsRearranged (twoHosts true) :=
    ⟨by decide, by decide, by decide⟩
  exact ⟨accepted, rearranged,
    ((validate_accepts_exactly (twoHosts false)).2.2 (twoHosts true) rearranged).mp accepted⟩

end Manifest

end Inset
