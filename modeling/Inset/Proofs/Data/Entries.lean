import Inset.Dictionary
import Mathlib.Data.List.Forall2

/-!
# Entries found by their keys

What the readers of records in either format have in common: steps that may fail, one
after the other, and lists of entries that are looked up by their keys.
-/

namespace Inset.Data

variable {α β : Type}

/-! ## Steps one after the other -/

theorem bind_eq_ok_iff {ε : Type} {first : Except ε α} {next : α → Except ε β} {result : β} :
    (first >>= next) = .ok result ↔ ∃ middle, first = .ok middle ∧ next middle = .ok result := by
  cases first with
  | error error => exact iff_of_false nofun fun ⟨_, impossible, _⟩ => nomatch impossible
  | ok middle =>
      constructor
      · exact fun same => ⟨middle, rfl, same⟩
      · rintro ⟨_, ⟨⟩, same⟩
        exact same

/-- A traversal gives what the steps give for the items one by one. -/
theorem mapM_eq_ok_iff {ε : Type} {step : α → Except ε β} {items : List α} {results : List β} :
    items.mapM step = .ok results ↔
      List.Forall₂ (fun item result => step item = .ok result) items results := by
  induction items generalizing results with
  | nil =>
      rw [List.forall₂_nil_left_iff]
      exact ⟨fun same => (Except.ok.inj same).symm, fun same => congrArg Except.ok same.symm⟩
  | cons item items ih =>
      simp only [List.forall₂_cons_left_iff, List.mapM_cons, bind_eq_ok_iff, ih]
      constructor
      · rintro ⟨result, first, others, rest, same⟩
        exact ⟨result, others, first, rest, (Except.ok.inj same).symm⟩
      · rintro ⟨result, others, first, rest, rfl⟩
        exact ⟨result, first, others, rest, rfl⟩

theorem exists_forall₂_iff {R : α → β → Prop} {front : List α} :
    (∃ back, List.Forall₂ R front back) ↔ ∀ x ∈ front, ∃ y, R x y := by
  induction front with
  | nil => simp
  | cons x front ih =>
      rw [List.forall_mem_cons, ← ih]
      simp only [List.forall₂_cons_left_iff]
      constructor
      · rintro ⟨_, y, back, first, others, rfl⟩
        exact ⟨⟨y, first⟩, back, others⟩
      · rintro ⟨⟨y, first⟩, back, others⟩
        exact ⟨y :: back, y, back, first, others, rfl⟩

/-! ## Entries -/

theorem lookup_of_mem {key : String} {value : α} {entries : List (String × α)}
    (nodup : (entries.map Prod.fst).Nodup) (listed : (key, value) ∈ entries) :
    entries.lookup key = some value := by
  induction entries with
  | nil => cases listed
  | cons entry entries ih =>
      rw [Dictionary.lookup_cons_eq_ite]
      rw [List.map_cons, List.nodup_cons] at nodup
      rcases List.mem_cons.mp listed with rfl | later
      · exact if_pos rfl
      · have other : key ≠ entry.1 := by
          rintro rfl
          exact nodup.1 (List.mem_map.mpr ⟨(entry.1, value), later, rfl⟩)
        rw [if_neg other, ih nodup.2 later]

section Entries

variable {R : String → α → β → Prop} {front : List (String × α)} {back : List (String × β)}
  (related : List.Forall₂ (fun x y => x.1 = y.1 ∧ R x.1 x.2 y.2) front back)

include related

theorem keys_eq_of_forall₂ : front.map Prod.fst = back.map Prod.fst := by
  rw [← List.forall₂_eq_eq_eq, List.forall₂_map_left_iff, List.forall₂_map_right_iff]
  exact related.imp fun _ _ both => both.1

/-- Entries with the same keys in the same places are found together. -/
theorem rel_lookup (key : String) :
    Option.Rel (R key) (front.lookup key) (back.lookup key) := by
  induction related with
  | nil => exact .none
  | @cons x y _ _ here _ ih =>
      rcases x with ⟨listed, x⟩
      rcases y with ⟨_, y⟩
      rcases here with ⟨rfl, here⟩
      simp only [Dictionary.lookup_cons_eq_ite]
      split
      · next same => exact .some (same ▸ here)
      · exact ih

theorem rel_of_lookup {key : String} {x : α} {y : β} (found : front.lookup key = some x)
    (again : back.lookup key = some y) : R key x y := by
  have both := rel_lookup related key
  rwa [found, again, Option.rel_some_some] at both

theorem exists_rel_of_lookup {key : String} {y : β} (found : back.lookup key = some y) :
    ∃ x, front.lookup key = some x ∧ R key x y := by
  have both := rel_lookup related key
  rw [found] at both
  cases listed : front.lookup key with
  | none => simp [listed] at both
  | some x =>
      rw [listed, Option.rel_some_some] at both
      exact ⟨x, rfl, both⟩

end Entries

theorem lookup_map (form : α → β) (entries : List (String × α)) (key : String) :
    (entries.map fun entry => (entry.1, form entry.2)).lookup key =
      (entries.lookup key).map form := by
  induction entries with
  | nil => rfl
  | cons entry entries ih =>
      rcases entry with ⟨listed, value⟩
      simp only [List.map_cons, Dictionary.lookup_cons_eq_ite, ih]
      split <;> rfl

end Inset.Data
