import Mathlib.Data.List.Forall2

/-!
# Results that may be errors

A chain of steps has a result if each step has one.  To go through a list gives the results for its members in order
(`mapM_eq_ok_iff`), or the error of the first member that has none (`mapM_eq_error_iff`).
-/

namespace Precedence

variable {ε α β : Type}

theorem exists_of_bind {result : Except ε α} {next : α → Except ε β} {b : β} (h : (result >>= next) = .ok b) :
    ∃ a, result = .ok a ∧ next a = .ok b := by
  cases result with
  | error => cases h
  | ok a => exact ⟨a, rfl, h⟩

theorem bind_eq_ok_iff {result : Except ε α} {next : α → Except ε β} {b : β} :
    (result >>= next) = .ok b ↔ ∃ a, result = .ok a ∧ next a = .ok b :=
  ⟨exists_of_bind, by rintro ⟨a, rfl, h⟩; exact h⟩

theorem bind_eq_error_iff {result : Except ε α} {next : α → Except ε β} {error : ε} :
    (result >>= next) = .error error ↔ result = .error error ∨ ∃ a, result = .ok a ∧ next a = .error error := by
  cases result with
  | error other => exact ⟨fun h => .inl (by cases h; rfl), by rintro (⟨⟨⟩⟩ | ⟨_, ⟨⟩, -⟩); rfl⟩
  | ok a => exact ⟨fun h => .inr ⟨a, rfl, h⟩, by rintro (⟨⟨⟩⟩ | ⟨_, ⟨⟩, h⟩); exact h⟩

theorem ok_bind (a : α) (next : α → Except ε β) : (Except.ok a >>= next) = next a := rfl

theorem mapM_singleton (f : α → Except ε β) (x : α) : [x].mapM f = f x >>= fun y => .ok [y] := by
  rw [List.mapM_cons, List.mapM_nil]
  rfl

theorem mapM_pair (f : α → Except ε β) (x y : α) : [x, y].mapM f = f x >>= fun u => f y >>= fun v => .ok [u, v] := by
  rw [List.mapM_cons, mapM_singleton]
  cases f x with
  | error => rfl
  | ok => cases f y <;> rfl

theorem mapM_eq_ok_iff {f : α → Except ε β} {xs : List α} {ys : List β} :
    xs.mapM f = .ok ys ↔ List.Forall₂ (fun x y => f x = .ok y) xs ys := by
  induction xs generalizing ys with
  | nil =>
    rw [List.forall₂_nil_left_iff, List.mapM_nil]
    exact ⟨by rintro ⟨⟩; rfl, by rintro rfl; rfl⟩
  | cons x xs ih =>
    rw [List.mapM_cons, List.forall₂_cons_left_iff]
    simp only [bind_eq_ok_iff, ih]
    constructor
    · rintro ⟨y, hx, ys, hxs, ⟨⟩⟩
      exact ⟨y, ys, hx, hxs, rfl⟩
    · rintro ⟨y, ys, hx, hxs, rfl⟩
      exact ⟨y, hx, ys, hxs, rfl⟩

theorem mapM_eq_error_iff {f : α → Except ε β} {xs : List α} {error : ε} :
    xs.mapM f = .error error ↔ ∃ before x after, xs = before ++ x :: after ∧ (∀ u ∈ before, ∃ y, f u = .ok y) ∧
      f x = .error error := by
  constructor
  · intro h
    induction xs with
    | nil => cases h
    | cons x xs ih =>
      rw [List.mapM_cons] at h
      rcases bind_eq_error_iff.mp h with hx | ⟨y, hy, h⟩
      · exact ⟨[], x, xs, rfl, List.forall_mem_nil _, hx⟩
      rcases bind_eq_error_iff.mp h with hxs | ⟨_, -, ⟨⟩⟩
      obtain ⟨before, z, after, rfl, hbefore, hz⟩ := ih hxs
      exact ⟨x :: before, z, after, rfl, List.forall_mem_cons.mpr ⟨⟨y, hy⟩, hbefore⟩, hz⟩
  · rintro ⟨before, x, after, rfl, hbefore, hx⟩
    induction before with
    | nil =>
      rw [List.nil_append, List.mapM_cons, hx]
      rfl
    | cons u before ih =>
      obtain ⟨⟨y, hy⟩, hbefore⟩ := List.forall_mem_cons.mp hbefore
      rw [List.cons_append, List.mapM_cons]
      exact bind_eq_error_iff.mpr (.inr ⟨y, hy, bind_eq_error_iff.mpr (.inl (ih hbefore))⟩)

end Precedence
