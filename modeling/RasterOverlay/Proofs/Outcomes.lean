import Mathlib.Data.List.Forall2

/-!
Computations that may fail. What is put together of several computations has a result if and only if
each of them has one, and it fails by the first failure among them.
-/

namespace RasterOverlay

section

variable {ε α β : Type} {x : Except ε α} {a : α} {b : β} {e : ε}

theorem bind_eq_ok_iff {f : α → Except ε β} : x >>= f = .ok b ↔ ∃ a, x = .ok a ∧ f a = .ok b := by
  cases x with
  | error e => simp [bind, Except.bind]
  | ok a => simp [bind, Except.bind]

theorem bind_eq_error_iff {f : α → Except ε β} :
    x >>= f = .error e ↔ x = .error e ∨ ∃ a, x = .ok a ∧ f a = .error e := by
  cases x with
  | error e' => simp [bind, Except.bind]
  | ok a => simp [bind, Except.bind]

theorem pure_eq_ok_iff {a b : α} : (pure a : Except ε α) = .ok b ↔ b = a := by
  rw [show (pure a : Except ε α) = .ok a from rfl, Except.ok.injEq, eq_comm]

theorem map_eq_ok_iff {f : α → β} : x.map f = .ok b ↔ ∃ a, x = .ok a ∧ f a = b := by
  cases x with
  | error e => simp [Except.map]
  | ok a => simp [Except.map]

theorem map_eq_error_iff {f : α → β} : x.map f = .error e ↔ x = .error e := by
  cases x with
  | error e' => simp [Except.map]
  | ok a => simp [Except.map]

theorem mapError_eq_ok_iff {ε' : Type} {f : ε → ε'} : x.mapError f = .ok a ↔ x = .ok a := by
  cases x with
  | error e => simp [Except.mapError]
  | ok a' => simp [Except.mapError]

end

/-! ## The same outcome -/

section

variable {ε α β γ : Type} {x : Except ε α} {y : Except ε β}

/-- Two computations fail in the same way, or both have a result. -/
structure SameOutcome (x : Except ε α) (y : Except ε β) : Prop where
  error_iff : ∀ e, x = .error e ↔ y = .error e
  ok_iff : (∃ a, x = .ok a) ↔ ∃ b, y = .ok b

theorem SameOutcome.refl (x : Except ε α) : SameOutcome x x := ⟨fun _ => Iff.rfl, Iff.rfl⟩

theorem eq_error_iff_of_map_eq {f : α → γ} {g : β → γ} (h : x.map f = y.map g) (e : ε) :
    x = .error e ↔ y = .error e := by
  rw [← map_eq_error_iff, h, map_eq_error_iff]

theorem exists_ok_iff_of_map_eq {f : α → γ} {g : β → γ} (h : x.map f = y.map g) :
    (∃ a, x = .ok a) ↔ ∃ b, y = .ok b := by
  cases x with
  | error e =>
    cases y with
    | error e' => simp
    | ok b => cases h
  | ok a =>
    cases y with
    | error e => cases h
    | ok b => simp

theorem SameOutcome.of_map_eq {f : α → γ} {g : β → γ} (h : x.map f = y.map g) : SameOutcome x y :=
  ⟨eq_error_iff_of_map_eq h, exists_ok_iff_of_map_eq h⟩

end

/-! ## Optional values -/

section

variable {ε α β : Type} {e e' : ε} {b : β}

/-- A fault that may be there is the failure, if it is there. -/
theorem elim_eq_error_iff (fault : Option ε) (a : α) (e : ε) :
    fault.elim (Except.ok a) .error = .error e ↔ fault = some e := by
  cases fault with
  | none => simp
  | some e' => simp

theorem elim_eq_ok_iff (fault : Option ε) (a b : α) :
    fault.elim (Except.ok a) .error = .ok b ↔ fault = none ∧ b = a := by
  cases fault with
  | none => simp [eq_comm]
  | some e => simp

/-- A value that may be there is the result, if it is there. -/
theorem getOrFail_eq_ok_iff {i : Option α} {f : α → β} :
    i.elim (.error e) (fun a => .ok (f a)) = (.ok b : Except ε β) ↔ ∃ a, i = some a ∧ f a = b := by
  cases i with
  | none => simp
  | some a => simp

theorem getOrFail_eq_error_iff {i : Option α} {f : α → β} :
    i.elim (.error e) (fun a => .ok (f a)) = (.error e' : Except ε β) ↔ i = none ∧ e' = e := by
  cases i with
  | none => simp [eq_comm]
  | some a => simp

end

/-! ## Lists -/

section

variable {ε α β : Type} {f : α → Except ε β} {xs : List α} {ys : List β} {e : ε}

theorem mapM_eq_ok_iff_forall₂ :
    xs.mapM f = .ok ys ↔ List.Forall₂ (fun x y => f x = .ok y) xs ys := by
  induction xs generalizing ys with
  | nil => simp [pure_eq_ok_iff]
  | cons x xs ih =>
    simp only [List.mapM_cons, bind_eq_ok_iff, pure_eq_ok_iff, ih, List.forall₂_cons_left_iff]
    constructor
    · rintro ⟨y, hy, later, hlater, rfl⟩
      exact ⟨y, later, hy, hlater, rfl⟩
    · rintro ⟨y, later, hy, hlater, rfl⟩
      exact ⟨y, hy, later, hlater, rfl⟩

/-- What is done with each of the results can as well be done with each result at once. -/
theorem map_mapM_eq {γ : Type} (f : α → Except ε β) (g : β → γ) (xs : List α) :
    (xs.mapM f).map (List.map g) = xs.mapM fun x => (f x).map g := by
  induction xs with
  | nil => rfl
  | cons x xs ih =>
    rw [List.mapM_cons, List.mapM_cons, ← ih]
    cases f x with
    | error e => rfl
    | ok y =>
      cases xs.mapM f with
      | error e => rfl
      | ok ys => rfl

theorem exists_of_mapM_eq_ok (h : xs.mapM f = .ok ys) : ∀ x ∈ xs, ∃ y, f x = .ok y := by
  rw [mapM_eq_ok_iff_forall₂] at h
  induction h with
  | nil => exact fun x hx => absurd hx List.not_mem_nil
  | cons hy _ ih => exact List.forall_mem_cons.mpr ⟨⟨_, hy⟩, ih⟩

theorem exists_of_mapM_eq_error (h : xs.mapM f = .error e) : ∃ x ∈ xs, f x = .error e := by
  induction xs with
  | nil => cases h
  | cons x xs ih =>
    rw [List.mapM_cons, bind_eq_error_iff] at h
    rcases h with hfirst | ⟨y, -, hrest⟩
    · exact ⟨x, List.mem_cons_self, hfirst⟩
    · rcases bind_eq_error_iff.mp hrest with hlater | ⟨later, -, hjoined⟩
      · obtain ⟨x', hmem, hrefused⟩ := ih hlater
        exact ⟨x', List.mem_cons_of_mem x hmem, hrefused⟩
      · cases hjoined

end

end RasterOverlay
