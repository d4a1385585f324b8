/-!
Sequences of checks. A sequence passes if and only if each of its checks passes, and what a list of
checks hands out stands at the place of what was checked.
-/
namespace Attestation.Checks

variable {ε ε' α β : Type}

theorem bind_eq_ok {x : Except ε α} {f : α → Except ε β} {b : β} :
    x >>= f = .ok b ↔ ∃ a, x = .ok a ∧ f a = .ok b := by
  cases x <;> simp [bind, Except.bind]

theorem pure_eq_ok {a b : α} : (pure a : Except ε α) = .ok b ↔ b = a := by
  simp [pure, Except.pure, eq_comm]

theorem ite_error_eq_ok {c : Prop} [Decidable c] {e : ε} {x : Except ε α} {a : α} :
    (if c then .error e else x) = .ok a ↔ ¬c ∧ x = .ok a := by
  by_cases h : c <;> simp [h]

theorem ite_else_error_eq_ok {c : Prop} [Decidable c] {e : ε} {x : Except ε α} {a : α} :
    (if c then x else .error e) = .ok a ↔ c ∧ x = .ok a := by
  by_cases h : c <;> simp [h]

theorem mapError_eq_ok (wording : ε → ε') {x : Except ε α} {a : α} :
    x.mapError wording = .ok a ↔ x = .ok a := by
  cases x with
  | error e =>
    have h : (Except.error e : Except ε α).mapError wording = .error (wording e) := rfl
    simp [h]
  | ok b =>
    have h : (Except.ok b : Except ε α).mapError wording = .ok b := rfl
    simp [h]

theorem map_eq_ok {f : α → β} {x : Except ε α} {b : β} :
    x.map f = .ok b ↔ ∃ a, x = .ok a ∧ f a = b := by
  cases x <;> simp [Except.map]

theorem bind_eq_error {x : Except ε α} {f : α → Except ε β} {e : ε} :
    x >>= f = .error e ↔ x = .error e ∨ ∃ a, x = .ok a ∧ f a = .error e := by
  cases x <;> simp [bind, Except.bind]

theorem pure_ne_error {a : α} {e : ε} : (pure a : Except ε α) ≠ .error e := by
  simp [pure, Except.pure]

theorem mapError_eq_error (wording : ε → ε') {x : Except ε α} {e' : ε'} :
    x.mapError wording = .error e' ↔ ∃ e, x = .error e ∧ wording e = e' := by
  cases x with
  | error e =>
    have h : (Except.error e : Except ε α).mapError wording = .error (wording e) := rfl
    simp [h]
  | ok a =>
    have h : (Except.ok a : Except ε α).mapError wording = .ok a := rfl
    simp [h]

theorem map_eq_error {f : α → β} {x : Except ε α} {e : ε} :
    x.map f = .error e ↔ x = .error e := by
  cases x <;> simp [Except.map]

theorem error_bind {e : ε} (f : α → Except ε β) : (.error e : Except ε α) >>= f = .error e := rfl

theorem ok_bind {a : α} (f : α → Except ε β) : (.ok a : Except ε α) >>= f = f a := rfl

theorem map_bind {γ : Type} (x : Except ε α) (f : α → Except ε β) (g : β → γ) :
    (x >>= f).map g = x >>= fun a => (f a).map g := by
  cases x <;> rfl

theorem isOk_iff {x : Except ε α} : x.isOk = true ↔ ∃ a, x = .ok a := by
  cases x <;> simp [Except.toBool]

theorem toOption_eq_some {x : Except ε α} {a : α} : x.toOption = some a ↔ x = .ok a := by
  cases x <;> simp [Except.toOption]

/-- What is handed out at a place comes from what was given there. -/
theorem mapM_getElem? {f : α → Except ε β} {xs : List α} {ys : List β} (h : xs.mapM f = .ok ys)
    {i : Nat} {y : β} (hy : ys[i]? = some y) : ∃ x, xs[i]? = some x ∧ f x = .ok y := by
  induction xs generalizing ys i with
  | nil =>
    rw [List.mapM_nil, pure_eq_ok] at h
    simp [h] at hy
  | cons x xs ih =>
    simp only [List.mapM_cons, bind_eq_ok, pure_eq_ok] at h
    obtain ⟨z, hz, zs, hzs, rfl⟩ := h
    cases i with
    | zero =>
      obtain rfl : z = y := by simpa using hy
      exact ⟨x, by simp, hz⟩
    | succ i => simpa using ih hzs (by simpa using hy)

/-- What stops a list of checks is one of them. -/
theorem mapM_eq_error {f : α → Except ε β} {xs : List α} {e : ε} (h : xs.mapM f = .error e) :
    ∃ x ∈ xs, f x = .error e := by
  induction xs with
  | nil =>
    rw [List.mapM_nil] at h
    exact absurd h pure_ne_error
  | cons x xs ih =>
    simp only [List.mapM_cons, bind_eq_error] at h
    rcases h with h | ⟨_, _, h | ⟨_, _, h⟩⟩
    · exact ⟨x, List.mem_cons_self, h⟩
    · obtain ⟨y, hy, hfy⟩ := ih h
      exact ⟨y, List.mem_cons_of_mem x hy, hfy⟩
    · exact absurd h pure_ne_error

end Attestation.Checks
