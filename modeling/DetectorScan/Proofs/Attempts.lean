import DetectorScan.Word

/-!
# Computations that go through

How the computations of this library run where none of their steps fails: what follows a
value goes on with it, and a step that has a value for every entry of a list has one for
the list.
-/

namespace DetectorScan

variable {ε α β γ : Type}

@[simp]
theorem ok_bind (a : α) (f : α → Except ε β) : (Except.ok a >>= f) = f a := rfl

@[simp]
theorem error_bind (e : ε) (f : α → Except ε β) : (Except.error e >>= f) = .error e := rfl

theorem toOption_eq_some {x : Except ε α} {a : α} : x.toOption = some a ↔ x = .ok a := by
  cases x <;> simp [Except.toOption]

theorem toOption_foldlM {f : β → α → Except ε β} {xs : List α} {b : β} :
    (xs.foldlM f b).toOption = xs.foldlM (fun b x => (f b x).toOption) b := by
  induction xs generalizing b with
  | nil => rfl
  | cons x xs ih =>
    rw [List.foldlM_cons, List.foldlM_cons]
    cases f b x with
    | ok c => exact ih
    | error e => rfl

theorem mapM_eq_ok {f : α → Except ε β} {g : α → β} {xs : List α}
    (h : ∀ x ∈ xs, f x = .ok (g x)) : xs.mapM f = .ok (xs.map g) := by
  induction xs with
  | nil => rfl
  | cons x xs ih =>
    have hx := h x (List.mem_cons_self ..)
    have hxs := ih fun y hy => h y (List.mem_cons_of_mem _ hy)
    rw [List.mapM_cons, hx, hxs]
    rfl

theorem exists_mapM_eq_ok {f : α → Except ε β} {xs : List α}
    (h : ∀ x ∈ xs, ∃ y, f x = .ok y) : ∃ ys, xs.mapM f = .ok ys := by
  induction xs with
  | nil => exact ⟨[], rfl⟩
  | cons x xs ih =>
    obtain ⟨y, hy⟩ := h x (List.mem_cons_self ..)
    obtain ⟨ys, hys⟩ := ih fun z hz => h z (List.mem_cons_of_mem _ hz)
    refine ⟨y :: ys, ?_⟩
    rw [List.mapM_cons, hy, hys]
    rfl

theorem exists_of_mapM_eq_ok {f : α → Except ε β} {xs : List α} {ys : List β}
    (h : xs.mapM f = .ok ys) {x : α} (hx : x ∈ xs) : ∃ y ∈ ys, f x = .ok y := by
  induction xs generalizing ys with
  | nil => contradiction
  | cons a xs ih =>
    rw [List.mapM_cons] at h
    obtain ⟨y, hy, h⟩ := bind_eq_ok.1 h
    obtain ⟨rest, hrest, h⟩ := bind_eq_ok.1 h
    cases h
    cases hx with
    | head => exact ⟨y, List.mem_cons_self .., hy⟩
    | tail _ hx =>
      obtain ⟨z, hz, hxz⟩ := ih hrest hx
      exact ⟨z, List.mem_cons_of_mem _ hz, hxz⟩

namespace Attempt

@[simp]
theorem liftM_ok (a : α) : (liftM (Except.ok a : Checked α) : Attempt ε α) = .ok a := rfl

@[simp]
theorem liftM_error (f : Fault) :
    (liftM (Except.error f : Checked α) : Attempt ε α) = .error (.fault f) := rfl

theorem liftM_eq_ok {x : Checked α} {a : α} :
    (liftM x : Attempt ε α) = .ok a ↔ x = .ok a := by
  cases x with
  | error f => simp
  | ok b => simp

@[simp]
theorem ofExcept_ok (a : α) : (ofExcept (.ok a) : Attempt ε α) = .ok a := rfl

@[simp]
theorem ofExcept_error (cause : ε) :
    (ofExcept (.error cause) : Attempt ε α) = refuse cause := rfl

theorem ofExcept_eq_ok {x : Except ε α} {a : α} : ofExcept x = .ok a ↔ x = .ok a := by
  cases x with
  | error cause => simp [refuse]
  | ok b => simp

theorem settle_ofExcept (x : Except ε α) : (ofExcept x).settle = .ok x := by
  cases x <;> rfl

theorem widen_eq_ok {δ : Type} {f : ε → δ} {x : Attempt ε α} {a : α} :
    x.widen f = .ok a ↔ x = .ok a := by
  rcases x with (_ | _) | _ <;> simp [widen]

/-! ### Operations without a fault -/

/-- The operation ends with a result or with a refusal. -/
def Faultless (x : Attempt ε α) : Prop :=
  ∀ f, x ≠ .error (.fault f)

theorem faultless_ok (a : α) : Faultless (.ok a : Attempt ε α) := by
  intro f hf
  cases hf

theorem faultless_refuse (cause : ε) : Faultless (refuse cause : Attempt ε α) := by
  intro f hf
  cases hf

theorem faultless_ofExcept (x : Except ε α) : Faultless (ofExcept x) := by
  cases x with
  | ok a => exact faultless_ok a
  | error cause => exact faultless_refuse cause

namespace Faultless

theorem ok_or_refuse {x : Attempt ε α} (h : x.Faultless) :
    (∃ a, x = .ok a) ∨ ∃ cause, x = refuse cause := by
  cases x with
  | ok a => exact .inl ⟨a, rfl⟩
  | error e =>
    cases e with
    | fault f => exact absurd rfl (h f)
    | refused cause => exact .inr ⟨cause, rfl⟩

theorem exists_settle {x : Attempt ε α} (h : x.Faultless) : ∃ y, x.settle = .ok y := by
  obtain ⟨a, rfl⟩ | ⟨cause, rfl⟩ := h.ok_or_refuse
  · exact ⟨.ok a, rfl⟩
  · exact ⟨.error cause, rfl⟩

theorem widen {δ : Type} {g : ε → δ} {x : Attempt ε α} (h : x.Faultless) :
    (x.widen g).Faultless := by
  obtain ⟨a, rfl⟩ | ⟨cause, rfl⟩ := h.ok_or_refuse
  · exact faultless_ok a
  · exact faultless_refuse (g cause)

theorem bind {x : Attempt ε α} {g : α → Attempt ε β} (hx : x.Faultless)
    (hg : ∀ a, x = .ok a → (g a).Faultless) : (x >>= g).Faultless := by
  obtain ⟨a, rfl⟩ | ⟨cause, rfl⟩ := hx.ok_or_refuse
  · exact hg a rfl
  · exact faultless_refuse cause

end Faultless

end Attempt

@[simp]
theorem mapError_ok {δ : Type} (f : ε → δ) (a : α) :
    (Except.ok a : Except ε α).mapError f = .ok a := rfl

@[simp]
theorem mapError_error {δ : Type} (f : ε → δ) (e : ε) :
    (Except.error e : Except ε α).mapError f = .error (f e) := rfl

theorem mapError_eq_ok {δ : Type} {f : ε → δ} {x : Except ε α} {a : α} :
    x.mapError f = .ok a ↔ x = .ok a := by
  cases x with
  | error e => simp
  | ok b => simp

end DetectorScan
