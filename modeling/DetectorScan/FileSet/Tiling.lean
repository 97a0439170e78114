import DetectorScan.FileSet

/-!
# File sets without gaps

A chain of descriptors goes from one frame to another without leaving a frame out, and a
set is tiled when its descriptors form a chain from its first frame to its end. `ofList`
takes exactly the chains. In a chain, the descriptor that holds a frame is its owner.
-/

namespace DetectorScan.FileSet

/-- Descriptors from frame `start` up to frame `stop`, each of which starts where the one
before it ends. -/
def Chain : (start : Nat) → List FileDescriptor → (stop : Nat) → Prop
  | start, [], stop => start = stop
  | start, d :: rest, stop => d.Valid ∧ d.start = start ∧ Chain d.stop rest stop

instance decideChain : (start : Nat) → (files : List FileDescriptor) → (stop : Nat) →
    Decidable (Chain start files stop)
  | start, [], stop => inferInstanceAs (Decidable (start = stop))
  | start, d :: rest, stop =>
    have := decideChain d.stop rest stop
    inferInstanceAs (Decidable (d.Valid ∧ d.start = start ∧ Chain d.stop rest stop))

/-- The descriptors of a set lead from its first frame to its end. -/
def Tiled (s : FileSet) : Prop :=
  Chain s.start s.files s.stop

instance (s : FileSet) : Decidable s.Tiled :=
  inferInstanceAs (Decidable (Chain ..))

/-- The descriptor that holds a frame. -/
def owner? (s : FileSet) (frame : Nat) : Option FileDescriptor :=
  s.files.find? fun d => d.start ≤ frame ∧ frame < d.stop

/-! ### Chains -/

theorem Chain.le {start stop : Nat} {files : List FileDescriptor}
    (h : Chain start files stop) : start ≤ stop := by
  induction files generalizing start with
  | nil => exact Nat.le_of_eq h
  | cons d rest ih =>
    obtain ⟨hv, hs, hr⟩ := h
    have := ih hr
    have := hv.2
    omega

theorem Chain.append {start middle stop : Nat} {files more : List FileDescriptor}
    (h : Chain start files middle) (k : Chain middle more stop) :
    Chain start (files ++ more) stop := by
  induction files generalizing start with
  | nil =>
    cases h
    exact k
  | cons d rest ih => exact ⟨h.1, h.2.1, ih h.2.2⟩

theorem follow_eq_ok {start stop : Nat} {files : List FileDescriptor} :
    follow start files = .ok stop ↔ Chain start files stop := by
  induction files generalizing start with
  | nil => simp [follow, Chain]
  | cons d rest ih =>
    unfold follow Chain
    split
    · next hv => simp [hv]
    · next hv =>
      have hv : d.Valid := Decidable.not_not.1 hv
      split
      · next hs => simp [hs]
      · next hs => simp [hv, Decidable.not_not.1 hs, ih]

/-! ### Tiled sets -/

/-- A list of descriptors makes a set exactly when it is a chain. -/
theorem ofList_eq_ok {files : List FileDescriptor} {s : FileSet} :
    ofList files = .ok s ↔ s.files = files ∧ s.start = firstFrame files ∧ s.Tiled := by
  unfold ofList Tiled
  constructor
  · intro h
    cases hf : follow (firstFrame files) files with
    | error e => simp [hf, Except.map] at h
    | ok stop =>
      rw [hf] at h
      cases h
      exact ⟨rfl, rfl, follow_eq_ok.1 hf⟩
  · rintro ⟨rfl, hs, ht⟩
    rw [hs] at ht
    rw [follow_eq_ok.2 ht, ← hs]
    rfl

theorem tiled_emptyAt (frame : Nat) : (emptyAt frame).Tiled :=
  rfl

theorem holds_of_owner?_eq_some {s : FileSet} {frame : Nat} {d : FileDescriptor}
    (h : s.owner? frame = some d) : d ∈ s.files ∧ d.start ≤ frame ∧ frame < d.stop := by
  refine ⟨List.mem_of_find?_eq_some h, ?_⟩
  simpa using List.find?_some h

end DetectorScan.FileSet
