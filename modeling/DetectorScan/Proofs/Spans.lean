import DetectorScan.Shape
import Mathlib.Data.List.Range

/-!
# Runs of numbers

A range of frames is cut in two ways, into partitions and into tiles. Either way the runs
lie one behind the other, so that together they hold every number of the range once and in
order.
-/

namespace DetectorScan

def Span.frames (s : Span) : List Nat :=
  List.range' s.start (s.stop - s.start)

theorem Span.length_frames (s : Span) : s.frames.length = s.stop - s.start :=
  List.length_range'

theorem Span.mem_frames {s : Span} {frame : Nat} :
    frame ∈ s.frames ↔ s.start ≤ frame ∧ frame < s.stop := by
  simp only [frames, List.mem_range'_1]
  omega

theorem Span.frames_zero (stop : Nat) : (Span.mk 0 stop).frames = List.range stop := by
  rw [frames, Nat.sub_zero, List.range_eq_range']

theorem Span.frames_append {start middle stop : Nat} (h₁ : start ≤ middle)
    (h₂ : middle ≤ stop) :
    (Span.mk start middle).frames ++ (Span.mk middle stop).frames =
      (Span.mk start stop).frames := by
  simp only [frames]
  rw [show stop - start = (middle - start) + (stop - middle) by omega, ← List.range'_append_1,
    show start + (middle - start) = middle by omega]

/-- Runs one behind the other from `start` to `stop`. -/
def Contiguous : (start : Nat) → List Span → (stop : Nat) → Prop
  | start, [], stop => start = stop
  | start, s :: rest, stop =>
    s.start = start ∧ s.start ≤ s.stop ∧ Contiguous s.stop rest stop

theorem Contiguous.le {start stop : Nat} {spans : List Span}
    (h : Contiguous start spans stop) : start ≤ stop := by
  induction spans generalizing start with
  | nil => exact Nat.le_of_eq h
  | cons s rest ih =>
    obtain ⟨rfl, hs, hr⟩ := h
    exact hs.trans (ih hr)

theorem Contiguous.append {start middle stop : Nat} {spans more : List Span}
    (h : Contiguous start spans middle) (k : Contiguous middle more stop) :
    Contiguous start (spans ++ more) stop := by
  induction spans generalizing start with
  | nil =>
    cases h
    exact k
  | cons s rest ih =>
    obtain ⟨hs, hle, hr⟩ := h
    exact ⟨hs, hle, ih hr⟩

theorem Contiguous.bounds {start stop : Nat} {spans : List Span}
    (h : Contiguous start spans stop) {s : Span} (hs : s ∈ spans) :
    start ≤ s.start ∧ s.start ≤ s.stop ∧ s.stop ≤ stop := by
  induction spans generalizing start with
  | nil => contradiction
  | cons t rest ih =>
    obtain ⟨rfl, ht, hr⟩ := h
    have hlast := hr.le
    rcases List.mem_cons.1 hs with rfl | hs
    · exact ⟨le_rfl, ht, hlast⟩
    · obtain ⟨h₁, h₂, h₃⟩ := ih hr hs
      exact ⟨ht.trans h₁, h₂, h₃⟩

/-- Contiguous runs hold each number between their ends once and in order. -/
theorem Contiguous.flatMap_frames {start stop : Nat} {spans : List Span}
    (h : Contiguous start spans stop) :
    spans.flatMap Span.frames = (Span.mk start stop).frames := by
  induction spans generalizing start with
  | nil =>
    cases h
    simp [Span.frames]
  | cons s rest ih =>
    obtain ⟨rfl, hs, hr⟩ := h
    have hlast := hr.le
    rw [List.flatMap_cons, ih hr]
    exact Span.frames_append hs hlast

/-- Each number between the ends of contiguous runs lies in one of them only. -/
theorem Contiguous.existsUnique_holds {start stop frame : Nat} {spans : List Span}
    (h : Contiguous start spans stop) (hs : start ≤ frame) (ht : frame < stop) :
    ∃! k : Nat, ∃ s, spans[k]? = some s ∧ s.start ≤ frame ∧ frame < s.stop := by
  induction spans generalizing start with
  | nil =>
    have : start = stop := h
    omega
  | cons s rest ih =>
    obtain ⟨rfl, hle, hr⟩ := h
    by_cases hin : frame < s.stop
    · refine ⟨0, ⟨s, rfl, hs, hin⟩, ?_⟩
      rintro (_ | k) ⟨t, ht, hlow, _⟩
      · rfl
      · have := (hr.bounds (List.mem_of_getElem? ht)).1
        omega
    · obtain ⟨k, ⟨t, ht, hin'⟩, hu⟩ := ih hr (by omega)
      refine ⟨k + 1, ⟨t, ht, hin'⟩, ?_⟩
      rintro (_ | j) ⟨u, hu', hlow, hhigh⟩
      · cases hu'
        omega
      · rw [hu j ⟨u, hu', hlow, hhigh⟩]

/-! ### Cutting a range -/

/-- A range in runs of `size` numbers, the last of which may be shorter. -/
def cuts (size : Nat) (start stop : Nat) : List Span :=
  if 0 < size ∧ start < stop then
    ⟨start, start + min size (stop - start)⟩ ::
      cuts size (start + min size (stop - start)) stop
  else []
  termination_by stop - start

theorem cuts_of_le (size : Nat) {start stop : Nat} (h : stop ≤ start) :
    cuts size start stop = [] := by
  rw [cuts, if_neg (by omega)]

theorem cuts_of_lt {size : Nat} (hsize : 0 < size) {start stop : Nat} (h : start < stop) :
    cuts size start stop =
      ⟨start, start + min size (stop - start)⟩ ::
        cuts size (start + min size (stop - start)) stop := by
  rw [cuts, if_pos ⟨hsize, h⟩]

theorem contiguous_cuts {size : Nat} (hsize : 0 < size) {start stop : Nat}
    (h : start ≤ stop) : Contiguous start (cuts size start stop) stop := by
  fun_induction cuts size start stop with
  | case1 start hlt ih =>
    have hnext : start + min size (stop - start) ≤ stop := by omega
    exact ⟨rfl, Nat.le_add_right .., ih hnext⟩
  | case2 start hlt =>
    show start = stop
    omega

theorem mem_cuts {size start stop : Nat} {s : Span} (hs : s ∈ cuts size start stop) :
    s.start < s.stop ∧ s.stop ≤ s.start + size ∧
      (s.stop = s.start + size ∨ s.stop = stop) := by
  fun_induction cuts size start stop with
  | case1 start hlt ih =>
    rcases List.mem_cons.1 hs with rfl | hs
    · simp only
      omega
    · exact ih hs
  | case2 => contradiction

end DetectorScan
