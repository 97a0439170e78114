import DetectorScan.Proofs.FrameImages
import DetectorScan.Proofs.OpenedDataset
import Mathlib.Algebra.Group.Nat.Defs
import Mathlib.Logic.ExistsUnique

/-!
# What a plan shares out

Every plan that fits into memory gives its partitions equal shares, and the last what
remains of the division. A dataset that was opened follows its plan where there can be room
for the partitions, whatever numbers of workers and of partitions were asked for before.
-/

namespace DetectorScan

/-! ### Shares -/

namespace PartitionSpec

/-- Partition `i` of `count` has its share of all frames, and its slice spans them whole. -/
structure Shares (p : PartitionSpec) (total count : Nat) (signal : List Nat) (i : Nat) :
    Prop where
  frameCount : p.frameCount =
    .ok (total / count + if i + 1 = count then total % count else 0)
  frameSpan : p.slice.frameSpan = .ok p.span
  signalBounds : p.slice.signalBounds = .ok (signal.map fun length => ⟨0, length⟩)

end PartitionSpec

theorem frameCount_planned (total : Nat) {count i : Nat} (signal : List Nat) (hi : i < count) :
    (planned total count signal i).frameCount =
      .ok (total / count + if i + 1 = count then total % count else 0) := by
  have hb := (planned_bounds total signal hi).1
  unfold PartitionSpec.frameCount
  rw [Word.sub_of_le hb]
  apply congrArg Except.ok
  unfold planned
  have hdivide := Nat.div_add_mod total count
  by_cases hlast : i + 1 = count
  · rw [← hlast, Nat.add_mul, Nat.one_mul] at hdivide
    simp only [hlast, if_true]
    rw [← hlast]
    generalize total / (i + 1) = length at hdivide ⊢
    omega
  · simp only [hlast, if_false]
    generalize total / count = length
    omega

theorem shares_planned {total count i : Nat} {signal : List Nat} (hi : i < count)
    (htotal : total < wordLimit) (hsignal : ∀ length ∈ signal, length < wordLimit) :
    (planned total count signal i).Shares total count signal i where
  frameCount := frameCount_planned total signal hi
  frameSpan := by
    obtain ⟨hle, hstop⟩ := planned_bounds total signal hi
    exact Slice.frameSpan_frames signal hle (hstop.trans_lt htotal)
  signalBounds := Slice.signalBounds_frames _ _ hsignal

theorem getElem?_planned {total count : Nat} {signal : List Nat} {i : Nat} {p : PartitionSpec} :
    ((List.range count).map (planned total count signal))[i]? = some p ↔
      i < count ∧ planned total count signal i = p := by
  by_cases hi : i < count
  · simp [hi]
  · simp [hi]

/-- Of the partitions of a plan exactly one holds a frame. -/
theorem existsUnique_planned {total count frame : Nat} (signal : List Nat) (hcount : 0 < count)
    (hframe : frame < total) :
    ∃! i : Nat, ∃ p, ((List.range count).map (planned total count signal))[i]? = some p ∧
      p.start ≤ frame ∧ frame < p.stop := by
  have hspans : Contiguous 0 _ total := contiguous_planned signal hcount
  have hruns := hspans.existsUnique_holds (Nat.zero_le frame) hframe
  rw [List.map_map] at hruns
  simpa [PartitionSpec.span] using hruns

/-! ### Settings of a dataset -/

namespace Dataset

inductive Setting where
  | workers (count : Nat)
  | partitions (count : Nat)

def adjust (d : Dataset) : Setting → Dataset
  | .workers count => d.withWorkers count
  | .partitions count => d.withPartitionCount count

variable {d : Dataset}

/-- The settings change nothing but two numbers, and never ask for no partition. -/
theorem foldl_adjust (settings : List Setting) (d : Dataset)
    (h : ∀ count, d.partitionOverride = some count → 1 ≤ count) :
    ∃ workers override, settings.foldl adjust d = d.configured workers override ∧
      ∀ count, override = some count → 1 ≤ count := by
  induction settings generalizing d with
  | nil => exact ⟨d.workers, d.partitionOverride, rfl, h⟩
  | cons setting rest ih =>
    rw [List.foldl_cons]
    cases setting with
    | workers count =>
      obtain ⟨workers, override, heq, hpos⟩ := ih (d.withWorkers count) h
      exact ⟨workers, override, heq, hpos⟩
    | partitions count =>
      have hnext : ∀ n, (d.withPartitionCount count).partitionOverride = some n → 1 ≤ n := by
        intro n hn
        cases hn
        exact Nat.le_max_right ..
      obtain ⟨workers, override, heq, hpos⟩ := ih (d.withPartitionCount count) hnext
      exact ⟨workers, override, heq, hpos⟩

theorem one_le_numPartitions (h : ∀ count, d.partitionOverride = some count → 1 ≤ count) :
    1 ≤ d.numPartitions := by
  unfold numPartitions
  cases hoverride : d.partitionOverride with
  | none => exact one_le_partitionCount ..
  | some count => exact h count hoverride

/-- A dataset that was opened and then adjusted asks for a partition at least, and its frames
still lie in its file. -/
theorem adjusted_of_load {source : CorrectionSource} {files : FileView} {workers : Nat}
    {params : DatasetParams} (h : load source files workers params = .ok d)
    (settings : List Setting) :
    1 ≤ (settings.foldl adjust d).numPartitions ∧
      ∃ fileSize, (settings.foldl adjust d).geometry.Fits fileSize := by
  have hnone : ∀ count, d.partitionOverride = some count → 1 ≤ count := by
    obtain ⟨_, _, _, _, _, _, _, _, _, _, rfl⟩ := load_eq_ok.1 h
    intro count hcount
    contradiction
  obtain ⟨content, _, hopened⟩ := opened_of_load h
  obtain ⟨threads, override, heq, hpos⟩ := foldl_adjust settings d hnone
  rw [heq]
  exact ⟨one_le_numPartitions hpos, content.size, (hopened.configured threads override).fits⟩

theorem frameSpan_partitionOn {fileSize : Nat} (h : d.geometry.Fits fileSize) {s : Span}
    (hle : s.start ≤ s.stop) (hs : s.stop ≤ d.geometry.frameCount) :
    (d.partitionOn s).frameSpan = .ok (d.partitionOn s).files.span :=
  Slice.frameSpan_frames d.geometry.signal hle (hs.trans_lt h.frameCount_lt)

end Dataset

/-- A plan has the partitions that are asked for, one behind the other over all frames, each
with its share, and the partitions of a dataset are those of its plan. Only where there can be
no room for them are there none; the partitions ask for more of it than their plan. -/
theorem plans_share_out_every_frame :
    (∀ (total count : Nat) (signal : List Nat), total < wordLimit →
      (∀ length ∈ signal, length < wordLimit) →
      if maxObjectSize < max count 1 * partitionSpecSize then
        planPartitions total count signal = .error .overflow
      else ∃ plan, planPartitions total count signal = .ok plan ∧
        plan.length = max count 1 ∧ Contiguous 0 (plan.map (·.span)) total ∧
        (∀ frame < total, ∃! i : Nat, ∃ p, plan[i]? = some p ∧
          p.start ≤ frame ∧ frame < p.stop) ∧
        ∀ (i : Nat) (p : PartitionSpec), plan[i]? = some p →
          p.Shares total (max count 1) signal i) ∧
    ∀ (source : CorrectionSource) (files : FileView) (workers : Nat) (params : DatasetParams)
      (d : Dataset), Dataset.load source files workers params = .ok d →
      ∀ settings : List Dataset.Setting,
        let e := settings.foldl Dataset.adjust d
        if e.TooManyPartitions then e.partitions = .error (.fault .overflow)
        else ∃ partitions, e.partitions = .ok partitions ∧
          partitions.length = e.numPartitions ∧
          ∀ p ∈ partitions, p.frameSpan = .ok p.files.span := by
  constructor
  · intro total count signal htotal hsignal
    have hplan := planPartitions_eq count signal htotal
    have hcount : 0 < max count 1 := by omega
    split
    · next hlarge => rw [hplan, if_pos hlarge]
    · next hfits =>
      rw [if_neg hfits] at hplan
      refine ⟨_, hplan, by simp, contiguous_planned signal hcount, ?_, ?_⟩
      · intro frame hframe
        exact existsUnique_planned signal hcount hframe
      · intro i p hp
        obtain ⟨hi, rfl⟩ := getElem?_planned.1 hp
        exact shares_planned hi htotal hsignal
  · intro source files workers params d hload settings e
    obtain ⟨hcount, fileSize, hfits⟩ := Dataset.adjusted_of_load hload settings
    have hparts := Dataset.partitions_eq hfits
    split
    · next hlarge => exact hparts.trans (if_pos hlarge)
    · next hsmall =>
      refine ⟨_, hparts.trans (if_neg hsmall), ?_, ?_⟩
      · rw [List.length_map, Dataset.length_plannedSpans]
        exact Nat.max_eq_left hcount
      · intro p hp
        obtain ⟨s, hs, rfl⟩ := List.mem_map.1 hp
        obtain ⟨_, hle, hstop⟩ := e.contiguous_plannedSpans.bounds hs
        exact Dataset.frameSpan_partitionOn hfits hle hstop

theorem ten_frames_are_shared_by_three :
    10 < wordLimit ∧ (∀ length ∈ [2, 2], length < wordLimit) ∧
      Dataset.load Mrc.read SmallRecording.files 1 ⟨SmallRecording.path, [2]⟩ =
        .ok SmallRecording.dataset ∧
      (∃ plan, planPartitions 10 3 [2, 2] = .ok plan ∧ plan.length = 3 ∧
        (∃! i : Nat, ∃ p, plan[i]? = some p ∧ p.start ≤ 9 ∧ 9 < p.stop) ∧
        ∀ p, plan[2]? = some p → p.frameCount = .ok 4) ∧
      ∃ partitions, ([.workers 0, .partitions 7, .partitions 3].foldl Dataset.adjust
          SmallRecording.dataset).partitions = .ok partitions ∧ partitions.length = 3 := by
  have hsignal : ∀ length ∈ [2, 2], length < wordLimit := by decide
  obtain ⟨hplans, hdatasets⟩ := plans_share_out_every_frame
  refine ⟨by decide, hsignal, SmallRecording.load, ?_, ?_⟩
  · have hplan := hplans 10 3 [2, 2] (by decide) hsignal
    rw [if_neg (by decide)] at hplan
    obtain ⟨plan, hplan, hlength, _, hunique, hshares⟩ := hplan
    refine ⟨plan, hplan, hlength, hunique 9 (by decide), ?_⟩
    intro p hp
    exact (hshares 2 p hp).frameCount
  · have hparts := hdatasets _ _ _ _ _ SmallRecording.load
      [.workers 0, .partitions 7, .partitions 3]
    have hfits : ¬ ([.workers 0, .partitions 7, .partitions 3].foldl Dataset.adjust
        SmallRecording.dataset).TooManyPartitions := by decide
    simp only [if_neg hfits] at hparts
    obtain ⟨partitions, hparts, hlength, _⟩ := hparts
    exact ⟨partitions, hparts, hlength⟩

theorem too_many_partitions_have_no_plan :
    2 < wordLimit ∧ 2 ^ 62 < wordLimit ∧
      ¬ ∃ plan, planPartitions 2 (2 ^ 62) [2, 2] = .ok plan := by
  refine ⟨by decide, by decide, ?_⟩
  rintro ⟨plan, hplan⟩
  rw [planPartitions_eq _ _ (by decide), if_pos (by decide)] at hplan
  contradiction

end DetectorScan
