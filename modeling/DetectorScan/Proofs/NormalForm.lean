import DetectorScan.Proofs.JoinedRanges
import DetectorScan.Proofs.PartitionSpans
import Mathlib.Algebra.Group.Nat.Defs

/-!
# File sets in normal form

A set is normal when none of its descriptors is empty and no two neighbours have the same
layout. Cutting a normal set at any points and joining the pieces again gives the range
between the first point and the last as it is cut out at once: a descriptor that was cut
in two is made whole, and no two descriptors that were different are made one.
-/

namespace DetectorScan.FileSet

open FileDescriptor

/-- No descriptor has the layout of the one before it. -/
def Distinct (files : List FileDescriptor) : Prop :=
  files.IsChain fun d e => ¬ d.SameLayout e

instance (files : List FileDescriptor) : Decidable (Distinct files) :=
  inferInstanceAs (Decidable (List.IsChain ..))

structure Normal (s : FileSet) : Prop where
  tiled : s.Tiled
  nonempty : ∀ d ∈ s.files, d.start < d.stop
  distinct : Distinct s.files

/-! ### Joining distinct descriptors -/

theorem Distinct.apartFrom {files : List FileDescriptor} (h : Distinct files) (point : Nat) :
    ApartFrom point files := by
  refine h.imp ?_
  intro d e hlayout _ hjoins
  exact hlayout hjoins.2

/-! ### Normal sets -/

theorem Distinct.clipAll {first last start stop : Nat} {files : List FileDescriptor}
    (h : Distinct files) (hc : Chain first files last)
    (hne : ∀ d ∈ files, d.start < d.stop) : Distinct (FileSet.clipAll start stop files) := by
  induction files generalizing first with
  | nil => exact List.isChain_nil
  | cons d rest ih =>
    obtain ⟨_, _, hr⟩ := hc
    obtain ⟨hd, hne⟩ := List.forall_mem_cons.1 hne
    obtain ⟨hnext, hrest⟩ := List.isChain_cons.1 h
    have htail := ih hrest hr hne
    by_cases hk : max d.start start < min d.stop stop
    · rw [clipAll_cons_of_pos hk]
      refine List.isChain_cons.2 ⟨?_, htail⟩
      intro e he hl
      cases rest with
      | nil => simp [FileSet.clipAll] at he
      | cons c others =>
        have hc := hne c (List.mem_cons_self ..)
        have hstart : c.start = d.stop := hr.2.1
        by_cases hkc : max c.start start < min c.stop stop
        · rw [clipAll_cons_of_pos hkc] at he
          cases he
          have hlayout := (sameLayout_clip d start stop).symm.trans
            (hl.trans (sameLayout_clip c start stop))
          exact hnext c rfl hlayout
        · -- the range ends before the next descriptor, and so before all others
          have hnil : FileSet.clipAll start stop (c :: others) = [] := by
            refine clipAll_eq_nil ?_
            intro b hb
            have := (hr.bounds_of_mem hb).1
            omega
          rw [hnil] at he
          contradiction
    · rw [clipAll_cons_of_neg hk]
      exact htail

theorem Normal.restrict {s t : FileSet} {start stop : Nat} (h : s.Normal)
    (ht : s.restrict start stop = .ok t) : t.Normal := by
  refine ⟨h.tiled.restrict ht, ?_, ?_⟩
  · obtain ⟨_, rfl⟩ := restrict_eq_ok.1 ht
    intro d hd
    obtain ⟨e, he, rfl⟩ := List.mem_map.1 hd
    have hk := (List.mem_filter.1 he).2
    simp only [decide_eq_true_eq] at hk
    simp only [clip]
    omega
  · obtain ⟨_, rfl⟩ := restrict_eq_ok.1 ht
    exact h.distinct.clipAll h.tiled h.nonempty

theorem Normal.restrict_self {s : FileSet} (h : s.Normal) :
    s.restrict s.start s.stop = .ok s := by
  refine restrict_eq_ok.2 ⟨⟨h.tiled.le, le_rfl, le_rfl⟩, ?_⟩
  rw [Chain.clipAll_self h.tiled h.nonempty]

/-! ### Joining pieces -/

theorem Normal.concat_restrict {s : FileSet} (h : s.Normal) {start point stop : Nat}
    (hs : start ≤ point) (ht : point ≤ stop) :
    concat ⟨clipAll start point s.files, start, point⟩
        ⟨clipAll point stop s.files, point, stop⟩ =
      .ok ⟨clipAll start stop s.files, start, stop⟩ := by
  refine concat_eq_ok.2 ⟨rfl, ?_⟩
  have hdistinct : Distinct (clipAll start stop s.files) :=
    h.distinct.clipAll h.tiled h.nonempty
  rw [h.tiled.foldl_clipAll_of_apartFrom hs ht (hdistinct.apartFrom point)]

theorem Normal.foldlM_concat {s : FileSet} (h : s.Normal) {start point stop : Nat}
    {spans : List Span} (hspans : Contiguous point spans stop) (hfirst : start ≤ point)
    (hs : s.start ≤ point) (ht : stop ≤ s.stop) :
    ∃ pieces, spans.mapM (fun p => s.restrict p.start p.stop) = .ok pieces ∧
      pieces.foldlM concat ⟨clipAll start point s.files, start, point⟩ =
        .ok ⟨clipAll start stop s.files, start, stop⟩ := by
  -- What is joined so far is the range from `start` up to where the next piece begins.
  induction spans generalizing point with
  | nil =>
    cases hspans
    exact ⟨[], rfl, rfl⟩
  | cons p rest ih =>
    obtain ⟨rfl, hp, hrest⟩ := hspans
    have hlast := hrest.le
    obtain ⟨pieces, hpieces, hjoin⟩ := ih hrest (hfirst.trans hp) (hs.trans hp)
    have hpiece : s.restrict p.start p.stop =
        .ok ⟨clipAll p.start p.stop s.files, p.start, p.stop⟩ :=
      restrict_eq_ok.2 ⟨⟨hp, hs, hlast.trans ht⟩, rfl⟩
    refine ⟨⟨clipAll p.start p.stop s.files, p.start, p.stop⟩ :: pieces, ?_, ?_⟩
    · rw [List.mapM_cons, hpiece, hpieces]
      rfl
    · rw [List.foldlM_cons, h.concat_restrict hfirst hp]
      exact hjoin

theorem Normal.foldlM_concat_emptyAt {s : FileSet} (h : s.Normal) {start stop : Nat}
    {spans : List Span} (hspans : Contiguous start spans stop) (hs : s.start ≤ start)
    (ht : stop ≤ s.stop) :
    ∃ pieces whole, spans.mapM (fun p => s.restrict p.start p.stop) = .ok pieces ∧
      pieces.foldlM concat (emptyAt start) = .ok whole ∧
      s.restrict start stop = .ok whole := by
  obtain ⟨pieces, hpieces, hjoin⟩ := h.foldlM_concat hspans le_rfl hs ht
  rw [clipAll_self] at hjoin
  exact ⟨pieces, _, hpieces, hjoin, restrict_eq_ok.2 ⟨⟨hspans.le, hs, ht⟩, rfl⟩⟩

/-- The pieces between the points of a chain join to the range from the first point to the
last, and so do the partitions of every plan that fits into memory to the whole set. -/
theorem pieces_of_normal_sets_join {s : FileSet} (h : s.Normal) :
    (∀ start stop spans, Contiguous start spans stop → s.start ≤ start → stop ≤ s.stop →
      ∃ pieces whole, spans.mapM (fun p => s.restrict p.start p.stop) = .ok pieces ∧
        pieces.foldlM concat (emptyAt start) = .ok whole ∧
        s.restrict start stop = .ok whole ∧ whole.Normal ∧
        (start = s.start → stop = s.stop → whole = s)) ∧
    (s.start = 0 → s.stop < wordLimit → ∀ count signal,
      if maxObjectSize < max count 1 * partitionSpecSize then
        planPartitions s.stop count signal = .error .overflow
      else ∃ plan pieces, planPartitions s.stop count signal = .ok plan ∧
        plan.length = max count 1 ∧
        plan.mapM (fun p => s.restrict p.start p.stop) = .ok pieces ∧
        pieces.foldlM concat (emptyAt 0) = .ok s) := by
  constructor
  · intro start stop spans hspans hs ht
    obtain ⟨pieces, whole, hpieces, hjoin, hwhole⟩ := h.foldlM_concat_emptyAt hspans hs ht
    refine ⟨pieces, whole, hpieces, hjoin, hwhole, h.restrict hwhole, ?_⟩
    rintro rfl rfl
    exact (Except.ok.inj (h.restrict_self.symm.trans hwhole)).symm
  · intro hzero hstop count signal
    have hplan := planPartitions_eq count signal hstop
    split
    · next hlarge => rw [hplan, if_pos hlarge]
    · next hfits =>
      rw [if_neg hfits] at hplan
      have hcount : 0 < max count 1 := by omega
      have hspans : Contiguous 0 (((List.range (max count 1)).map
          (planned s.stop (max count 1) signal)).map (·.span)) s.stop :=
        contiguous_planned signal hcount
      obtain ⟨pieces, whole, hpieces, hjoin, hwhole⟩ :=
        h.foldlM_concat_emptyAt hspans hzero.le le_rfl
      have hself := h.restrict_self
      rw [hzero] at hself
      refine ⟨_, pieces, hplan, by simp, ?_, ?_⟩
      · rw [List.mapM_map] at hpieces
        exact hpieces
      · rw [hjoin, Except.ok.inj (hself.symm.trans hwhole)]

def twoFiles : FileSet :=
  ⟨[wholeFile "a.seq" 0 10, wholeFile "b.seq" 10 25], 0, 25⟩

theorem normal_twoFiles : twoFiles.Normal where
  tiled := by decide
  nonempty := by decide
  distinct := by decide

theorem two_files_join_from_pieces :
    twoFiles.Normal ∧
      (∃ pieces, [⟨0, 7⟩, ⟨7, 7⟩, ⟨7, 12⟩, ⟨12, 25⟩].mapM
          (fun p : Span => twoFiles.restrict p.start p.stop) = .ok pieces ∧
        pieces.foldlM concat (emptyAt 0) = .ok twoFiles) ∧
      ∃ plan pieces, planPartitions 25 3 [4, 4] = .ok plan ∧
        plan.mapM (fun p => twoFiles.restrict p.start p.stop) = .ok pieces ∧
        pieces.foldlM concat (emptyAt 0) = .ok twoFiles := by
  obtain ⟨hchain, hplan⟩ := pieces_of_normal_sets_join normal_twoFiles
  refine ⟨normal_twoFiles, ?_, ?_⟩
  · obtain ⟨pieces, whole, hpieces, hjoin, _, _, hwhole⟩ :=
      hchain 0 25 [⟨0, 7⟩, ⟨7, 7⟩, ⟨7, 12⟩, ⟨12, 25⟩] (by simp [Contiguous]) (by decide) (by decide)
    exact ⟨pieces, hpieces, hwhole rfl rfl ▸ hjoin⟩
  · have hthirds := hplan rfl (by decide) 3 [4, 4]
    rw [if_neg (by decide)] at hthirds
    obtain ⟨plan, pieces, hplan, _, hpieces, hjoin⟩ := hthirds
    exact ⟨plan, pieces, hplan, hpieces, hjoin⟩

theorem too_many_partitions_have_no_pieces :
    twoFiles.Normal ∧ twoFiles.start = 0 ∧
      ¬ ∃ plan, planPartitions twoFiles.stop (2 ^ 62) [4, 4] = .ok plan := by
  refine ⟨normal_twoFiles, rfl, ?_⟩
  rintro ⟨plan, hplan⟩
  rw [planPartitions_eq _ _ (by decide), if_pos (by decide)] at hplan
  contradiction

end DetectorScan.FileSet
