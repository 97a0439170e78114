import DetectorScan.Proofs.FrameOwnership

/-!
# Ranges that join

Two ranges that are cut out of a set at one point join again, and no frame is moved. A
descriptor that the point cuts in two is made whole; but so are any two behind the point of
which the second goes on with the layout of the first, and then the ranges join to fewer
descriptors than the set has there.
-/

namespace DetectorScan.FileSet

open FileDescriptor

/-! ### Joining without merging -/

/-- From the last of `files` on, no descriptor is joined by the one behind it. -/
def Apart (files more : List FileDescriptor) : Prop :=
  (files.getLast?.toList ++ more).IsChain fun d e => ¬ Joins d e

theorem apart_cons {files more : List FileDescriptor} {e : FileDescriptor} :
    Apart files (e :: more) ↔
      (∀ d ∈ files.getLast?, ¬ Joins d e) ∧ Apart (files ++ [e]) more := by
  unfold Apart
  rw [List.getLast?_concat]
  cases files.getLast? with
  | none => simp
  | some d => simp [List.isChain_cons_cons]

theorem appendFile_of_not_joins {files : List FileDescriptor} {e : FileDescriptor}
    (h : ∀ d ∈ files.getLast?, ¬ Joins d e) : appendFile files e = files ++ [e] := by
  rcases List.eq_nil_or_concat' files with rfl | ⟨init, d, rfl⟩
  · exact appendFile_nil e
  · have hd := h d (by simp)
    rw [appendFile_concat, if_neg hd, List.append_assoc]
    rfl

theorem length_appendFile_of_joins {files : List FileDescriptor} {d e : FileDescriptor}
    (hd : d ∈ files.getLast?) (h : Joins d e) : (appendFile files e).length = files.length := by
  rcases List.eq_nil_or_concat' files with rfl | ⟨init, c, rfl⟩
  · contradiction
  · rw [List.getLast?_concat] at hd
    cases hd
    rw [appendFile_concat, if_pos h]
    simp

theorem foldl_appendFile_of_apart {files more : List FileDescriptor} (h : Apart files more) :
    more.foldl appendFile files = files ++ more := by
  induction more generalizing files with
  | nil => simp
  | cons e rest ih =>
    obtain ⟨hlast, hrest⟩ := apart_cons.1 h
    rw [List.foldl_cons, appendFile_of_not_joins hlast, ih hrest, ← List.append_cons]

theorem length_foldl_appendFile_le (files more : List FileDescriptor) :
    (more.foldl appendFile files).length ≤ files.length + more.length := by
  induction more generalizing files with
  | nil => simp
  | cons e rest ih =>
    have hrest := ih (appendFile files e)
    have hlength : (appendFile files e).length ≤ files.length + 1 := by
      by_cases hjoin : ∃ d ∈ files.getLast?, Joins d e
      · obtain ⟨d, hd, hj⟩ := hjoin
        rw [length_appendFile_of_joins hd hj]
        omega
      · push Not at hjoin
        rw [appendFile_of_not_joins hjoin]
        simp
    rw [List.foldl_cons, List.length_cons]
    omega

/-- Every two descriptors that join are one fewer. -/
theorem length_foldl_appendFile_lt {files more : List FileDescriptor} (h : ¬ Apart files more) :
    (more.foldl appendFile files).length < files.length + more.length := by
  induction more generalizing files with
  | nil =>
    exfalso
    apply h
    unfold Apart
    cases files.getLast? <;> simp
  | cons e rest ih =>
    rw [List.foldl_cons, List.length_cons]
    by_cases hlast : ∀ d ∈ files.getLast?, ¬ Joins d e
    · have hrest := ih fun hrest => h (apart_cons.2 ⟨hlast, hrest⟩)
      rw [appendFile_of_not_joins hlast]
      rw [List.length_append, List.length_singleton] at hrest
      omega
    · push Not at hlast
      obtain ⟨d, hd, hj⟩ := hlast
      have hrest := length_foldl_appendFile_le (appendFile files e) rest
      rw [length_appendFile_of_joins hd hj] at hrest
      omega

theorem SameFiles.length_eq {files others : List FileDescriptor} (h : SameFiles files others) :
    files.length = others.length := by
  induction files generalizing others with
  | nil =>
    cases others with
    | nil => rfl
    | cons e others => contradiction
  | cons d files ih =>
    cases others with
    | nil => contradiction
    | cons e others => rw [List.length_cons, List.length_cons, ih h.2]

/-! ### Clipping part by part -/

theorem clipAll_append (start stop : Nat) (files more : List FileDescriptor) :
    clipAll start stop (files ++ more) =
      clipAll start stop files ++ clipAll start stop more := by
  simp [clipAll]

theorem clipAll_eq_nil {start stop : Nat} {files : List FileDescriptor}
    (h : ∀ d ∈ files, min d.stop stop ≤ max d.start start) :
    clipAll start stop files = [] := by
  induction files with
  | nil => rfl
  | cons d rest ih =>
    have hd := h d (List.mem_cons_self ..)
    rw [clipAll_cons_of_neg (by omega)]
    exact ih fun e he => h e (List.mem_cons_of_mem _ he)

theorem clipAll_self (point : Nat) (files : List FileDescriptor) :
    clipAll point point files = [] := by
  refine clipAll_eq_nil ?_
  intro d _
  omega

theorem clipAll_congr {start stop first last : Nat} {files : List FileDescriptor}
    (h : ∀ d ∈ files, max d.start start = max d.start first ∧
      min d.stop stop = min d.stop last) :
    clipAll start stop files = clipAll first last files := by
  induction files with
  | nil => rfl
  | cons d rest ih =>
    obtain ⟨hs, ht⟩ := h d (List.mem_cons_self ..)
    have hrest := ih fun e he => h e (List.mem_cons_of_mem _ he)
    have hclip : d.clip start stop = d.clip first last := by
      simp only [clip, Nat.max_comm _ d.start, Nat.min_comm _ d.stop, hs, ht]
    by_cases hk : max d.start start < min d.stop stop
    · rw [clipAll_cons_of_pos hk, clipAll_cons_of_pos (by rwa [← hs, ← ht]), hclip, hrest]
    · rw [clipAll_cons_of_neg hk, clipAll_cons_of_neg (by rwa [← hs, ← ht]), hrest]

theorem Chain.clipAll_self {start stop : Nat} {files : List FileDescriptor}
    (h : Chain start files stop) (hne : ∀ d ∈ files, d.start < d.stop) :
    FileSet.clipAll start stop files = files := by
  have hall : ∀ d ∈ files, max d.start start < min d.stop stop ∧ d.clip start stop = d := by
    intro d hd
    have hlt := hne d hd
    obtain ⟨hs, _, ht⟩ := h.bounds_of_mem hd
    refine ⟨by omega, ?_⟩
    simp only [clip, Nat.max_eq_right hs, Nat.min_eq_right ht]
  rw [FileSet.clipAll, List.filter_eq_self.2 fun d hd => by simpa using (hall d hd).1,
    List.map_congr_left fun d hd => (hall d hd).2, List.map_id']

/-! ### Cutting at a point -/

/-- A point parts the descriptors of a chain into those before it and those behind it, with
at most one that it cuts in two. -/
theorem Chain.parts {start stop : Nat} {files : List FileDescriptor}
    (h : Chain start files stop) (point : Nat) :
    ∃ before mid after, files = before ++ mid ++ after ∧
      (∀ d ∈ before, d.stop ≤ point) ∧ (∀ d ∈ after, point ≤ d.start) ∧
      (mid = [] ∨ ∃ d, mid = [d] ∧ d.start < point ∧ point < d.stop) := by
  induction files generalizing start with
  | nil => exact ⟨[], [], [], rfl, by simp, by simp, .inl rfl⟩
  | cons d rest ih =>
    have hchain := h
    obtain ⟨_, rfl, hr⟩ := h
    by_cases hstop : d.stop ≤ point
    · obtain ⟨before, mid, after, rfl, hb, ha, hm⟩ := ih hr
      exact ⟨d :: before, mid, after, rfl, List.forall_mem_cons.2 ⟨hstop, hb⟩, ha, hm⟩
    by_cases hstart : d.start < point
    · refine ⟨[], [d], rest, rfl, by simp, ?_, .inr ⟨d, rfl, hstart, by omega⟩⟩
      intro e he
      have := (hr.bounds_of_mem he).1
      omega
    · refine ⟨[], [], d :: rest, rfl, by simp, ?_, .inl rfl⟩
      intro e he
      have := (hchain.bounds_of_mem he).1
      omega

theorem clipAll_before {point stop : Nat} {files : List FileDescriptor}
    (h : ∀ d ∈ files, d.stop ≤ point) (ht : point ≤ stop) (start : Nat) :
    clipAll point stop files = [] ∧
      clipAll start point files = clipAll start stop files := by
  constructor
  · refine clipAll_eq_nil ?_
    intro d hd
    have := h d hd
    omega
  · refine clipAll_congr ?_
    intro d hd
    have := h d hd
    omega

theorem clipAll_behind {start point : Nat} {files : List FileDescriptor}
    (h : ∀ d ∈ files, point ≤ d.start) (hs : start ≤ point) (stop : Nat) :
    clipAll start point files = [] ∧
      clipAll point stop files = clipAll start stop files := by
  constructor
  · refine clipAll_eq_nil ?_
    intro d hd
    have := h d hd
    omega
  · refine clipAll_congr ?_
    intro d hd
    have := h d hd
    omega

theorem joins_clip {start point stop : Nat} {d : FileDescriptor} (hlow : d.start < point)
    (hhigh : point < d.stop) : Joins (d.clip start point) (d.clip point stop) := by
  refine ⟨?_, (sameLayout_clip d start point).trans (sameLayout_clip d point stop).symm⟩
  simp only [clip]
  omega

theorem bounds_of_mem_clipAll {start stop : Nat} {files : List FileDescriptor}
    {d : FileDescriptor} (h : d ∈ clipAll start stop files) :
    start ≤ d.start ∧ d.start < d.stop ∧ d.stop ≤ stop := by
  unfold clipAll at h
  obtain ⟨e, he, rfl⟩ := List.mem_map.1 h
  have hkept := of_decide_eq_true (List.mem_filter.1 he).2
  simp only [clip]
  omega

/-- Two ranges with a common end join as the parts of the whole range before and behind it
do, where a descriptor that lies on both sides belongs to the part before. -/
theorem Chain.exists_foldl_clipAll {first last start point stop : Nat}
    {files : List FileDescriptor} (h : Chain first files last) (hs : start ≤ point)
    (ht : point ≤ stop) :
    ∃ before after, FileSet.clipAll start stop files = before ++ after ∧
      (∀ d ∈ before, d.start < point) ∧ (∀ d ∈ after, point ≤ d.start) ∧
      (FileSet.clipAll point stop files).foldl FileSet.appendFile
        (FileSet.clipAll start point files) = after.foldl FileSet.appendFile before := by
  -- at the ends of the range one of the sides is empty
  rcases Nat.eq_or_lt_of_le hs with rfl | hs'
  · refine ⟨[], FileSet.clipAll start stop files, rfl, by simp, ?_, by rw [FileSet.clipAll_self]⟩
    intro d hd
    exact (bounds_of_mem_clipAll hd).1
  rcases Nat.eq_or_lt_of_le ht with rfl | ht'
  · refine ⟨FileSet.clipAll start point files, [], by simp, ?_, by simp, by
      rw [FileSet.clipAll_self]⟩
    intro d hd
    have := bounds_of_mem_clipAll hd
    omega
  obtain ⟨before, mid, after, rfl, hb, ha, hm⟩ := h.parts point
  obtain ⟨hb₁, hb₂⟩ := clipAll_before hb ht start
  obtain ⟨ha₁, ha₂⟩ := clipAll_behind ha hs stop
  have hlow : ∀ d ∈ FileSet.clipAll start stop before, d.start < point := by
    intro d hd
    rw [← hb₂] at hd
    have := bounds_of_mem_clipAll hd
    omega
  have hhigh : ∀ d ∈ FileSet.clipAll start stop after, point ≤ d.start := by
    intro d hd
    rw [← ha₂] at hd
    exact (bounds_of_mem_clipAll hd).1
  simp only [clipAll_append, hb₁, hb₂, ha₁, ha₂, List.nil_append, List.append_nil]
  rcases hm with rfl | ⟨d, rfl, hstart, hstop⟩
  · refine ⟨_, _, ?_, hlow, hhigh, ?_⟩
    · simp [FileSet.clipAll]
    · simp [FileSet.clipAll]
  · have hleft : FileSet.clipAll start point [d] = [d.clip start point] :=
      clipAll_cons_of_pos (by omega) []
    have hright : FileSet.clipAll point stop [d] = [d.clip point stop] :=
      clipAll_cons_of_pos (by omega) []
    have hwhole : FileSet.clipAll start stop [d] = [d.clip start stop] :=
      clipAll_cons_of_pos (by omega) []
    have hmerged : ({ d.clip start point with stop := (d.clip point stop).stop } :
        FileDescriptor) = d.clip start stop := rfl
    refine ⟨FileSet.clipAll start stop before ++ [d.clip start stop],
      FileSet.clipAll start stop after, ?_, ?_, hhigh, ?_⟩
    · rw [hwhole]
    · intro e he
      rcases List.mem_append.1 he with he | he
      · exact hlow e he
      · obtain rfl := List.mem_singleton.1 he
        simp only [clip]
        omega
    · rw [hleft, hright, List.singleton_append, List.foldl_cons, appendFile_concat,
        if_pos (joins_clip hstart hstop), hmerged]

/-! ### The join of two ranges -/

/-- None of the descriptors from a point on is joined by the one before it. -/
def ApartFrom (point : Nat) (files : List FileDescriptor) : Prop :=
  files.IsChain fun d e => point ≤ e.start → ¬ Joins d e

instance (point : Nat) (files : List FileDescriptor) : Decidable (ApartFrom point files) :=
  inferInstanceAs (Decidable (List.IsChain ..))

theorem apartFrom_append_iff {point : Nat} {before after : List FileDescriptor}
    (hb : ∀ d ∈ before, d.start < point) (ha : ∀ d ∈ after, point ≤ d.start) :
    ApartFrom point (before ++ after) ↔ Apart before after := by
  unfold ApartFrom Apart
  rw [List.isChain_append, List.isChain_append]
  have hbefore : before.IsChain fun d e => point ≤ e.start → ¬ Joins d e := by
    refine List.Pairwise.isChain (List.pairwise_of_forall_mem_list ?_)
    intro d _ e he hle
    have := hb e he
    omega
  have hlast : before.getLast?.toList.IsChain fun d e => ¬ Joins d e := by
    cases before.getLast? <;> simp
  have hafter : (after.IsChain fun d e => point ≤ e.start → ¬ Joins d e) ↔
      after.IsChain fun d e => ¬ Joins d e := by
    refine List.IsChain.iff_of_mem_imp ?_
    intro d e _ he
    simp [ha e he]
  have hseam : (∀ d ∈ before.getLast?, ∀ e ∈ after.head?, point ≤ e.start → ¬ Joins d e) ↔
      ∀ d ∈ before.getLast?.toList.getLast?, ∀ e ∈ after.head?, ¬ Joins d e := by
    have hself : before.getLast?.toList.getLast? = before.getLast? := by
      cases before.getLast? <;> rfl
    rw [hself]
    constructor
    · intro h d hd e he
      exact h d hd e he (ha e (List.mem_of_mem_head? he))
    · intro h d hd e he _
      exact h d hd e he
  simp only [hbefore, hlast, hafter, hseam]

theorem Chain.foldl_clipAll_of_apartFrom {first last start point stop : Nat}
    {files : List FileDescriptor} (h : Chain first files last) (hs : start ≤ point)
    (ht : point ≤ stop) (hapart : ApartFrom point (FileSet.clipAll start stop files)) :
    (FileSet.clipAll point stop files).foldl FileSet.appendFile
      (FileSet.clipAll start point files) = FileSet.clipAll start stop files := by
  obtain ⟨before, after, hwhole, hb, ha, hjoin⟩ := h.exists_foldl_clipAll hs ht
  rw [hwhole] at hapart ⊢
  rw [hjoin, foldl_appendFile_of_apart ((apartFrom_append_iff hb ha).1 hapart)]

theorem Chain.length_foldl_clipAll_lt {first last start point stop : Nat}
    {files : List FileDescriptor} (h : Chain first files last) (hs : start ≤ point)
    (ht : point ≤ stop) (hjoined : ¬ ApartFrom point (FileSet.clipAll start stop files)) :
    ((FileSet.clipAll point stop files).foldl FileSet.appendFile
      (FileSet.clipAll start point files)).length <
        (FileSet.clipAll start stop files).length := by
  obtain ⟨before, after, hwhole, hb, ha, hjoin⟩ := h.exists_foldl_clipAll hs ht
  rw [hwhole, apartFrom_append_iff hb ha] at hjoined
  rw [hwhole, hjoin, List.length_append]
  exact length_foldl_appendFile_lt hjoined

/-- The join of two ranges has every frame of both at the place where the set has it. -/
theorem Keeps.of_ranges {files joined : List FileDescriptor} {start point stop : Nat}
    (h : Keeps start stop (clipAll start point files ++ clipAll point stop files) joined) :
    Keeps start stop files joined := by
  intro d hd frame hf hs ht
  by_cases hp : frame < point
  · obtain ⟨e, he, hfe, hle⟩ := keeps_clipAll start point files d hd frame hf hs hp
    obtain ⟨c, hc, hfc, hlc⟩ := h e (List.mem_append_left _ he) frame hfe hs ht
    exact ⟨c, hc, hfc, hlc.trans hle⟩
  · obtain ⟨e, he, hfe, hle⟩ := keeps_clipAll point stop files d hd frame hf (by omega) ht
    obtain ⟨c, hc, hfc, hlc⟩ := h e (List.mem_append_right _ he) frame hfe hs ht
    exact ⟨c, hc, hfc, hlc.trans hle⟩

/-- Two ranges with a common end can always be cut out of a set and joined, and no frame of
them is moved. They join to the range from the first end to the last if, and only if, none
of its descriptors from the common end on goes on with the layout of the one before it. -/
theorem ranges_join_where_no_layout_goes_on {files : List FileDescriptor} {s : FileSet}
    (hset : ofList files = .ok s) {start point stop : Nat} (hs : s.start ≤ start)
    (hp : start ≤ point) (ht : point ≤ stop) (hstop : stop ≤ s.stop) :
    ∃ left right joined whole, s.restrict start point = .ok left ∧
      s.restrict point stop = .ok right ∧ left.concat right = .ok joined ∧
      s.restrict start stop = .ok whole ∧
      (ApartFrom point whole.files → joined = whole) ∧
      (¬ ApartFrom point whole.files → ¬ joined.Same whole) ∧
      joined.Tiled ∧ joined.span = whole.span ∧
      ∀ frame, start ≤ frame → frame < stop →
        ∃ d e, whole.owner? frame = some d ∧ joined.owner? frame = some e ∧
          e.FindsAlike d frame := by
  have htiled := (ofList_eq_ok.1 hset).2.2
  have hleft : s.restrict start point = .ok ⟨clipAll start point s.files, start, point⟩ :=
    restrict_eq_ok.2 ⟨⟨hp, hs, ht.trans hstop⟩, rfl⟩
  have hright : s.restrict point stop = .ok ⟨clipAll point stop s.files, point, stop⟩ :=
    restrict_eq_ok.2 ⟨⟨ht, hs.trans hp, hstop⟩, rfl⟩
  have hwhole : s.restrict start stop = .ok ⟨clipAll start stop s.files, start, stop⟩ :=
    restrict_eq_ok.2 ⟨⟨hp.trans ht, hs, hstop⟩, rfl⟩
  have hjoin : concat ⟨clipAll start point s.files, start, point⟩
      ⟨clipAll point stop s.files, point, stop⟩ = .ok ⟨(clipAll point stop s.files).foldl
        appendFile (clipAll start point s.files), start, stop⟩ := concat_eq_ok.2 ⟨rfl, rfl⟩
  obtain ⟨hjoined, hkeep⟩ := (htiled.restrict hleft).concat (htiled.restrict hright) hjoin
  refine ⟨_, _, _, _, hleft, hright, hjoin, hwhole, ?_, ?_, hjoined, rfl, ?_⟩
  · intro hapart
    rw [htiled.foldl_clipAll_of_apartFrom hp ht hapart]
  · intro hmerged hequal
    have hfewer := htiled.length_foldl_clipAll_lt hp ht hmerged
    exact Nat.ne_of_lt hfewer hequal.1.length_eq
  · intro frame hlow hhigh
    obtain ⟨c, _, hmem, hf⟩ := htiled.exists_owner (hs.trans hlow) (hhigh.trans_le hstop)
    obtain ⟨d, hd, hfd, hld⟩ := keeps_clipAll start stop s.files c hmem frame hf hlow hhigh
    obtain ⟨e, he, hfe, hle⟩ := (hkeep start stop).of_ranges c hmem frame hf hlow hhigh
    exact ⟨d, e, (htiled.restrict hwhole).owner?_eq hd hfd, hjoined.owner?_eq he hfe,
      (hle.trans hld.symm).findsAlike frame⟩

/-- The frames of one file in two descriptors. -/
def twoPieces : List FileDescriptor :=
  [{ wholeFile "a.seq" 0 10 with stop := 5 }, { wholeFile "a.seq" 0 10 with start := 5 }]

theorem ofList_twoPieces : ofList twoPieces = .ok ⟨twoPieces, 0, 10⟩ :=
  ofList_eq_ok.2 ⟨rfl, rfl, by decide⟩

theorem two_pieces_join_behind_their_seam :
    ∃ s, ofList twoPieces = .ok s ∧ s.start ≤ 0 ∧ 10 ≤ s.stop ∧
      (∃ left right whole, s.restrict 0 7 = .ok left ∧ s.restrict 7 10 = .ok right ∧
        s.restrict 0 10 = .ok whole ∧ left.concat right = .ok whole) ∧
      ∃ left right joined whole, s.restrict 0 3 = .ok left ∧ s.restrict 3 10 = .ok right ∧
        s.restrict 0 10 = .ok whole ∧ left.concat right = .ok joined ∧ ¬ joined.Same whole := by
  have hfiles : ∀ whole, restrict ⟨twoPieces, 0, 10⟩ 0 10 = .ok whole →
      whole.files = twoPieces := by
    intro whole hwhole
    obtain ⟨_, rfl⟩ := restrict_eq_ok.1 hwhole
    decide
  refine ⟨_, ofList_twoPieces, le_rfl, le_rfl, ?_, ?_⟩
  · obtain ⟨left, right, joined, whole, hleft, hright, hjoin, hwhole, hsame, _⟩ :=
      ranges_join_where_no_layout_goes_on ofList_twoPieces (Nat.le_refl 0) (Nat.zero_le 7)
        (show 7 ≤ 10 by decide) le_rfl
    have hapart : ApartFrom 7 whole.files := by
      rw [hfiles whole hwhole]
      decide
    rw [hsame hapart] at hjoin
    exact ⟨left, right, whole, hleft, hright, hwhole, hjoin⟩
  · obtain ⟨left, right, joined, whole, hleft, hright, hjoin, hwhole, _, hmerged, _⟩ :=
      ranges_join_where_no_layout_goes_on ofList_twoPieces (Nat.le_refl 0) (Nat.zero_le 3)
        (show 3 ≤ 10 by decide) le_rfl
    have hjoined : ¬ ApartFrom 3 whole.files := by
      rw [hfiles whole hwhole]
      decide
    exact ⟨left, right, joined, whole, hleft, hright, hwhole, hjoin, hmerged hjoined⟩

theorem two_pieces_of_a_file_do_not_join_to_their_range :
    ∃ s left right joined whole, ofList twoPieces = .ok s ∧ s.restrict 0 5 = .ok left ∧
      s.restrict 5 10 = .ok right ∧ left.concat right = .ok joined ∧
      s.restrict 0 10 = .ok whole ∧ ¬ joined.Same whole := by
  refine ⟨_, _, _, _, _, ofList_twoPieces, rfl, rfl, rfl, rfl, ?_⟩
  have hchain : Chain 0 twoPieces 10 := by decide
  have hfewer := hchain.length_foldl_clipAll_lt (Nat.zero_le 5) (show 5 ≤ 10 by decide)
    (by decide)
  intro hsame
  exact Nat.ne_of_lt hfewer hsame.1.length_eq

end DetectorScan.FileSet
