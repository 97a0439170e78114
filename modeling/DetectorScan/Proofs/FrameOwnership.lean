import DetectorScan.FileSet.Tiling
import DetectorScan.Proofs.Spans
import Mathlib.Data.List.Chain

/-!
# Frames keep their places

Sets that are built from lists of descriptors by cutting and joining are tiled, so each of
their frames has one owner. Cutting and joining change the owner of a frame, but not the
place at which the frame is found: `clipAll` and `appendFile` only trade a descriptor for
another one of the same layout.
-/

namespace DetectorScan

/-! ### Descriptors that hold a frame -/

namespace FileDescriptor

def Holds (d : FileDescriptor) (frame : Nat) : Prop :=
  d.start ≤ frame ∧ frame < d.stop

instance (d : FileDescriptor) (frame : Nat) : Decidable (d.Holds frame) :=
  inferInstanceAs (Decidable (_ ∧ _))

/-- Two descriptors give the same answer to every question about a frame. -/
structure FindsAlike (d e : FileDescriptor) (frame : Nat) : Prop where
  path : d.path.Same e.path
  payloadOffset : d.payloadOffset frame = e.payloadOffset frame
  stride : d.stride = e.stride
  element : d.element = e.element
  signal : d.signal = e.signal

theorem SameLayout.findsAlike {d e : FileDescriptor} (h : d.SameLayout e) (frame : Nat) :
    d.FindsAlike e frame where
  path := h.1
  payloadOffset := h.payloadOffset_eq frame
  stride := h.stride_eq
  element := h.2.2.1
  signal := h.2.2.2.1

theorem holds_clip {d : FileDescriptor} {start stop frame : Nat} (h : d.Holds frame)
    (hs : start ≤ frame) (ht : frame < stop) : (d.clip start stop).Holds frame := by
  obtain ⟨h₁, h₂⟩ := h
  simp only [Holds, clip]
  omega

theorem sameLayout_lengthen (d : FileDescriptor) (stop : Nat) :
    ({ d with stop := stop } : FileDescriptor).SameLayout d :=
  ⟨Path.Same.refl _, rfl, rfl, rfl, rfl, rfl, rfl⟩

end FileDescriptor

namespace FileSet

open FileDescriptor

/-! ### Owners in a chain -/

/-- The descriptors of a chain lie one behind the other. -/
theorem Chain.contiguous {start stop : Nat} {files : List FileDescriptor}
    (h : Chain start files stop) : Contiguous start (files.map (·.span)) stop := by
  induction files generalizing start with
  | nil => exact h
  | cons d rest ih =>
    obtain ⟨hv, hs, hr⟩ := h
    exact ⟨hs, hv.2, ih hr⟩

theorem Chain.bounds_of_mem {start stop : Nat} {files : List FileDescriptor}
    (h : Chain start files stop) {d : FileDescriptor} (hd : d ∈ files) :
    start ≤ d.start ∧ d.start ≤ d.stop ∧ d.stop ≤ stop :=
  h.contiguous.bounds (List.mem_map_of_mem hd)

theorem Chain.bounds_of_holds {start stop frame : Nat} {files : List FileDescriptor}
    (h : Chain start files stop) {d : FileDescriptor} (hd : d ∈ files)
    (hf : d.Holds frame) : start ≤ frame ∧ frame < stop := by
  obtain ⟨hlow, _, hhigh⟩ := h.bounds_of_mem hd
  obtain ⟨hf₁, hf₂⟩ := hf
  omega

theorem Chain.existsUnique_holds {start stop frame : Nat} {files : List FileDescriptor}
    (h : Chain start files stop) (hs : start ≤ frame) (ht : frame < stop) :
    ∃! k : Nat, ∃ d, files[k]? = some d ∧ d.Holds frame := by
  have hruns := h.contiguous.existsUnique_holds hs ht
  simpa [FileDescriptor.span, Holds, and_assoc] using hruns

theorem Chain.find?_of_holds {start stop frame : Nat} {files : List FileDescriptor}
    (h : Chain start files stop) {d : FileDescriptor} (hd : d ∈ files)
    (hf : d.Holds frame) :
    files.find? (fun d => d.start ≤ frame ∧ frame < d.stop) = some d := by
  induction files generalizing start with
  | nil => contradiction
  | cons e rest ih =>
    obtain ⟨hv, rfl, hr⟩ := h
    rcases List.mem_cons.1 hd with rfl | hd
    · exact List.find?_cons_of_pos (by simpa [Holds] using hf)
    · have hlow := (hr.bounds_of_holds hd hf).1
      rw [List.find?_cons_of_neg (by simp; omega)]
      exact ih hr hd

theorem Tiled.owner?_eq {s : FileSet} (h : s.Tiled) {frame : Nat} {d : FileDescriptor}
    (hd : d ∈ s.files) (hf : d.Holds frame) : s.owner? frame = some d :=
  Chain.find?_of_holds h hd hf

theorem Tiled.exists_owner {s : FileSet} (h : s.Tiled) {frame : Nat}
    (hs : s.start ≤ frame) (ht : frame < s.stop) :
    ∃ d, s.owner? frame = some d ∧ d ∈ s.files ∧ d.Holds frame := by
  obtain ⟨k, ⟨d, hd, hf⟩, _⟩ := Chain.existsUnique_holds h hs ht
  have hmem := List.mem_of_getElem? hd
  exact ⟨d, h.owner?_eq hmem hf, hmem, hf⟩

/-! ### Lists that keep their frames -/

/-- Every frame of `files` from `start` up to `stop` is found in `others` at the same
place. -/
def Keeps (start stop : Nat) (files others : List FileDescriptor) : Prop :=
  ∀ d ∈ files, ∀ frame, d.Holds frame → start ≤ frame → frame < stop →
    ∃ e ∈ others, e.Holds frame ∧ e.SameLayout d

theorem Keeps.trans {start stop : Nat} {files others more : List FileDescriptor}
    (h : Keeps start stop files others) (k : Keeps start stop others more) :
    Keeps start stop files more := by
  intro d hd frame hf hs ht
  obtain ⟨e, he, hfe, hle⟩ := h d hd frame hf hs ht
  obtain ⟨c, hc, hfc, hlc⟩ := k e he frame hfe hs ht
  exact ⟨c, hc, hfc, hlc.trans hle⟩

theorem Keeps.of_subset {start stop : Nat} {files others : List FileDescriptor}
    (h : files ⊆ others) : Keeps start stop files others :=
  fun d hd _ hf _ _ => ⟨d, h hd, hf, SameLayout.refl d⟩

theorem Keeps.owners {s t : FileSet} {start stop : Nat} (hs : s.Tiled) (ht : t.Tiled)
    (h : Keeps start stop s.files t.files) {frame : Nat} (h₁ : s.start ≤ frame)
    (h₂ : frame < s.stop) (h₃ : start ≤ frame) (h₄ : frame < stop) :
    ∃ d e, s.owner? frame = some d ∧ t.owner? frame = some e ∧ e.FindsAlike d frame := by
  obtain ⟨d, hd, hmem, hf⟩ := hs.exists_owner h₁ h₂
  obtain ⟨e, he, hfe, hl⟩ := h d hmem frame hf h₃ h₄
  exact ⟨d, e, hd, ht.owner?_eq he hfe, hl.findsAlike frame⟩

/-! ### Cutting -/

theorem keeps_clipAll (start stop : Nat) (files : List FileDescriptor) :
    Keeps start stop files (clipAll start stop files) := by
  intro d hd frame hf hs ht
  have hclip := holds_clip hf hs ht
  refine ⟨d.clip start stop, ?_, hclip, sameLayout_clip d start stop⟩
  refine List.mem_map.2 ⟨d, List.mem_filter.2 ⟨hd, ?_⟩, rfl⟩
  obtain ⟨hf₁, hf₂⟩ := hf
  simp only [decide_eq_true_eq]
  omega

theorem clipAll_cons_of_pos {start stop : Nat} {d : FileDescriptor}
    (h : max d.start start < min d.stop stop) (files : List FileDescriptor) :
    clipAll start stop (d :: files) = d.clip start stop :: clipAll start stop files := by
  rw [clipAll, List.filter_cons_of_pos (by rwa [decide_eq_true_eq])]
  rfl

theorem clipAll_cons_of_neg {start stop : Nat} {d : FileDescriptor}
    (h : ¬ max d.start start < min d.stop stop) (files : List FileDescriptor) :
    clipAll start stop (d :: files) = clipAll start stop files := by
  rw [clipAll, List.filter_cons_of_neg (by rwa [decide_eq_true_eq])]
  rfl

/-- Clipping a chain gives the chain between the ends as they fall into the range. -/
theorem Chain.clipAll {start stop : Nat} (hle : start ≤ stop) {first last : Nat}
    {files : List FileDescriptor} (h : Chain first files last) :
    Chain (max start (min stop first)) (clipAll start stop files)
      (max start (min stop last)) := by
  induction files generalizing first with
  | nil =>
    cases h
    rfl
  | cons d rest ih =>
    obtain ⟨⟨hv₁, hv₂⟩, rfl, hr⟩ := h
    have hrest := ih hr
    by_cases hd : max d.start start < min d.stop stop
    · have hstop : (d.clip start stop).stop = max start (min stop d.stop) := by
        simp only [clip]
        omega
      rw [clipAll_cons_of_pos hd]
      refine ⟨⟨?_, ?_⟩, ?_, by rw [hstop]; exact hrest⟩
      · simp only [clip]
        omega
      · simp only [clip]
        omega
      · simp only [clip]
        omega
    · rw [clipAll_cons_of_neg hd,
        show max start (min stop d.start) = max start (min stop d.stop) by omega]
      exact hrest

theorem Tiled.restrict {s t : FileSet} {start stop : Nat} (h : s.Tiled)
    (ht : s.restrict start stop = .ok t) : t.Tiled := by
  obtain ⟨⟨hle, hs, hst⟩, rfl⟩ := restrict_eq_ok.1 ht
  have hclip := Chain.clipAll hle h
  rwa [show max start (min stop s.start) = start by omega,
    show max start (min stop s.stop) = stop by omega] at hclip

/-! ### Joining -/

theorem appendFile_nil (e : FileDescriptor) : appendFile [] e = [e] := by
  simp [appendFile]

theorem appendFile_concat (files : List FileDescriptor) (d e : FileDescriptor) :
    appendFile (files ++ [d]) e =
      files ++ if Joins d e then [{ d with stop := e.stop }] else [d, e] := by
  induction files with
  | nil => simp only [List.nil_append, appendFile]
  | cons c rest ih =>
    cases rest with
    | nil => simp [appendFile]
    | cons c' rest => simpa [appendFile] using ih

theorem Chain.snoc {start stop : Nat} {files : List FileDescriptor} {d : FileDescriptor}
    (h : Chain start (files ++ [d]) stop) :
    Chain start files d.start ∧ d.Valid ∧ d.stop = stop := by
  induction files generalizing start with
  | nil => exact ⟨h.2.1.symm, h.1, h.2.2⟩
  | cons e rest ih =>
    obtain ⟨hv, hs, hr⟩ := h
    obtain ⟨hrest, hd, hstop⟩ := ih hr
    exact ⟨⟨hv, hs, hrest⟩, hd, hstop⟩

/-- A descriptor behind a chain goes on with it, and no frame is moved. -/
theorem Chain.appendFile {start middle : Nat} {files : List FileDescriptor}
    {e : FileDescriptor} (h : Chain start files middle) (hv : e.Valid)
    (he : e.start = middle) :
    Chain start (appendFile files e) e.stop ∧
      ∀ first last, Keeps first last (files ++ [e]) (appendFile files e) := by
  have hplain : Chain start (files ++ [e]) e.stop := h.append ⟨hv, he, rfl⟩
  rcases List.eq_nil_or_concat' files with rfl | ⟨init, d, rfl⟩
  · rw [appendFile_nil]
    exact ⟨hplain, fun _ _ => Keeps.of_subset (List.Subset.refl _)⟩
  by_cases hj : Joins d e
  · obtain ⟨hinit, hd, hstop⟩ := h.snoc
    obtain ⟨hd₁, hd₂⟩ := hd
    have hlow := hv.2
    rw [appendFile_concat, if_pos hj]
    refine ⟨hinit.append ⟨⟨hd₁, ?_⟩, rfl, rfl⟩, ?_⟩
    · show d.start ≤ e.stop
      omega
    intro first last c hc frame hf _ _
    obtain ⟨hf₁, hf₂⟩ := hf
    simp only [List.append_assoc, List.mem_append, List.mem_cons, List.not_mem_nil,
      or_false] at hc
    -- a descriptor before the last stays, the last one and the new one become one
    rcases hc with hc | rfl | rfl
    · exact ⟨c, by simp [hc], ⟨hf₁, hf₂⟩, SameLayout.refl c⟩
    · exact ⟨{ c with stop := e.stop }, by simp, ⟨hf₁, by show frame < e.stop; omega⟩,
        sameLayout_lengthen c e.stop⟩
    · exact ⟨{ d with stop := c.stop }, by simp, ⟨by show d.start ≤ frame; omega, hf₂⟩,
        (sameLayout_lengthen d c.stop).trans hj.2⟩
  · rw [appendFile_concat, if_neg hj]
    rw [List.append_assoc] at hplain ⊢
    exact ⟨hplain, fun _ _ => Keeps.of_subset (fun _ hd => hd)⟩

theorem Chain.foldl_appendFile {start middle stop : Nat} {files more : List FileDescriptor}
    (h : Chain start files middle) (k : Chain middle more stop) :
    Chain start (more.foldl FileSet.appendFile files) stop ∧
      ∀ first last,
        Keeps first last (files ++ more) (more.foldl FileSet.appendFile files) := by
  induction more generalizing files middle with
  | nil =>
    cases k
    exact ⟨h, fun _ _ => Keeps.of_subset (by simp)⟩
  | cons e rest ih =>
    obtain ⟨hv, he, hr⟩ := k
    obtain ⟨hchain, hkeep⟩ := h.appendFile hv he
    obtain ⟨hchain', hkeep'⟩ := ih hchain hr
    refine ⟨hchain', fun first last => Keeps.trans ?_ (hkeep' first last)⟩
    intro d hd frame hf hs ht
    rw [List.append_cons] at hd
    rcases List.mem_append.1 hd with hd | hd
    · obtain ⟨c, hc, hfc, hl⟩ := hkeep first last d hd frame hf hs ht
      exact ⟨c, List.mem_append_left _ hc, hfc, hl⟩
    · exact ⟨d, List.mem_append_right _ hd, hf, SameLayout.refl d⟩

theorem Tiled.concat {s t u : FileSet} (hs : s.Tiled) (ht : t.Tiled)
    (h : s.concat t = .ok u) :
    u.Tiled ∧ ∀ first last, Keeps first last (s.files ++ t.files) u.files := by
  obtain ⟨hst, rfl⟩ := concat_eq_ok.1 h
  unfold Tiled at ht
  rw [hst] at ht
  exact Chain.foldl_appendFile hs ht

/-! ### Sets that are built from lists -/

/-- The sets that lists of descriptors and empty sets give by cutting and joining. -/
inductive Built : FileSet → Prop where
  | ofList {files : List FileDescriptor} {s : FileSet} : ofList files = .ok s → Built s
  | emptyAt (frame : Nat) : Built (emptyAt frame)
  | restrict {s t : FileSet} {start stop : Nat} :
    Built s → s.restrict start stop = .ok t → Built t
  | concat {s t u : FileSet} : Built s → Built t → s.concat t = .ok u → Built u

theorem Built.tiled {s : FileSet} (h : Built s) : s.Tiled := by
  induction h with
  | ofList h => exact (ofList_eq_ok.1 h).2.2
  | emptyAt frame => exact tiled_emptyAt frame
  | restrict _ h ih => exact ih.restrict h
  | concat _ _ h ihs iht => exact (ihs.concat iht h).1

theorem exists_chain_iff {files : List FileDescriptor} :
    (∃ stop, Chain (firstFrame files) files stop) ↔
      (∀ d ∈ files, d.Valid) ∧ files.IsChain fun d e => e.start = d.stop := by
  induction files with
  | nil => simp [Chain]
  | cons d rest ih =>
    cases rest with
    | nil => simp [Chain, firstFrame]
    | cons e rest =>
      simp only [firstFrame] at ih ⊢
      rw [List.isChain_cons_cons, List.forall_mem_cons]
      constructor
      · rintro ⟨stop, hd, _, he, hs, hr⟩
        obtain ⟨hv, hc⟩ := ih.1 ⟨stop, he, rfl, hr⟩
        exact ⟨⟨hd, hv⟩, hs, hc⟩
      · rintro ⟨⟨hd, hv⟩, hs, hc⟩
        obtain ⟨stop, he, _, hr⟩ := ih.2 ⟨hv, hc⟩
        exact ⟨stop, hd, rfl, he, hs, hr⟩

theorem exists_ofList_iff {files : List FileDescriptor} :
    (∃ s, ofList files = .ok s) ↔
      (∀ d ∈ files, d.Valid) ∧ files.IsChain fun d e => e.start = d.stop := by
  rw [← exists_chain_iff]
  constructor
  · rintro ⟨s, hs⟩
    obtain ⟨rfl, hfirst, ht⟩ := ofList_eq_ok.1 hs
    rw [← hfirst]
    exact ⟨s.stop, ht⟩
  · rintro ⟨stop, h⟩
    exact ⟨⟨files, firstFrame files, stop⟩, ofList_eq_ok.2 ⟨rfl, rfl, h⟩⟩

/-- The lists that make a set, the frames of the sets they lead to, and where cutting and
joining leave these frames. -/
theorem built_sets_tile_and_keep_frames :
    (∀ files, (∃ s, ofList files = .ok s) ↔
      (∀ d ∈ files, d.Valid) ∧ files.IsChain fun d e => e.start = d.stop) ∧
    ∀ s, Built s →
      s.Tiled ∧
      (∀ frame, s.start ≤ frame → frame < s.stop →
        (∃! k : Nat, ∃ d, s.files[k]? = some d ∧ d.Holds frame) ∧
        ∃ d ∈ s.files, s.owner? frame = some d ∧ d.Holds frame) ∧
      (∀ start stop t, s.restrict start stop = .ok t →
        ∀ frame, start ≤ frame → frame < stop →
          ∃ d e, s.owner? frame = some d ∧ t.owner? frame = some e ∧
            e.FindsAlike d frame) ∧
      ∀ t u, Built t → s.concat t = .ok u →
        (∀ frame, s.start ≤ frame → frame < s.stop →
          ∃ d e, s.owner? frame = some d ∧ u.owner? frame = some e ∧
            e.FindsAlike d frame) ∧
        ∀ frame, t.start ≤ frame → frame < t.stop →
          ∃ d e, t.owner? frame = some d ∧ u.owner? frame = some e ∧
            e.FindsAlike d frame := by
  refine ⟨fun files => exists_ofList_iff, fun s hb => ?_⟩
  have hs := hb.tiled
  refine ⟨hs, fun frame h₁ h₂ => ⟨Chain.existsUnique_holds hs h₁ h₂, ?_⟩, ?_, ?_⟩
  · obtain ⟨d, hd, hmem, hf⟩ := hs.exists_owner h₁ h₂
    exact ⟨d, hmem, hd, hf⟩
  · intro start stop t ht frame h₁ h₂
    have htt := hs.restrict ht
    obtain ⟨⟨_, hlow, hhigh⟩, rfl⟩ := restrict_eq_ok.1 ht
    exact (keeps_clipAll start stop s.files).owners hs htt (by omega) (by omega) h₁ h₂
  · intro t u hbt hu
    have ht := hbt.tiled
    obtain ⟨hut, hkeep⟩ := hs.concat ht hu
    have hleft : ∀ first last, Keeps first last s.files u.files := fun first last =>
      (Keeps.of_subset (List.subset_append_left ..)).trans (hkeep first last)
    have hright : ∀ first last, Keeps first last t.files u.files := fun first last =>
      (Keeps.of_subset (List.subset_append_right ..)).trans (hkeep first last)
    exact ⟨fun frame h₁ h₂ => (hleft s.start s.stop).owners hs hut h₁ h₂ h₁ h₂,
      fun frame h₁ h₂ => (hright t.start t.stop).owners ht hut h₁ h₂ h₁ h₂⟩

def wholeFile (name : String) (start stop : Nat) : FileDescriptor where
  path := ⟨name⟩
  start
  stop
  fileStart := start
  element := .uint16
  signal := [4, 4]
  frameHeader := 0
  frameFooter := 8
  fileHeader := 1024

theorem joined_parts_keep_frame_nine :
    ∃ s t u v, ofList [wholeFile "a.seq" 0 10, wholeFile "b.seq" 10 25] = .ok s ∧
      s.restrict 3 7 = .ok t ∧ s.restrict 7 12 = .ok u ∧ t.concat u = .ok v ∧
      v.files.map (·.span) = [⟨3, 10⟩, ⟨10, 12⟩] ∧
      ∃ d e, u.owner? 9 = some d ∧ v.owner? 9 = some e ∧ e.FindsAlike d 9 := by
  have hset := Built.ofList
    (show ofList [wholeFile "a.seq" 0 10, wholeFile "b.seq" 10 25] = .ok _ from rfl)
  have hjoins : Joins { wholeFile "a.seq" 0 10 with start := 3, stop := 7 }
      { wholeFile "a.seq" 0 10 with start := 7, stop := 10 } := by decide
  have hspans : ([{ wholeFile "a.seq" 0 10 with start := 7, stop := 10 },
      { wholeFile "b.seq" 10 25 with stop := 12 }].foldl appendFile
        [{ wholeFile "a.seq" 0 10 with start := 3, stop := 7 }]).map (·.span) =
          [⟨3, 10⟩, ⟨10, 12⟩] := by
    simp only [List.foldl_cons, List.foldl_nil, appendFile, if_pos hjoins]
    rfl
  refine ⟨_, _, _, _, rfl, rfl, rfl, rfl, hspans, ?_⟩
  have hleft := hset.restrict (show FileSet.restrict _ 3 7 = .ok _ from rfl)
  have hright := hset.restrict (show FileSet.restrict _ 7 12 = .ok _ from rfl)
  have hjoin := (built_sets_tile_and_keep_frames.2 _ hleft).2.2.2 _ _ hright rfl
  exact hjoin.2 9 (by decide) (by decide)

end FileSet

end DetectorScan
