import DetectorScan.Proofs.JoinedRanges

/-!
# Sets that are joined in groups

The sets of a row can be joined two by two in any grouping. It makes no difference, although
a descriptor is made one with the next when the two meet and descriptors of one set that
would join are left apart: at the latest they are made one when that set is itself appended
to another.
-/

namespace DetectorScan.FileSet

open FileDescriptor

/-! ### Appending descriptors in groups -/

theorem Joins.trans {c d e : FileDescriptor} (h : Joins c d) (k : Joins d e) :
    Joins { c with stop := d.stop } e :=
  ⟨k.1, (sameLayout_lengthen c d.stop).trans (h.2.trans k.2)⟩

/-- A descriptor and one that joins it can be made one before they are appended. -/
theorem appendFile_appendFile_of_joins (files : List FileDescriptor) {d e : FileDescriptor}
    (h : Joins d e) :
    appendFile (appendFile files d) e = appendFile files { d with stop := e.stop } := by
  rcases List.eq_nil_or_concat' files with rfl | ⟨init, c, rfl⟩
  · rw [appendFile_nil, appendFile_nil, appendFile, if_pos h]
  · -- whether the last of the list is joined depends on the start of `d` alone
    have hstart : Joins c { d with stop := e.stop } ↔ Joins c d := Iff.rfl
    by_cases hjoin : Joins c d
    · rw [appendFile_concat, if_pos hjoin, appendFile_concat, if_pos (hjoin.trans h),
        appendFile_concat, if_pos (hstart.2 hjoin)]
    · rw [appendFile_concat, if_neg hjoin, appendFile_concat, if_neg (mt hstart.1 hjoin),
        List.append_cons, appendFile_concat, if_pos h, List.append_assoc]
      rfl

theorem foldl_appendFile_appendFile (files more : List FileDescriptor) (e : FileDescriptor) :
    (appendFile more e).foldl appendFile files = appendFile (more.foldl appendFile files) e := by
  rcases List.eq_nil_or_concat' more with rfl | ⟨init, d, rfl⟩
  · rw [appendFile_nil]
    rfl
  · by_cases hjoin : Joins d e
    · rw [appendFile_concat, if_pos hjoin, List.foldl_concat, List.foldl_concat,
        appendFile_appendFile_of_joins _ hjoin]
    · rw [appendFile_concat, if_neg hjoin, List.foldl_append, List.foldl_concat]
      rfl

theorem foldl_appendFile_foldl (files more rest : List FileDescriptor) :
    (rest.foldl appendFile more).foldl appendFile files =
      rest.foldl appendFile (more.foldl appendFile files) := by
  induction rest generalizing more with
  | nil => rfl
  | cons e rest ih => rw [List.foldl_cons, ih, foldl_appendFile_appendFile, List.foldl_cons]

/-! ### Three sets -/

variable {s t u v : FileSet}

theorem exists_concat_iff : (∃ v, s.concat t = .ok v) ↔ t.start = s.stop := by
  simp only [concat_eq_ok, exists_and_left, exists_eq, and_true]

theorem stop_of_concat (h : s.concat t = .ok u) : u.stop = t.stop := by
  obtain ⟨_, rfl⟩ := concat_eq_ok.1 h
  rfl

theorem concat_assoc_iff :
    (s.concat t >>= fun left => left.concat u) = .ok v ↔
      (t.concat u >>= fun right => s.concat right) = .ok v := by
  simp only [bind_eq_ok, concat_eq_ok]
  constructor
  · intro h
    obtain ⟨_, ⟨hst, rfl⟩, htu, rfl⟩ := h
    exact ⟨_, ⟨htu, rfl⟩, hst, by rw [foldl_appendFile_foldl]⟩
  · intro h
    obtain ⟨_, ⟨htu, rfl⟩, hst, rfl⟩ := h
    exact ⟨_, ⟨hst, rfl⟩, htu, by rw [foldl_appendFile_foldl]⟩

/-! ### Joining from the left -/

theorem exists_foldlM_concat_iff (s : FileSet) (rest : List FileSet) :
    (∃ u, rest.foldlM concat s = .ok u) ↔ (s :: rest).IsChain fun s t => t.start = s.stop := by
  induction rest generalizing s with
  | nil => exact ⟨fun _ => List.isChain_singleton s, fun _ => ⟨s, rfl⟩⟩
  | cons t rest ih =>
    have hnext : ∀ v, s.concat t = .ok v → ((∃ u, rest.foldlM concat v = .ok u) ↔
        (t :: rest).IsChain fun s t => t.start = s.stop) := by
      intro v hv
      rw [ih, List.isChain_cons, List.isChain_cons, stop_of_concat hv]
    rw [List.foldlM_cons, List.isChain_cons_cons, ← exists_concat_iff]
    simp only [bind_eq_ok]
    constructor
    · intro h
      obtain ⟨u, v, hv, hu⟩ := h
      exact ⟨⟨v, hv⟩, (hnext v hv).1 ⟨u, hu⟩⟩
    · intro h
      obtain ⟨⟨v, hv⟩, hrest⟩ := h
      obtain ⟨u, hu⟩ := (hnext v hv).2 hrest
      exact ⟨u, v, hv, hu⟩

/-! ### Any grouping -/

/-- A way to join the sets of a row two by two. -/
inductive Grouping where
  | single (s : FileSet)
  | pair (left right : Grouping)

namespace Grouping

def first : Grouping → FileSet
  | single s => s
  | pair left _ => left.first

def others : Grouping → List FileSet
  | single _ => []
  | pair left right => left.others ++ right.first :: right.others

def join : Grouping → Except ScanError FileSet
  | single s => .ok s
  | pair left right => do (← left.join).concat (← right.join)

variable {g : Grouping}

theorem join_pair_eq_ok {left right : Grouping} :
    (pair left right).join = .ok u ↔
      ∃ s, left.join = .ok s ∧ ∃ t, right.join = .ok t ∧ s.concat t = .ok u := by
  simp only [join, bind_eq_ok]

theorem concat_join_iff :
    (∃ t, g.join = .ok t ∧ s.concat t = .ok u) ↔
      (g.first :: g.others).foldlM concat s = .ok u := by
  induction g generalizing s u with
  | single t => simp [join, first, others]
  | pair left right ihl ihr =>
    rw [first, others, ← List.cons_append, List.foldlM_append, bind_eq_ok]
    simp only [← ihl, ← ihr, join_pair_eq_ok]
    -- by associativity the left part is appended to `s` before the right one
    constructor
    · intro h
      obtain ⟨t, ⟨a, ha, b, hb, hab⟩, ht⟩ := h
      obtain ⟨v, hv, hu⟩ := bind_eq_ok.1 (concat_assoc_iff.2 (bind_eq_ok.2 ⟨t, hab, ht⟩))
      exact ⟨v, ⟨a, ha, hv⟩, b, hb, hu⟩
    · intro h
      obtain ⟨v, ⟨a, ha, hv⟩, b, hb, hu⟩ := h
      obtain ⟨t, hab, ht⟩ := bind_eq_ok.1 (concat_assoc_iff.1 (bind_eq_ok.2 ⟨v, hv, hu⟩))
      exact ⟨t, ⟨a, ha, b, hb, hab⟩, ht⟩

theorem join_eq_ok_iff : g.join = .ok u ↔ g.others.foldlM concat g.first = .ok u := by
  induction g generalizing u with
  | single s => rfl
  | pair left right ihl ihr =>
    rw [first, others, List.foldlM_append, bind_eq_ok, join_pair_eq_ok]
    simp only [ihl, concat_join_iff]

end Grouping

/-! ### Errors -/

/-- The computation gives a set or an error of the configuration. -/
def Joinable (x : Except ScanError FileSet) : Prop :=
  (∃ u, x = .ok u) ∨ ∃ cause, x = .error (.config cause)

theorem joinable_concat (s t : FileSet) : Joinable (s.concat t) := by
  unfold concat
  split
  · exact .inr ⟨_, rfl⟩
  · exact .inl ⟨_, rfl⟩

theorem Joinable.bind {x : Except ScanError FileSet} {f : FileSet → Except ScanError FileSet}
    (hx : Joinable x) (hf : ∀ s, Joinable (f s)) : Joinable (x >>= f) := by
  obtain ⟨s, rfl⟩ | ⟨cause, rfl⟩ := hx
  · exact hf s
  · exact .inr ⟨cause, rfl⟩

theorem joinable_foldlM (s : FileSet) (rest : List FileSet) :
    Joinable (rest.foldlM concat s) := by
  induction rest generalizing s with
  | nil => exact .inl ⟨s, rfl⟩
  | cons t rest ih => exact (joinable_concat s t).bind ih

theorem Grouping.joinable_join (g : Grouping) : Joinable g.join := by
  induction g with
  | single s => exact .inl ⟨s, rfl⟩
  | pair left right ihl ihr => exact ihl.bind fun s => ihr.bind (joinable_concat s)

/-- Both computations give one and the same set, or each gives an error of the
configuration. -/
def Agree (x y : Except ScanError FileSet) : Prop :=
  (∃ u, x = .ok u ∧ y = .ok u) ∨
    (∃ cause, x = .error (.config cause)) ∧ ∃ cause, y = .error (.config cause)

theorem agree_of_iff {x y : Except ScanError FileSet} (hx : Joinable x) (hy : Joinable y)
    (h : ∀ u, x = .ok u ↔ y = .ok u) : Agree x y := by
  obtain ⟨u, rfl⟩ | ⟨cause, rfl⟩ := hx
  · exact .inl ⟨u, rfl, (h u).1 rfl⟩
  · obtain ⟨u, rfl⟩ | hy := hy
    · cases (h u).2 rfl
    · exact .inr ⟨⟨cause, rfl⟩, hy⟩

/-! ### The result -/

/-- Three sets give the same, whichever two are joined first, and so do the sets of any row,
however they are grouped. They give a set exactly when each starts where the one before it
stops. -/
theorem sets_join_in_any_grouping :
    (∀ x y z : FileSet,
      Agree (x.concat y >>= fun left => left.concat z)
        (y.concat z >>= fun right => x.concat right) ∧
      ((∃ u, (x.concat y >>= fun left => left.concat z) = .ok u) ↔
        y.start = x.stop ∧ z.start = y.stop)) ∧
    ∀ g : Grouping,
      Agree g.join (g.others.foldlM concat g.first) ∧
      ((∃ u, g.join = .ok u) ↔
        (g.first :: g.others).IsChain fun s t => t.start = s.stop) := by
  constructor
  · intro x y z
    constructor
    · refine agree_of_iff ?_ ?_ fun u => concat_assoc_iff
      · exact (joinable_concat x y).bind fun left => joinable_concat left z
      · exact (joinable_concat y z).bind fun right => joinable_concat x right
    · have hchain := exists_foldlM_concat_iff x [y, z]
      simpa using hchain
  · intro g
    constructor
    · exact agree_of_iff g.joinable_join (joinable_foldlM _ _) fun u => g.join_eq_ok_iff
    · simp only [Grouping.join_eq_ok_iff]
      exact exists_foldlM_concat_iff g.first g.others

end DetectorScan.FileSet
