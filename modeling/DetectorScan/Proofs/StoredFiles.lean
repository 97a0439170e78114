import DetectorScan.Proofs.Attempts
import DetectorScan.Storage
import Mathlib.Data.List.Basic

/-!
# Reading what was stored

A file that was written at a path is found there, and what is found at a path that leads
elsewhere stays as it was. Where a path leads does not depend on the files; they only
decide which error ends a path that goes on behind a name.
-/

namespace DetectorScan

/-! ### The last piece of a path -/

namespace Path

theorem pieces_of_no_slash {cs : List Char} (h : '/' ∉ cs) : pieces cs = [cs] := by
  induction cs with
  | nil => rfl
  | cons c cs ih =>
    obtain ⟨hc, hcs⟩ := List.ne_and_not_mem_of_not_mem_cons h
    rw [pieces, if_neg (Ne.symm hc), ih hcs]

theorem getLast?_pieces_append {suffix : List Char} (h : '/' ∉ suffix) (cs : List Char) :
    ∃ last, (pieces (cs ++ suffix)).getLast? = some last ∧ suffix <:+ last := by
  induction cs with
  | nil => exact ⟨suffix, by rw [List.nil_append, pieces_of_no_slash h]; rfl, List.suffix_rfl⟩
  | cons c cs ih =>
    obtain ⟨last, hlast, hsuffix⟩ := ih
    rw [List.cons_append, pieces]
    cases hpieces : pieces (cs ++ suffix) with
    | nil => exact absurd hpieces (pieces_ne_nil _)
    | cons piece others =>
      rw [hpieces] at hlast
      by_cases hc : c = '/'
      · rw [if_pos hc]
        exact ⟨last, by rw [List.getLast?_cons_cons, hlast], hsuffix⟩
      · rw [if_neg hc]
        cases others with
        | nil =>
          obtain rfl : piece = last := by simpa using hlast
          exact ⟨c :: piece, rfl, hsuffix.trans (List.suffix_cons c piece)⟩
        | cons next others =>
          rw [List.getLast?_cons_cons] at hlast
          exact ⟨last, by rw [List.getLast?_cons_cons, hlast], hsuffix⟩

end Path

theorem FileView.holds_iff {files : FileView} {path : Path} :
    files.holds path = true ↔ ∃ found, files.find path = .ok found := by
  rw [holds]
  cases files.find path with
  | error e => simp [Except.toOption]
  | ok found => simp [Except.toOption]

namespace Storage

theorem enter_eq_ok {way piece entry : List Char} (h : enter way piece = .ok entry) :
    entry = way ++ piece := by
  unfold enter at h
  split at h
  · contradiction
  · exact (Except.ok.inj h).symm

/-! ### Where a path leads -/

/-- Where the pieces of a path lead from a directory, whatever files there are. -/
inductive Leads : List Char → List (List Char) → Place → Prop
  | here (way : List Char) : Leads way [] (.directory way)
  | stay {way piece : List Char} {rest : List (List Char)} {place : Place}
      (hpiece : piece = [] ∨ piece = ['.']) (hrest : Leads way rest place) :
      Leads way (piece :: rest) place
  | up {way : List Char} {rest : List (List Char)} {place : Place}
      (hrest : Leads (above way) rest place) : Leads way (['.', '.'] :: rest) place
  | name {way piece entry : List Char} (hpiece : piece ≠ []) (hdots : ¬IsDots piece)
      (hentry : enter way piece = .ok entry) : Leads way [piece] (.entry entry)

theorem walk_eq_ok_iff {s : Storage} {way : List Char} {pieces : List (List Char)}
    {place : Place} : s.walk way pieces = .ok place ↔ Leads way pieces place := by
  constructor
  · intro h
    induction pieces generalizing way with
    | nil =>
      obtain rfl : Place.directory way = place := Except.ok.inj h
      exact .here way
    | cons piece rest ih =>
      rw [walk] at h
      by_cases hstay : piece = [] ∨ piece = ['.']
      · rw [if_pos hstay] at h
        exact .stay hstay (ih h)
      rw [if_neg hstay] at h
      by_cases hup : piece = ['.', '.']
      · rw [if_pos hup] at h
        rw [hup]
        exact .up (ih h)
      rw [if_neg hup] at h
      obtain ⟨entry, hentry, h⟩ := bind_eq_ok.1 h
      by_cases hrest : rest = []
      · rw [if_pos hrest] at h
        obtain rfl : Place.entry entry = place := Except.ok.inj h
        rw [hrest]
        exact .name (fun hnil => hstay (.inl hnil))
          (fun hdots => hdots.elim (fun hdot => hstay (.inr hdot)) hup) hentry
      · rw [if_neg hrest] at h
        contradiction
  · intro h
    induction h with
    | here way => rfl
    | stay hpiece _ ih => rw [walk, if_pos hpiece, ih]
    | up _ ih => rw [walk, if_neg (by decide), if_pos rfl, ih]
    | @name way piece entry hpiece hdots hentry =>
      have hstay : ¬(piece = [] ∨ piece = ['.']) := by
        rintro (hnil | hdot)
        · exact hpiece hnil
        · exact hdots (.inl hdot)
      have hup : piece ≠ ['.', '.'] := fun hup => hdots (.inr hup)
      rw [walk, if_neg hstay, if_neg hup, hentry]
      rfl

namespace Leads

variable {way other : List Char} {pieces more : List (List Char)} {place : Place}

theorem append (h : Leads way pieces (.directory other)) (hmore : Leads other more place) :
    Leads way (pieces ++ more) place := by
  generalize hplace : Place.directory other = directory at h
  induction h with
  | here way =>
    obtain rfl := Place.directory.inj hplace
    exact hmore
  | stay hpiece _ ih => exact .stay hpiece (ih hplace)
  | up _ ih => exact .up (ih hplace)
  | name => contradiction

theorem of_filter (h : Leads way (pieces.filter (· ≠ [])) place)
    (hlast : pieces.getLast? ≠ some []) : Leads way pieces place := by
  induction pieces generalizing way with
  | nil => exact h
  | cons piece rest ih =>
    have hrest : rest.getLast? ≠ some [] := by
      cases rest with
      | nil => simp
      | cons next rest => rwa [List.getLast?_cons_cons] at hlast
    by_cases hpiece : piece = []
    · rw [List.filter_cons_of_neg (by simp [hpiece])] at h
      exact .stay (.inl hpiece) (ih h hrest)
    · rw [List.filter_cons_of_pos (by simp [hpiece])] at h
      generalize hfiltered : rest.filter (· ≠ []) = filtered at h ih
      cases h with
      | stay hstay h => exact .stay hstay (ih h hrest)
      | up h => exact .up (ih h hrest)
      | name _ hdots hentry =>
        -- A name ends the walk, so what follows it could only be empty, and the path does
        -- not end so.
        have hnil : rest = [] := by
          rcases List.eq_nil_or_concat rest with hnil | ⟨init, last, rfl⟩
          · exact hnil
          · have hempty : last = [] := by simpa using List.filter_eq_nil_iff.1 hfiltered last
            simp [hempty] at hrest
        rw [hnil]
        exact .name hpiece hdots hentry

theorem suffix {entry last : List Char} (h : Leads way pieces (.entry entry))
    (hlast : pieces.getLast? = some last) : last <:+ entry := by
  generalize hplace : Place.entry entry = place at h
  induction h with
  | here => contradiction
  | @stay _ _ rest _ _ hrest ih =>
    cases rest with
    | nil => cases hrest; contradiction
    | cons next rest => exact ih (by rwa [List.getLast?_cons_cons] at hlast) hplace
  | @up _ rest _ hrest ih =>
    cases rest with
    | nil => cases hrest; contradiction
    | cons next rest => exact ih (by rwa [List.getLast?_cons_cons] at hlast) hplace
  | @name way piece _ _ _ hentry =>
    obtain rfl := Place.entry.inj hplace
    obtain rfl : piece = last := by simpa using hlast
    rw [enter_eq_ok hentry]
    exact List.suffix_append way piece

end Leads

theorem startAndPieces_eq_ok {p : Path} {start : List Char} {pieces : List (List Char)}
    (h : startAndPieces p = .ok (start, pieces)) : Path.pieces p.text.toList = pieces := by
  simp only [startAndPieces] at h
  split at h
  · contradiction
  split at h
  · contradiction
  split at h
  · contradiction
  exact congrArg Prod.snd (Except.ok.inj h)

def LeadsTo (p : Path) (place : Place) : Prop :=
  ∃ start pieces, startAndPieces p = .ok (start, pieces) ∧ Leads start pieces place

theorem locate_eq_ok_iff {s : Storage} {p : Path} {place : Place} :
    s.locate p = .ok place ↔ LeadsTo p place := by
  rw [locate, bind_eq_ok]
  constructor
  · rintro ⟨⟨start, pieces⟩, hstart, hwalk⟩
    exact ⟨start, pieces, hstart, walk_eq_ok_iff.1 hwalk⟩
  · rintro ⟨start, pieces, hstart, hleads⟩
    exact ⟨(start, pieces), hstart, walk_eq_ok_iff.2 hleads⟩

theorem leadsTo_of_targetWay {s : Storage} {p : Path} {way : List Char}
    (h : s.targetWay p = .ok way) : LeadsTo p (.entry way) := by
  obtain ⟨⟨start, pieces⟩, hstart, h⟩ := bind_eq_ok.1 h
  refine ⟨start, pieces, hstart, ?_⟩
  dsimp only at h
  cases hfinal : (pieces.filter (· ≠ [])).getLast? with
  | none =>
    rw [hfinal] at h
    contradiction
  | some last =>
    rw [hfinal] at h
    obtain ⟨place, hwalk, h⟩ := bind_eq_ok.1 h
    cases place with
    | entry other => contradiction
    | directory dir =>
      dsimp only at h
      by_cases hrefused : IsDots last ∨ pieces.getLast? = some []
      · rw [if_pos hrefused] at h
        contradiction
      rw [if_neg hrefused] at h
      rw [not_or] at hrefused
      have hlast : last ≠ [] := by
        simpa using (List.mem_filter.1 (List.mem_of_getLast? hfinal)).2
      -- A file is written at the last piece that is not empty, and reading comes past all.
      have hname : Leads dir [last] (.entry way) := .name hlast hrefused.1 h
      have hpieces : (pieces.filter (· ≠ [])).dropLast ++ [last] = pieces.filter (· ≠ []) :=
        List.dropLast_append_getLast? last hfinal
      have hfiltered := (walk_eq_ok_iff.1 hwalk).append hname
      rw [hpieces] at hfiltered
      exact hfiltered.of_filter hrefused.2

theorem suffix_of_leadsTo_append {p : Path} {suffix : String} {way : List Char}
    (hslash : '/' ∉ suffix.toList) (h : LeadsTo (p.append suffix) (.entry way)) :
    suffix.toList <:+ way := by
  obtain ⟨start, pieces, hstart, hleads⟩ := h
  have hpieces : Path.pieces (p.text.toList ++ suffix.toList) = pieces := by
    rw [← String.toList_append]
    exact startAndPieces_eq_ok hstart
  obtain ⟨last, hlast, hsuffix⟩ := Path.getLast?_pieces_append hslash p.text.toList
  exact hsuffix.trans (hleads.suffix (hpieces ▸ hlast))

/-! ### What is found at a path -/

theorem find_eq_ok_iff {s : Storage} {p : Path} {found : Found} :
    s.view.find p = .ok found ↔
      (∃ way, LeadsTo p (.directory way) ∧ found = .directory) ∨
      ∃ way content, LeadsTo p (.entry way) ∧ s.find? way = some content
        ∧ found = .file content := by
  simp only [view, bind_eq_ok, locate_eq_ok_iff]
  constructor
  · rintro ⟨place, hplace, hfound⟩
    cases place with
    | directory way => exact .inl ⟨way, hplace, (Except.ok.inj hfound).symm⟩
    | entry way =>
      dsimp only at hfound
      cases hcontent : s.find? way with
      | none =>
        rw [hcontent] at hfound
        contradiction
      | some content =>
        rw [hcontent] at hfound
        exact .inr ⟨way, content, hplace, hcontent, (Except.ok.inj hfound).symm⟩
  · rintro (⟨way, hplace, rfl⟩ | ⟨way, content, hplace, hcontent, rfl⟩)
    · exact ⟨.directory way, hplace, rfl⟩
    · exact ⟨.entry way, hplace, by simp [hcontent]⟩

/-- Two paths lead to no common name. -/
def Apart (p q : Path) : Prop :=
  ∀ way, LeadsTo p (.entry way) → ¬LeadsTo q (.entry way)

theorem apart_append {p : Path} {a b : String} (ha : '/' ∉ a.toList) (hb : '/' ∉ b.toList)
    (hlength : a.toList.length = b.toList.length) (hne : a ≠ b) :
    Apart (p.append a) (p.append b) := by
  intro way hp hq
  have hsuffix := suffix_of_leadsTo_append ha hp
  have hsuffix' := suffix_of_leadsTo_append hb hq
  have heq : a.toList = b.toList :=
    (List.suffix_of_suffix_length_le hsuffix hsuffix' (Nat.le_of_eq hlength)).eq_of_length hlength
  exact hne (String.toList_inj.1 heq)

theorem write_eq_ok_iff {s stored : Storage} {p : Path} {b : Bytes} :
    s.write p b = (stored, .ok ()) ↔
      ∃ way, s.targetWay p = .ok way ∧ s.put way (.ofBytes b) = stored := by
  unfold write
  cases s.targetWay p with
  | error cause => simp
  | ok way => simp

theorem write_of_target_error {s : Storage} {p : Path} {cause : StorageError}
    (h : s.targetWay p = .error cause) (b : Bytes) : s.write p b = (s, .error cause) := by
  rw [write, h]

theorem map_write_self {s stored : Storage} {p : Path} {b : Bytes}
    (h : s.write p b = (stored, .ok ())) : stored.view.map p = .ok (.ofBytes b) := by
  obtain ⟨way, hway, rfl⟩ := write_eq_ok_iff.1 h
  refine FileView.map_eq_ok.2 ⟨?_, rfl⟩
  exact find_eq_ok_iff.2 (.inr ⟨way, .ofBytes b, leadsTo_of_targetWay hway, find?_put_self .., rfl⟩)

theorem find_write_of_apart {s stored : Storage} {p q : Path} {b : Bytes} {found : Found}
    (h : s.write p b = (stored, .ok ())) (hapart : Apart p q) :
    stored.view.find q = .ok found ↔ s.view.find q = .ok found := by
  obtain ⟨way, hway, rfl⟩ := write_eq_ok_iff.1 h
  rw [find_eq_ok_iff, find_eq_ok_iff]
  have hsame : ∀ other, LeadsTo q (.entry other) →
      (s.put way (.ofBytes b)).find? other = s.find? other := by
    intro other hother
    refine find?_put_of_ne s ?_ _
    rintro rfl
    exact hapart other (leadsTo_of_targetWay hway) hother
  constructor
  · rintro (hdirectory | ⟨other, content, hother, hcontent, hfound⟩)
    · exact .inl hdirectory
    · exact .inr ⟨other, content, hother, hsame other hother ▸ hcontent, hfound⟩
  · rintro (hdirectory | ⟨other, content, hother, hcontent, hfound⟩)
    · exact .inl hdirectory
    · exact .inr ⟨other, content, hother, (hsame other hother).trans hcontent, hfound⟩

theorem map_write_of_apart {s stored : Storage} {p q : Path} {b : Bytes} {content : FileContent}
    (h : s.write p b = (stored, .ok ())) (hapart : Apart p q) :
    stored.view.map q = .ok content ↔ s.view.map q = .ok content := by
  rw [FileView.map_eq_ok, FileView.map_eq_ok, find_write_of_apart h hapart]
  rfl

theorem holds_write_of_apart {s stored : Storage} {p q : Path} {b : Bytes}
    (h : s.write p b = (stored, .ok ())) (hapart : Apart p q) :
    stored.view.holds q = s.view.holds q := by
  rw [Bool.eq_iff_iff, FileView.holds_iff, FileView.holds_iff]
  simp only [find_write_of_apart h hapart]

end Storage

end DetectorScan
