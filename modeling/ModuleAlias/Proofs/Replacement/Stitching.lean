/-
Module: ModuleAlias.Proofs.Replacement.Stitching
Purpose: What edits that do not overlap come to. Said from the front to the back, the result is the
  bytes before the first edit, its text, the bytes up to the next one, and so on to the end.
  Applying the edits from the back to the front gives the same, and none of them is left out.
Imports: ModuleAlias.Replacement.Splice, ModuleAlias.Script.Extent, Mathlib.Data.List.Basic
Main exports: Edit.InOrder, Edit.stitched?, Edit.backToFront_eq_reverse,
  Edit.parting_of_inOrder, Edit.applyAll_eq_stitched?, Edit.FitText,
  Edit.isValidUTF8_of_stitched?
-/
import ModuleAlias.Replacement.Splice
import ModuleAlias.Script.Extent
import Mathlib.Data.List.Basic

namespace ModuleAlias

namespace Edit

/-- Edits that follow one another between two offsets, without overlapping. -/
def InOrder (low high : Nat) : List Edit → Prop
  | [] => low ≤ high
  | edit :: edits => low ≤ edit.start ∧ edit.start ≤ edit.stop ∧ InOrder edit.stop high edits

/-- The bytes between two offsets with edits made, from the front to the back: the bytes before an
edit are kept, and its text comes in the place of its range. -/
def stitched? (bytes : ByteArray) (low high : Nat) : List Edit → Option ByteArray
  | [] => some (bytes.extract low high)
  | edit :: edits => do
    let inserted ← Text.toUtf8? edit.text
    let rest ← stitched? bytes edit.stop high edits
    return bytes.extract low edit.start ++ inserted ++ rest

/-!
### Edits in order
-/

section
variable {low high : Nat} {edits : List Edit}

theorem InOrder.le (ordered : InOrder low high edits) : low ≤ high := by
  induction edits generalizing low with
  | nil => exact ordered
  | cons edit edits ih =>
      obtain ⟨before, upward, rest⟩ := ordered
      exact Nat.le_trans before (Nat.le_trans upward (ih rest))

theorem InOrder.of_le {low' : Nat} (ordered : InOrder low high edits) (lower : low' ≤ low) :
    InOrder low' high edits := by
  cases edits with
  | nil => exact Nat.le_trans lower ordered
  | cons edit edits =>
      obtain ⟨before, upward, rest⟩ := ordered
      exact ⟨Nat.le_trans lower before, upward, rest⟩

theorem InOrder.bounds_of_mem (ordered : InOrder low high edits) {edit : Edit}
    (known : edit ∈ edits) : low ≤ edit.start ∧ edit.start ≤ edit.stop ∧ edit.stop ≤ high := by
  induction edits generalizing low with
  | nil => cases known
  | cons first edits ih =>
      obtain ⟨before, upward, rest⟩ := ordered
      rcases List.mem_cons.1 known with same | later
      · subst same
        exact ⟨before, upward, rest.le⟩
      · obtain ⟨after, more⟩ := ih rest later
        exact ⟨Nat.le_trans before (Nat.le_trans upward after), more⟩

/-- An edit ends before the ones after it start. -/
theorem InOrder.pairwise (ordered : InOrder low high edits) :
    edits.Pairwise fun first second => first.stop ≤ second.start := by
  induction edits generalizing low with
  | nil => exact List.Pairwise.nil
  | cons edit edits ih =>
      obtain ⟨_, _, rest⟩ := ordered
      refine List.Pairwise.cons ?_ (ih rest)
      intro later known
      exact (rest.bounds_of_mem known).1

/-- Edits that are not empty start one after another. -/
theorem InOrder.pairwise_start_lt (ordered : InOrder low high edits)
    (nonempty : ∀ edit ∈ edits, edit.start < edit.stop) :
    edits.Pairwise fun first second => first.start < second.start := by
  refine ordered.pairwise.imp_of_mem ?_
  intro first second known _ apart
  exact Nat.lt_of_lt_of_le (nonempty first known) apart

end

/-!
### From the back to the front
-/

/-- Turning edits around loses none of them. -/
theorem backToFront_perm (edits : List Edit) : (backToFront edits).Perm edits :=
  List.mergeSort_perm edits _

theorem pairwise_backToFront (edits : List Edit) :
    (backToFront edits).Pairwise fun first second => second.start ≤ first.start := by
  refine (List.pairwise_mergeSort ?_ ?_ edits).imp ?_
  · intro first second third descending further
    simp only [decide_eq_true_eq] at descending further ⊢
    exact Nat.le_trans further descending
  · intro first second
    simp only [Bool.or_eq_true, decide_eq_true_eq]
    exact Nat.le_total _ _
  · intro first second descending
    exact of_decide_eq_true descending

/-- Where no two edits start at the same byte, later starts can come first in one way only. -/
theorem eq_of_perm_of_descending {edits edits' : List Edit}
    (descending : edits.Pairwise fun first second => second.start ≤ first.start)
    (descending' : edits'.Pairwise fun first second => second.start ≤ first.start)
    (distinct : (edits.map Edit.start).Nodup) (same : edits.Perm edits') : edits = edits' := by
  have distinct' : (edits'.map Edit.start).Nodup := (same.map Edit.start).nodup_iff.1 distinct
  have strict {edits : List Edit}
      (descending : edits.Pairwise fun first second => second.start ≤ first.start)
      (distinct : (edits.map Edit.start).Nodup) :
      edits.Pairwise fun first second => second.start < first.start := by
    refine (descending.and (List.pairwise_map.1 distinct)).imp ?_
    rintro first second ⟨later, different⟩
    exact Nat.lt_of_le_of_ne later (Ne.symm different)
  refine List.Perm.eq_of_pairwise ?_ (strict descending distinct) (strict descending' distinct')
    same
  intro first second _ _ smaller larger
  exact absurd larger (Nat.lt_asymm smaller)

/-- Edits that start one after another are turned around. -/
theorem backToFront_eq_reverse {edits : List Edit}
    (ascending : edits.Pairwise fun first second => first.start < second.start) :
    backToFront edits = edits.reverse := by
  have distinct : (edits.map Edit.start).Nodup :=
    List.pairwise_map.2 (ascending.imp Nat.ne_of_lt)
  apply eq_of_perm_of_descending
  · exact pairwise_backToFront edits
  · exact List.pairwise_reverse.2 (ascending.imp Nat.le_of_lt)
  · exact ((backToFront_perm edits).map Edit.start).nodup_iff.2 distinct
  · exact (backToFront_perm edits).trans (List.reverse_perm edits).symm

/-- Of edits each of which ends before the last one starts, none is left out. -/
theorem part_of_descending {limit : Nat} {edits : List Edit}
    (below : ∀ edit ∈ edits, edit.stop ≤ limit)
    (descending : edits.Pairwise fun first second => second.stop ≤ first.start) :
    part limit edits = { made := edits, leftOut := [] } := by
  induction edits generalizing limit with
  | nil => rfl
  | cons edit edits ih =>
      obtain ⟨after, more⟩ := List.pairwise_cons.1 descending
      have fits : ¬ limit < edit.stop := Nat.not_lt.2 (below edit List.mem_cons_self)
      rw [part, if_neg fits, ih after more]

/-- Of edits in order that are not empty, none is left out. -/
theorem parting_of_inOrder {bytes : ByteArray} {edits : List Edit}
    (ordered : InOrder 0 bytes.size edits)
    (nonempty : ∀ edit ∈ edits, edit.start < edit.stop) :
    parting bytes edits = { made := edits.reverse, leftOut := [] } := by
  rw [parting, backToFront_eq_reverse (ordered.pairwise_start_lt nonempty)]
  apply part_of_descending
  · intro edit known
    have inside := ordered.bounds_of_mem (List.mem_reverse.1 known)
    exact Nat.le_succ_of_le inside.2.2
  · exact List.pairwise_reverse.2 ordered.pairwise

/-!
### From the front to the back
-/

theorem makeAll_append (bytes : ByteArray) (first second : List Edit) :
    makeAll bytes (first ++ second) = (makeAll bytes first).bind (makeAll · second) := by
  induction first generalizing bytes with
  | nil => rfl
  | cons edit first ih =>
      cases inserted : Text.toUtf8? edit.text with
      | none => simp [makeAll, inserted]
      | some inserted' => simp [makeAll, inserted, ih]

/-- An edit is made in front of bytes that stand for everything after it. -/
theorem splice_extract_append {bytes : ByteArray} {start stop : Nat} (inserted rest : ByteArray)
    (upward : start ≤ stop) (inside : stop ≤ bytes.size) :
    splice (bytes.extract 0 stop ++ rest) start stop inserted =
      bytes.extract 0 start ++ (inserted ++ rest) := by
  have size : (bytes.extract 0 stop).size = stop := by
    rw [ByteArray.size_extract]
    omega
  have front : (bytes.extract 0 stop ++ rest).extract 0 start = bytes.extract 0 start := by
    rw [ByteArray.extract_append, size, ByteArray.extract_extract]
    have nothing : rest.extract (0 - stop) (start - stop) = ByteArray.empty := by
      apply ByteArray.extract_eq_empty_iff.2
      omega
    rw [nothing, ByteArray.append_empty, Nat.zero_add, Nat.zero_add, Nat.min_eq_left upward]
  have back : (bytes.extract 0 stop ++ rest).extract stop
      (bytes.extract 0 stop ++ rest).size = rest := by
    apply ByteArray.extract_append_eq_right size.symm
    rw [ByteArray.size_append]
  rw [splice, front, back, ByteArray.append_assoc]

/-- Edits in order, made from the back to the front, leave the bytes before them and come to what
they come to from the front to the back. -/
theorem makeAll_reverse {bytes : ByteArray} {low : Nat} {edits : List Edit}
    (ordered : InOrder low bytes.size edits) :
    makeAll bytes edits.reverse =
      (stitched? bytes low bytes.size edits).map (bytes.extract 0 low ++ ·) := by
  induction edits generalizing low with
  | nil =>
      have whole : bytes.extract 0 low ++ bytes.extract low bytes.size = bytes := by
        rw [← ByteArray.extract_eq_extract_append_extract low (Nat.zero_le low) ordered,
          ByteArray.extract_zero_size]
      simp [makeAll, stitched?, whole]
  | cons edit edits ih =>
      obtain ⟨before, upward, rest⟩ := ordered
      rw [List.reverse_cons, makeAll_append, ih rest]
      cases inserted : Text.toUtf8? edit.text with
      | none => cases stitched? bytes edit.stop bytes.size edits <;>
          simp [makeAll, stitched?, inserted]
      | some inserted' =>
          cases after : stitched? bytes edit.stop bytes.size edits with
          | none => simp [stitched?, inserted, after]
          | some rest' =>
              have joined : splice (bytes.extract 0 edit.stop ++ rest') edit.start edit.stop
                  inserted' =
                    bytes.extract 0 low ++ (bytes.extract low edit.start ++ inserted' ++ rest') := by
                rw [splice_extract_append inserted' rest' upward rest.le,
                  ByteArray.extract_eq_extract_append_extract low (Nat.zero_le low) before]
                simp only [ByteArray.append_assoc]
              simp [makeAll, stitched?, inserted, after, joined]

/-- Edits in order that are not empty come to what they come to from the front to the back. -/
theorem applyAll_eq_stitched? {bytes : ByteArray} {edits : List Edit}
    (ordered : InOrder 0 bytes.size edits)
    (nonempty : ∀ edit ∈ edits, edit.start < edit.stop) :
    applyAll bytes edits = stitched? bytes 0 bytes.size edits := by
  rw [applyAll, parting_of_inOrder ordered nonempty, makeAll_reverse ordered]
  simp

end Edit

/-!
### Texts
-/

theorem extract_middle (before middle after : ByteArray) :
    (before ++ middle ++ after).extract before.size (before ++ middle).size = middle := by
  rw [ByteArray.append_assoc, ByteArray.size_append]
  have behind := @ByteArray.extract_append_size_add before (middle ++ after) 0 middle.size
  rw [Nat.add_zero] at behind
  rw [behind]
  exact ByteArray.extract_append_eq_left rfl

/-- The bytes that a text was read from are the bytes of the text. -/
theorem Text.toUTF8_of_fromUTF8? {bytes : ByteArray} {string : String}
    (decoded : String.fromUTF8? bytes = some string) : string.toUTF8 = bytes := by
  unfold String.fromUTF8? at decoded
  split at decoded
  · cases decoded
    rfl
  · cases decoded

theorem Text.isSome_fromUTF8? {bytes : ByteArray} (valid : bytes.IsValidUTF8) :
    (String.fromUTF8? bytes).isSome := by
  simp [String.fromUTF8?, valid]

namespace Edit

/-- An edit of a text takes out whole characters, at least one. -/
structure TakesCharacters (text : String) (edit : Edit) : Prop where
  nonempty : edit.start < edit.stop
  starts : Script.BetweenCharacters text edit.start
  stops : Script.BetweenCharacters text edit.stop

/-- Edits of a text follow one another between two offsets and take out whole characters. -/
structure FitText (text : String) (low high : Nat) (edits : List Edit) : Prop where
  ordered : InOrder low high edits
  whole : ∀ edit ∈ edits, TakesCharacters text edit

theorem FitText.nil {text : String} {low high : Nat} (upward : low ≤ high) :
    FitText text low high [] where
  ordered := upward
  whole := by simp

theorem FitText.cons {text : String} {low high : Nat} {edit : Edit} {edits : List Edit}
    (before : low ≤ edit.start) (here : TakesCharacters text edit)
    (rest : FitText text edit.stop high edits) : FitText text low high (edit :: edits) where
  ordered := ⟨before, Nat.le_of_lt here.nonempty, rest.ordered⟩
  whole := by
    intro other known
    rcases List.mem_cons.1 known with same | later
    · exact same ▸ here
    · exact rest.whole other later

theorem FitText.of_le {text : String} {low low' high : Nat} {edits : List Edit}
    (fit : FitText text low high edits) (lower : low' ≤ low) : FitText text low' high edits where
  ordered := fit.ordered.of_le lower
  whole := fit.whole

theorem FitText.nonempty {text : String} {low high : Nat} {edits : List Edit}
    (fit : FitText text low high edits) : ∀ edit ∈ edits, edit.start < edit.stop :=
  fun edit known => (fit.whole edit known).nonempty

theorem isValidUTF8_of_toUtf8? {text : Text} {bytes : ByteArray}
    (written : Text.toUtf8? text = some bytes) : bytes.IsValidUTF8 := by
  obtain ⟨string, _, same⟩ := Option.map_eq_some_iff.1 written
  exact same ▸ string.isValidUTF8

/-- The bytes between two characters of a text are characters. -/
theorem isValidUTF8_extract {text : String} {low high : Nat} (upward : low ≤ high)
    (starts : Script.BetweenCharacters text low) (stops : Script.BetweenCharacters text high) :
    (text.toUTF8.extract low high).IsValidUTF8 :=
  (String.Pos.Raw.isValidUTF8_extract_iff ⟨low⟩ ⟨high⟩ upward stops.le_rawEndPos).2
    (Or.inr ⟨starts, stops⟩)

/-- A text with whole characters replaced by texts is a text. -/
theorem isValidUTF8_of_stitched? {text : String} {low high : Nat} {edits : List Edit}
    {bytes : ByteArray} (fit : FitText text low high edits)
    (starts : Script.BetweenCharacters text low) (stops : Script.BetweenCharacters text high)
    (stitched : stitched? text.toUTF8 low high edits = some bytes) : bytes.IsValidUTF8 := by
  induction edits generalizing low bytes with
  | nil =>
      rw [stitched?, Option.some_inj] at stitched
      rw [← stitched]
      exact isValidUTF8_extract fit.ordered starts stops
  | cons edit edits ih =>
      obtain ⟨⟨before, upward, rest⟩, whole⟩ := fit
      have here := whole edit List.mem_cons_self
      obtain ⟨inserted, written, stitched⟩ := Option.bind_eq_some_iff.1 stitched
      obtain ⟨after, stitched', same⟩ := Option.bind_eq_some_iff.1 stitched
      have fit' : FitText text edit.stop high edits :=
        ⟨rest, fun edit known => whole edit (List.mem_cons_of_mem _ known)⟩
      have valid := ih fit' here.stops stitched'
      rw [Option.pure_def, Option.some_inj] at same
      rw [← same]
      refine ByteArray.IsValidUTF8.append (ByteArray.IsValidUTF8.append ?_ ?_) valid
      · exact isValidUTF8_extract before starts here.starts
      · exact isValidUTF8_of_toUtf8? written

end Edit

end ModuleAlias
