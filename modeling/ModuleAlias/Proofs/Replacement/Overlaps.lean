/-
Module: ModuleAlias.Proofs.Replacement.Overlaps
Purpose: What edits come to that are given in any order and may overlap. Going from the back to the
  front, an edit is made unless it ends after the start of the one made last; so the edits that are
  made follow one another, each one that is left out reaches into one of them, and the result is
  what the made ones come to from the front to the back. The order in which edits are given counts
  only for edits that start at the same byte.
Imports: ModuleAlias.Proofs.Replacement.Encoding
Main exports: Edit.part_perm, Edit.inOrder_reverse_part, Edit.reaches_of_mem_leftOut,
  Edit.applyAll_splices
-/
import ModuleAlias.Proofs.Replacement.Encoding

namespace ModuleAlias.Edit

/-!
### Edits that are made and edits that are left out
-/

/-- An edit that is left out reaches into one that is made: it starts no later, and ends after the
other one has started. -/
def ReachesInto (edit other : Edit) : Prop := edit.start ≤ other.start ∧ other.start < edit.stop

instance (edit other : Edit) : Decidable (edit.ReachesInto other) :=
  inferInstanceAs (Decidable (_ ∧ _))

section
variable {limit : Nat} {edit : Edit} {edits : List Edit}

theorem part_cons_of_lt (beyond : limit < edit.stop) :
    part limit (edit :: edits) =
      let rest := part limit edits
      { rest with leftOut := edit :: rest.leftOut } := by
  rw [part, if_pos beyond]

theorem part_cons_of_le (fits : edit.stop ≤ limit) :
    part limit (edit :: edits) =
      let rest := part edit.start edits
      { rest with made := edit :: rest.made } := by
  rw [part, if_neg (Nat.not_lt.2 fits)]

/-- Every edit is either made or left out. -/
theorem part_perm (limit : Nat) (edits : List Edit) :
    ((part limit edits).made ++ (part limit edits).leftOut).Perm edits := by
  induction edits generalizing limit with
  | nil => exact List.Perm.refl []
  | cons edit edits ih =>
      rcases Nat.lt_or_ge limit edit.stop with beyond | fits
      · rw [part_cons_of_lt beyond]
        exact List.perm_middle.trans ((ih limit).cons edit)
      · rw [part_cons_of_le fits]
        exact (ih edit.start).cons edit

/-- A limit beyond the end of all edits makes no difference. -/
theorem part_of_le {limit' : Nat} (inside : ∀ edit ∈ edits, edit.stop ≤ limit)
    (further : limit ≤ limit') : part limit' edits = part limit edits := by
  cases edits with
  | nil => rfl
  | cons edit edits =>
      have fits := inside edit List.mem_cons_self
      rw [part_cons_of_le fits, part_cons_of_le (Nat.le_trans fits further)]

/-- Edits follow one another if those before the last one do, and the last one starts where they
end. -/
theorem InOrder.concat {low high : Nat} (ordered : InOrder low edit.start edits)
    (upward : edit.start ≤ edit.stop) (inside : edit.stop ≤ high) :
    InOrder low high (edits ++ [edit]) := by
  induction edits generalizing low with
  | nil => exact ⟨ordered, upward, inside⟩
  | cons first edits ih =>
      obtain ⟨before, upward', rest⟩ := ordered
      exact ⟨before, upward', ih rest⟩

/-- The edits that are made, turned around, follow one another up to the limit: each of them ends
where the one made before it starts, or earlier. -/
theorem inOrder_reverse_part (upward : ∀ edit ∈ edits, edit.start ≤ edit.stop) :
    InOrder 0 limit (part limit edits).made.reverse := by
  induction edits generalizing limit with
  | nil => exact Nat.zero_le limit
  | cons edit edits ih =>
      obtain ⟨here, later⟩ := List.forall_mem_cons.1 upward
      rcases Nat.lt_or_ge limit edit.stop with beyond | fits
      · rw [part_cons_of_lt beyond]
        exact ih later
      · rw [part_cons_of_le fits, List.reverse_cons]
        exact (ih later).concat here fits

/-- When later starts come first, an edit that is left out ends after the limit, or reaches into one
that is made. -/
theorem reaches_of_mem_leftOut
    (descending : edits.Pairwise fun first second => second.start ≤ first.start)
    {left : Edit} (known : left ∈ (part limit edits).leftOut) :
    limit < left.stop ∨ ∃ made ∈ (part limit edits).made, left.ReachesInto made := by
  induction edits generalizing limit with
  | nil => cases known
  | cons edit edits ih =>
      obtain ⟨earlier, descending'⟩ := List.pairwise_cons.1 descending
      rcases Nat.lt_or_ge limit edit.stop with beyond | fits
      · rw [part_cons_of_lt beyond] at known ⊢
        rcases List.mem_cons.1 known with rfl | later
        · exact Or.inl beyond
        · exact ih descending' later
      · rw [part_cons_of_le fits] at known ⊢
        -- The edit made here is the limit for those after it, all of which start no later.
        have after : left ∈ edits :=
          (part_perm edit.start edits).subset (List.mem_append_right _ known)
        rcases ih descending' known with beyond | ⟨made, isMade, reaches⟩
        · exact Or.inr ⟨edit, List.mem_cons_self, earlier left after, beyond⟩
        · exact Or.inr ⟨made, List.mem_cons_of_mem _ isMade, reaches⟩

end

/-!
### Edits in any order
-/

section
variable {bytes : ByteArray} {edits : List Edit}

/-- The end of the bytes is limit enough for edits inside of them. -/
theorem parting_eq_part (inside : ∀ edit ∈ edits, edit.stop ≤ bytes.size) :
    parting bytes edits = part bytes.size (backToFront edits) := by
  apply part_of_le
  · intro edit known
    exact inside edit ((backToFront_perm edits).subset known)
  · exact Nat.le_succ bytes.size

/-- Edits of which no two start at the same byte come from the back to the front in one order,
however they are given. -/
theorem backToFront_eq_of_perm {edits' : List Edit} (distinct : (edits.map Edit.start).Nodup)
    (same : edits'.Perm edits) : backToFront edits' = backToFront edits := by
  have same' : (backToFront edits').Perm (backToFront edits) :=
    ((backToFront_perm edits').trans same).trans (backToFront_perm edits).symm
  apply eq_of_perm_of_descending
  · exact pairwise_backToFront edits'
  · exact pairwise_backToFront edits
  · exact (((backToFront_perm edits').trans same).map Edit.start).nodup_iff.2 distinct
  · exact same'

end

/-- What edits inside some bytes come to, in any order and with any overlaps. Each is made or left
out; the made ones do not overlap, and each one left out reaches into a made one. Outside the ranges
of the made ones the bytes are kept, and each range is replaced by the text of its edit in UTF-8; a
text that cannot be written so is all that can prevent it. If no two edits start at the same byte,
the order in which they are given makes no difference. -/
theorem applyAll_splices (bytes : ByteArray) (edits : List Edit)
    (inside : ∀ edit ∈ edits, edit.start ≤ edit.stop ∧ edit.stop ≤ bytes.size) :
    let parted := parting bytes edits
    (parted.made ++ parted.leftOut).Perm edits ∧
      (parted.made.Pairwise fun later earlier => earlier.stop ≤ later.start) ∧
      (∀ left ∈ parted.leftOut, ∃ made ∈ parted.made, left.ReachesInto made) ∧
      applyAll bytes edits = stitched? bytes 0 bytes.size parted.made.reverse ∧
      ((∃ result, applyAll bytes edits = some result) ↔
        ∀ made ∈ parted.made, made.text.Encodable) ∧
      ((edits.map Edit.start).Nodup → ∀ edits', edits'.Perm edits →
        parting bytes edits' = parted ∧ applyAll bytes edits' = applyAll bytes edits) := by
  intro parted
  have known : ∀ edit ∈ backToFront edits, edit.start ≤ edit.stop ∧ edit.stop ≤ bytes.size :=
    fun edit known => inside edit ((backToFront_perm edits).subset known)
  have parted_eq : parted = part bytes.size (backToFront edits) :=
    parting_eq_part fun edit known => (inside edit known).2
  have all : (parted.made ++ parted.leftOut).Perm (backToFront edits) := by
    rw [parted_eq]
    exact part_perm bytes.size (backToFront edits)
  have ordered : InOrder 0 bytes.size parted.made.reverse := by
    rw [parted_eq]
    exact inOrder_reverse_part fun edit here => (known edit here).1
  have stitches : applyAll bytes edits = stitched? bytes 0 bytes.size parted.made.reverse := by
    have made := makeAll_reverse ordered
    rw [List.reverse_reverse] at made
    simpa [applyAll] using made
  refine ⟨all.trans (backToFront_perm edits), ?apart, ?reach, stitches, ?written, ?order⟩
  case apart =>
    exact List.pairwise_reverse.1 ordered.pairwise
  case reach =>
    intro left isLeft
    have fits := (known left (all.subset (List.mem_append_right _ isLeft))).2
    rw [parted_eq] at isLeft ⊢
    rcases reaches_of_mem_leftOut (pairwise_backToFront edits) isLeft with beyond | reaches
    · exact absurd beyond (Nat.not_lt.2 fits)
    · exact reaches
  case written =>
    rw [stitches, ← Option.isSome_iff_exists, isSome_stitched?_iff]
    simp only [List.mem_reverse]
  case order =>
    intro distinct edits' same
    have turned : parting bytes edits' = parted := by
      simp only [parted, parting, backToFront_eq_of_perm distinct same]
    refine ⟨turned, ?_⟩
    rw [applyAll, turned, applyAll]

/-!
### Edits that cross
-/

/-- Edits of ten digits, in no order: two that overlap, one that inserts something behind them, and
one with a character of two bytes. -/
def crossingEdits : List Edit :=
  [{ start := 2, stop := 5, text := "X" }, { start := 7, stop := 7, text := "Z" },
    { start := 4, stop := 7, text := "Y" }, { start := 0, stop := 2, text := "é" }]

theorem parting_crossingEdits :
    parting "0123456789".toUTF8 crossingEdits =
      { made :=
          [{ start := 7, stop := 7, text := "Z" }, { start := 4, stop := 7, text := "Y" },
            { start := 0, stop := 2, text := "é" }],
        leftOut := [{ start := 2, stop := 5, text := "X" }] } := by
  have sorted : backToFront crossingEdits =
      [{ start := 7, stop := 7, text := "Z" }, { start := 4, stop := 7, text := "Y" },
        { start := 2, stop := 5, text := "X" }, { start := 0, stop := 2, text := "é" }] := by
    apply eq_of_perm_of_descending
    · exact pairwise_backToFront crossingEdits
    · decide
    · exact ((backToFront_perm crossingEdits).map Edit.start).nodup_iff.2 (by decide)
    · exact (backToFront_perm crossingEdits).trans (by decide)
  rw [parting, sorted]
  rfl

theorem crossingEdits_splice :
    applyAll "0123456789".toUTF8 crossingEdits = some "é23YZ789".toUTF8 ∧
      applyAll "0123456789".toUTF8 crossingEdits.reverse = some "é23YZ789".toUTF8 := by
  obtain ⟨_, _, _, stitches, _, order⟩ :=
    applyAll_splices "0123456789".toUTF8 crossingEdits (by decide)
  have result : applyAll "0123456789".toUTF8 crossingEdits = some "é23YZ789".toUTF8 := by
    rw [stitches, parting_crossingEdits]
    decide +kernel
  obtain ⟨_, same⟩ := order (by decide) _ (List.reverse_perm crossingEdits)
  exact ⟨result, same.trans result⟩

end ModuleAlias.Edit
