/-
Module: ModuleAlias.Proofs.Path.Segments
Purpose: Cutting a list at a separator and joining the pieces again. Cutting distributes over a
  separator in the middle of a list, and undoes joining when no piece holds the separator, so facts
  about paths can be stated on their segments. Joining always undoes cutting, so that a list is told
  by its pieces, and what its pieces begin with is told by how the list itself begins.
Imports: ModuleAlias.Path
Main exports: Text.split_append_separator, Text.split_join, Text.mem_join, Text.join_split,
  Text.split_prefix_split_iff
-/
import ModuleAlias.Path

namespace ModuleAlias.Text

variable {α : Type} [DecidableEq α] {separator : α}

/-- There is always a first piece. -/
theorem exists_split_eq_cons (separator : α) (items : List α) :
    ∃ piece pieces, split separator items = piece :: pieces := by
  cases items with
  | nil => exact ⟨[], [], rfl⟩
  | cons item items =>
      rw [split]
      split
      · exact ⟨_, _, rfl⟩
      · split
        · exact ⟨_, _, rfl⟩
        · exact ⟨_, _, rfl⟩

theorem split_ne_nil (items : List α) : split separator items ≠ [] := by
  obtain ⟨piece, pieces, cut⟩ := exists_split_eq_cons separator items
  rw [cut]
  exact List.cons_ne_nil piece pieces

/-- An item that is not the separator goes to the first piece. -/
theorem split_cons_of_ne {item : α} (different : item ≠ separator) {items piece : List α}
    {pieces : List (List α)} (cut : split separator items = piece :: pieces) :
    split separator (item :: items) = (item :: piece) :: pieces := by
  simp [split, different, cut]

/-- A separator ends the piece before it. -/
theorem split_append_separator (front back : List α) :
    split separator (front ++ separator :: back) =
      split separator front ++ split separator back := by
  induction front with
  | nil => simp [split]
  | cons item front ih =>
      by_cases same : item = separator
      · subst same
        simp [split, ih]
      · obtain ⟨piece, pieces, cut⟩ := exists_split_eq_cons separator front
        rw [cut] at ih
        rw [List.cons_append, split_cons_of_ne same ih, split_cons_of_ne same cut]
        rfl

/-- A list without the separator is one piece. -/
theorem split_of_not_mem {items : List α} (absent : separator ∉ items) :
    split separator items = [items] := by
  induction items with
  | nil => rfl
  | cons item items ih =>
      rw [List.mem_cons, not_or] at absent
      exact split_cons_of_ne (Ne.symm absent.1) (ih absent.2)

/-- Cutting undoes joining when there is a piece and none holds the separator. -/
theorem split_join {pieces : List (List α)} (some : pieces ≠ [])
    (clean : ∀ piece ∈ pieces, separator ∉ piece) :
    split separator (join separator pieces) = pieces := by
  induction pieces with
  | nil => exact absurd rfl some
  | cons piece pieces ih =>
      have absent : separator ∉ piece := clean piece List.mem_cons_self
      cases pieces with
      | nil => exact split_of_not_mem absent
      | cons next more =>
          have rest := ih (List.cons_ne_nil next more)
            fun other known => clean other (List.mem_cons_of_mem piece known)
          rw [join, split_append_separator, split_of_not_mem absent, rest]
          · rfl
          · exact List.cons_ne_nil next more

/-- A piece of a list that begins with an item: the empty piece before a separator, the first piece
with the item in front, or one of the other pieces. -/
theorem mem_split_cons {item : α} {items piece : List α}
    (known : piece ∈ split separator (item :: items)) :
    (item = separator ∧ piece = []) ∨
      (item ≠ separator ∧ ∃ first ∈ split separator items, piece = item :: first) ∨
      piece ∈ split separator items := by
  by_cases same : item = separator
  · rw [split, if_pos same] at known
    rcases List.mem_cons.1 known with empty | later
    · exact Or.inl ⟨same, empty⟩
    · exact Or.inr (Or.inr later)
  · obtain ⟨first, pieces, cut⟩ := exists_split_eq_cons separator items
    rw [split_cons_of_ne same cut] at known
    rw [cut]
    rcases List.mem_cons.1 known with head | later
    · exact Or.inr (Or.inl ⟨same, first, List.mem_cons_self, head⟩)
    · exact Or.inr (Or.inr (List.mem_cons_of_mem first later))

/-- No piece holds the separator. -/
theorem separator_not_mem_of_mem_split {items piece : List α}
    (known : piece ∈ split separator items) : separator ∉ piece := by
  induction items generalizing piece with
  | nil =>
      rw [split, List.mem_singleton] at known
      rw [known]
      exact List.not_mem_nil
  | cons item items ih =>
      rcases mem_split_cons known with ⟨_, rfl⟩ | ⟨different, first, member, rfl⟩ | later
      · exact List.not_mem_nil
      · rw [List.mem_cons, not_or]
        exact ⟨Ne.symm different, ih member⟩
      · exact ih later

omit [DecidableEq α] in
/-- What stands in a joined list is the separator or stands in one of the pieces. -/
theorem mem_join {pieces : List (List α)} {item : α} (known : item ∈ join separator pieces) :
    item = separator ∨ ∃ piece ∈ pieces, item ∈ piece := by
  induction pieces with
  | nil => exact absurd known List.not_mem_nil
  | cons piece pieces ih =>
      cases pieces with
      | nil => exact Or.inr ⟨piece, List.mem_cons_self, known⟩
      | cons next more =>
          rw [join, List.mem_append, List.mem_cons] at known
          · rcases known with inside | same | later
            · exact Or.inr ⟨piece, List.mem_cons_self, inside⟩
            · exact Or.inl same
            · rcases ih later with same | ⟨other, member, inside⟩
              · exact Or.inl same
              · exact Or.inr ⟨other, List.mem_cons_of_mem piece member, inside⟩
          · exact List.cons_ne_nil next more

/-!
### Lists told by their pieces
-/

omit [DecidableEq α] in
theorem join_cons_of_ne_nil (piece : List α) {pieces : List (List α)} (some : pieces ≠ []) :
    join separator (piece :: pieces) = piece ++ separator :: join separator pieces := by
  cases pieces with
  | nil => exact absurd rfl some
  | cons next more => rfl

omit [DecidableEq α] in
/-- Lists of pieces put together are joined with a separator between them. -/
theorem join_append {front back : List (List α)} (someFront : front ≠ []) (someBack : back ≠ []) :
    join separator (front ++ back) = join separator front ++ separator :: join separator back := by
  induction front with
  | nil => exact absurd rfl someFront
  | cons piece front ih =>
      cases front with
      | nil => exact join_cons_of_ne_nil piece someBack
      | cons next more =>
          have rest := ih (List.cons_ne_nil next more)
          have some : next :: more ++ back ≠ [] := List.cons_ne_nil next (more ++ back)
          rw [List.cons_append, join_cons_of_ne_nil piece some, rest,
            join_cons_of_ne_nil piece (List.cons_ne_nil next more), List.append_assoc,
            List.cons_append]

/-- Joining undoes cutting. -/
theorem join_split (items : List α) : join separator (split separator items) = items := by
  induction items with
  | nil => rfl
  | cons item items ih =>
      by_cases same : item = separator
      · rw [split, if_pos same, join_cons_of_ne_nil [] (split_ne_nil items), ih, same,
          List.nil_append]
      · obtain ⟨piece, pieces, cut⟩ := exists_split_eq_cons separator items
        rw [cut] at ih
        rw [split_cons_of_ne same cut, ← ih]
        cases pieces with
        | nil => rfl
        | cons next more => rfl

/-- Different lists have different pieces. -/
theorem eq_of_split_eq {items other : List α}
    (same : split separator items = split separator other) : items = other := by
  have joined := congrArg (join separator) same
  rwa [join_split, join_split] at joined

omit [DecidableEq α] in
theorem concat_prefix_append_cons (front : List α) (item : α) (back : List α) :
    front ++ [item] <+: front ++ item :: back := by
  rw [List.prefix_append_right_inj]
  exact List.prefix_append [item] back

omit [DecidableEq α] in
/-- Of two lists that one list goes on from with a separator, the longer, unless they are the same,
goes on from the shorter with a separator. -/
theorem cases_of_concat_prefix {front other items : List α}
    (begins : front ++ [separator] <+: items) (alsoBegins : other ++ [separator] <+: items) :
    front = other ∨ front ++ [separator] <+: other ∨ other ++ [separator] <+: front := by
  rcases List.prefix_or_prefix_of_prefix begins alsoBegins with shorter | shorter
  · rcases List.prefix_concat_iff.1 shorter with same | leads
    · exact Or.inl (List.append_cancel_right same)
    · exact Or.inr (Or.inl leads)
  · rcases List.prefix_concat_iff.1 shorter with same | leads
    · exact Or.inl (List.append_cancel_right same).symm
    · exact Or.inr (Or.inr leads)

/-- The pieces of a list begin with those of another, exactly if the list is the other one or goes
on from it with a separator. -/
theorem split_prefix_split_iff {front items : List α} :
    split separator front <+: split separator items ↔
      items = front ∨ front ++ [separator] <+: items := by
  constructor
  · rintro ⟨more, pieces⟩
    cases more with
    | nil =>
        rw [List.append_nil] at pieces
        exact Or.inl (eq_of_split_eq pieces).symm
    | cons next more =>
        have joined := congrArg (join separator) pieces
        rw [join_append (split_ne_nil front) (List.cons_ne_nil next more), join_split,
          join_split] at joined
        right
        rw [← joined]
        exact concat_prefix_append_cons front separator _
  · rintro (rfl | ⟨rest, rfl⟩)
    · exact List.prefix_rfl
    · rw [List.append_assoc, List.singleton_append, split_append_separator]
      exact List.prefix_append _ _

end ModuleAlias.Text
