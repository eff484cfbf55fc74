/-
Module: ModuleAlias.Proofs.Path.Directories
Purpose: The names of the directory that a file lies in: those of the file without the last one. How
  the path of the file is spelled, and which directory a relative path is read from, matter only for
  the names that it has.
Imports: Mathlib.Data.List.DropRight, ModuleAlias.Proofs.Path.PlainPaths
Main exports: Path.names_eq_of_significant_eq, Path.names_parent_normalize
-/
import Mathlib.Data.List.DropRight
import ModuleAlias.Proofs.Path.PlainPaths

namespace ModuleAlias.Path

/-!
### Spellings of a path
-/

/-- Only the significant segments of a path lead anywhere. -/
theorem traverse_eq_foldl_significant (stack : List Text) (path : Text) :
    traverse stack path = (significant path).foldl (settle true) stack := by
  have idle : ∀ (below : List Text) (segment : Text),
      (if leads segment = true then settle true below segment else below) =
        settle true below segment := by
    intro below segment
    cases leading : leads segment with
    | true => rfl
    | false =>
        have nowhere : segment = [] ∨ segment = here := by
          simpa [leads, Classical.or_iff_not_imp_left] using leading
        rcases nowhere with rfl | rfl
        · rw [settle_nil, if_neg Bool.false_ne_true]
        · rw [settle_here, if_neg Bool.false_ne_true]
  rw [traverse, significant, List.foldl_filter]
  simp only [idle]

/-- Absolute paths with the same significant segments have the same names. -/
theorem names_eq_of_significant_eq {path other : Text} (absolute : isAbsolute path = true)
    (absoluteOther : isAbsolute other = true) (same : significant path = significant other) :
    names path = names other := by
  rw [names_eq_reverse_traverse absolute, names_eq_reverse_traverse absoluteOther,
    traverse_eq_foldl_significant, traverse_eq_foldl_significant, same]

/-!
### Directory parts
-/

/-- The directory part of an absolute path is absolute. -/
theorem isAbsolute_parent {path : Text} (absolute : isAbsolute path = true) :
    isAbsolute (parent path) = true := by
  have beginsLike : ∀ text : Text, text <+: path → text ≠ [] → isAbsolute text = true := by
    intro text begins nonempty
    obtain ⟨first, rest, rfl⟩ := List.exists_cons_of_ne_nil nonempty
    obtain ⟨after, rfl⟩ := begins
    exact absolute
  have slashInside : slash ∈ path := by
    cases path with
    | nil => simp [isAbsolute] at absolute
    | cons first rest =>
        have isSlash : first = slash := by simpa [isAbsolute] using absolute
        exact isSlash ▸ List.mem_cons_self
  have headNonempty : path.rdropWhile (· != slash) ≠ [] := by
    rw [Ne, List.rdropWhile_eq_nil_iff]
    intro none
    simpa using none slash slashInside
  have headBegins : path.rdropWhile (· != slash) <+: path := List.rdropWhile_prefix _ _
  change isAbsolute (if (path.rdropWhile (· != slash)).all (· == slash)
    then path.rdropWhile (· != slash)
    else (path.rdropWhile (· != slash)).rdropWhile (· == slash)) = true
  by_cases onlySlashes : (path.rdropWhile (· != slash)).all (· == slash)
  · rw [if_pos onlySlashes]
    exact beginsLike _ headBegins headNonempty
  · rw [if_neg onlySlashes]
    apply beginsLike _ ((List.rdropWhile_prefix _ _).trans headBegins)
    rw [Ne, List.rdropWhile_eq_nil_iff]
    intro all
    exact onlySlashes (List.all_eq_true.2 all)

/-- Slashes at the end of a path lead nowhere. -/
theorem traverse_rdropWhile_slash (stack : List Text) (path : Text) :
    traverse stack (path.rdropWhile (· == slash)) = traverse stack path := by
  induction path using List.reverseRecOn with
  | nil => rfl
  | append_singleton path last ih =>
      by_cases ended : last = slash
      · rw [List.rdropWhile_concat_pos _ _ _ (by simpa using ended), ih, ended,
          traverse_append_slash, traverse_nil]
      · rw [List.rdropWhile_concat_neg _ _ _ (by simpa using ended)]

/-- The directory part of a path leads to where the text before the last slash leads. -/
theorem traverse_parent (front : Text) {last : Text} (clean : slash ∉ last) :
    traverse [] (parent (front ++ slash :: last)) = traverse [] front := by
  have head : (front ++ slash :: last).rdropWhile (· != slash) = front ++ [slash] := by
    have others : ∀ c ∈ last.reverse, (c != slash) = true := by
      intro c known
      have other : c ≠ slash := by
        rintro rfl
        exact clean (List.mem_reverse.1 known)
      simpa using other
    rw [List.rdropWhile, List.reverse_append, List.reverse_cons, List.append_assoc,
      List.dropWhile_append_of_pos others]
    simp
  have ended : traverse [] (front ++ [slash]) = traverse [] front := by
    rw [traverse_append_slash, traverse_nil]
  change traverse [] (if ((front ++ slash :: last).rdropWhile (· != slash)).all (· == slash)
    then (front ++ slash :: last).rdropWhile (· != slash)
    else ((front ++ slash :: last).rdropWhile (· != slash)).rdropWhile (· == slash)) = _
  rw [head]
  split
  · exact ended
  · rw [traverse_rdropWhile_slash, ended]

/-- Behind a slash, joined segments end in a slash and the last of them. -/
theorem exists_slash_join_eq (segments : List Text) (last : Text) :
    ∃ front, slash :: Text.join slash (segments ++ [last]) = front ++ slash :: last := by
  induction segments with
  | nil => exact ⟨[], rfl⟩
  | cons segment segments ih =>
      obtain ⟨front, same⟩ := ih
      have joined : Text.join slash (segment :: segments ++ [last]) =
          segment ++ slash :: Text.join slash (segments ++ [last]) := by
        cases segments with
        | nil => rfl
        | cons next more => rfl
      refine ⟨slash :: segment ++ front, ?_⟩
      rw [joined, same, List.append_assoc, List.cons_append]

/-- The directory of a file has the names of the file without the last. -/
theorem names_parent_normalize {path : Text} (absolute : isAbsolute path = true) :
    names (parent (normalize path)) = (names path).dropLast := by
  have absoluteParent := isAbsolute_parent (isAbsolute_normalize absolute)
  have leads := traverse_normalize absolute
  rw [names_eq_reverse_traverse absoluteParent, names_eq_reverse_traverse absolute]
  have form := normalize_of_isAbsolute absolute
  cases stack : traverse [] path with
  | nil =>
      rw [stack] at form
      rcases root_of_isAbsolute absolute with single | double
      · rw [form, single]
        decide
      · rw [form, double]
        decide
  | cons last below =>
      have onTop : last ∈ traverse [] path := stack ▸ List.mem_cons_self
      have clean := slash_not_mem_of_mem_traverse onTop
      obtain ⟨front, written⟩ := exists_slash_join_eq below.reverse last
      have ends : ∃ before, normalize path = before ++ slash :: last := by
        rw [stack, List.reverse_cons] at form
        rcases root_of_isAbsolute absolute with single | double
        · exact ⟨front, by rw [form, single, List.singleton_append, written]⟩
        · exact ⟨slash :: front, by
            rw [form, double, List.cons_append, List.singleton_append, written, List.cons_append]⟩
      obtain ⟨before, ends⟩ := ends
      rw [ends, traverse_parent before clean]
      -- The text before the last slash need not be an absolute path: of a name in the root it is
      -- empty. So it is followed by its segments, and not by its names.
      have walked : traverse (traverse [] before) last = last :: below := by
        rw [← traverse_append_slash, ← ends, leads, stack]
      rw [traverse, Text.split_of_not_mem clean, List.foldl_cons, List.foldl_nil,
        settle_name (isName_of_mem_traverse onTop)] at walked
      rw [(List.cons.inj walked).2, List.reverse_cons, List.dropLast_concat]

end ModuleAlias.Path
