/-
Module: ModuleAlias.Proofs.Path.Settling
Purpose: What a path does to a stack of names. Every path, however it is spelled, is a walk in the
  tree of directories: from a stack of names it leads to another one, segment by segment. Paths put
  together lead where their parts lead one after the other, and the normal form of an absolute path
  leads where the path leads.
Imports: ModuleAlias.Proofs.Path.Segments
Main exports: Path.IsName, Path.traverse, Path.names, Path.traverse_append_slash,
  Path.traverse_normalize, Path.names_eq_reverse_traverse
-/
import ModuleAlias.Proofs.Path.Segments

namespace ModuleAlias.Path

/-- A segment that names something in a directory: it is neither empty nor one of the two that stand
for directories. -/
structure IsName (segment : Text) : Prop where
  nonempty : segment ≠ []
  notHere : segment ≠ here
  notUp : segment ≠ up

/-- The stack of names, the last one on top, that a path leads to from another one below a root. -/
def traverse (stack : List Text) (path : Text) : List Text :=
  (Text.split slash path).foldl (settle true) stack

/-- The names in the normal form of a path. -/
def names (path : Text) : List Text :=
  (Text.split slash (normalize path)).filter (· != [])

/-!
### Single segments
-/

@[simp] theorem settle_nil (rooted : Bool) (stack : List Text) :
    settle rooted stack [] = stack := by
  simp [settle]

@[simp] theorem settle_here (rooted : Bool) (stack : List Text) :
    settle rooted stack here = stack := by
  simp [settle]

theorem settle_name {segment : Text} (isName : IsName segment) (rooted : Bool)
    (stack : List Text) : settle rooted stack segment = segment :: stack := by
  simp [settle, isName.nonempty, isName.notHere, isName.notUp]

theorem settle_up_nil : settle true [] up = [] := by
  simp [settle, up, here]

theorem settle_up_cons {top : Text} (isName : IsName top) (rooted : Bool) (below : List Text) :
    settle rooted (top :: below) up = below := by
  rw [settle, if_neg (by decide), if_pos rfl]
  exact if_neg isName.notUp

/-- What is on a stack after a segment was there before, or is the segment and a name. -/
theorem mem_settle {stack : List Text} {segment name : Text}
    (known : name ∈ settle true stack segment) (proper : ∀ name ∈ stack, IsName name) :
    name ∈ stack ∨ (name = segment ∧ IsName segment) := by
  by_cases empty : segment = []
  · subst empty
    rw [settle_nil] at known
    exact Or.inl known
  by_cases isHere : segment = here
  · subst isHere
    rw [settle_here] at known
    exact Or.inl known
  by_cases isUp : segment = up
  · subst isUp
    cases stack with
    | nil =>
        rw [settle_up_nil] at known
        exact Or.inl known
    | cons top below =>
        rw [settle_up_cons (proper top List.mem_cons_self)] at known
        exact Or.inl (List.mem_cons_of_mem top known)
  · have isName : IsName segment := ⟨empty, isHere, isUp⟩
    rw [settle_name isName] at known
    rcases List.mem_cons.1 known with same | before
    · exact Or.inr ⟨same, isName⟩
    · exact Or.inl before

/-!
### Lists of segments

A stack that holds names only keeps to names, whatever is settled on it.
-/

theorem mem_foldl_settle {segments stack : List Text} {name : Text}
    (known : name ∈ segments.foldl (settle true) stack) (proper : ∀ name ∈ stack, IsName name) :
    name ∈ stack ∨ (name ∈ segments ∧ IsName name) := by
  induction segments generalizing stack with
  | nil => exact Or.inl known
  | cons segment segments ih =>
      have stillProper : ∀ name ∈ settle true stack segment, IsName name := by
        intro other member
        rcases mem_settle member proper with before | ⟨rfl, isName⟩
        · exact proper other before
        · exact isName
      rcases ih known stillProper with member | ⟨later, isName⟩
      · rcases mem_settle member proper with before | ⟨rfl, isName⟩
        · exact Or.inl before
        · exact Or.inr ⟨List.mem_cons_self, isName⟩
      · exact Or.inr ⟨List.mem_cons_of_mem segment later, isName⟩

/-- Names settle by being put on the stack one after the other. -/
theorem foldl_settle_names {rooted : Bool} {segments : List Text}
    (proper : ∀ name ∈ segments, IsName name) (stack : List Text) :
    segments.foldl (settle rooted) stack = segments.reverse ++ stack := by
  induction segments generalizing stack with
  | nil => rfl
  | cons segment segments ih =>
      rw [List.foldl_cons, settle_name (proper segment List.mem_cons_self),
        ih fun name known => proper name (List.mem_cons_of_mem segment known)]
      simp

/-- Steps up take names off the stack; there is nothing above a root. -/
theorem foldl_settle_ups {stack : List Text} (proper : ∀ name ∈ stack, IsName name)
    (count : Nat) :
    (List.replicate count up).foldl (settle true) stack = stack.drop count := by
  induction count generalizing stack with
  | zero => rfl
  | succ count ih =>
      rw [List.replicate_succ, List.foldl_cons]
      cases stack with
      | nil =>
          rw [settle_up_nil, ih proper]
          simp
      | cons top below =>
          rw [settle_up_cons (proper top List.mem_cons_self),
            ih fun name known => proper name (List.mem_cons_of_mem top known)]
          rfl

/-!
### Paths
-/

/-- A path below a root leads to names that its text spells. -/
theorem mem_traverse {path name : Text} (known : name ∈ traverse [] path) :
    name ∈ Text.split slash path ∧ IsName name := by
  rcases mem_foldl_settle known (by simp) with member | spelled
  · exact absurd member List.not_mem_nil
  · exact spelled

theorem isName_of_mem_traverse {path name : Text} (known : name ∈ traverse [] path) :
    IsName name :=
  (mem_traverse known).2

theorem slash_not_mem_of_mem_traverse {path name : Text} (known : name ∈ traverse [] path) :
    slash ∉ name :=
  Text.separator_not_mem_of_mem_split (mem_traverse known).1

@[simp] theorem traverse_nil (stack : List Text) : traverse stack [] = stack := by
  simp [traverse, Text.split]

@[simp] theorem traverse_here (stack : List Text) : traverse stack here = stack := by
  have piece : Text.split slash here = [here] := by decide
  rw [traverse, piece, List.foldl_cons, List.foldl_nil, settle_here]

/-- A path inside another leads where the two lead one after the other. -/
theorem traverse_append_slash (stack : List Text) (front back : Text) :
    traverse stack (front ++ slash :: back) = traverse (traverse stack front) back := by
  rw [traverse, Text.split_append_separator, List.foldl_append]
  rfl

/-- A slash in front of a path changes nothing below a root. -/
@[simp] theorem traverse_slash_cons (stack : List Text) (path : Text) :
    traverse stack (slash :: path) = traverse stack path := by
  simpa using traverse_append_slash stack [] path

/-- Joined names lead to the stack with the names put on it. -/
theorem traverse_join {segments : List Text} (clean : ∀ name ∈ segments, slash ∉ name)
    (stack : List Text) :
    traverse stack (Text.join slash segments) = segments.foldl (settle true) stack := by
  cases segments with
  | nil => simp [Text.join]
  | cons segment segments =>
      rw [traverse, Text.split_join (List.cons_ne_nil segment segments) clean]

/-- What begins with an absolute path is absolute. -/
theorem isAbsolute_append {front : Text} (absolute : isAbsolute front = true) (back : Text) :
    isAbsolute (front ++ back) = true := by
  cases front with
  | nil => simp [isAbsolute] at absolute
  | cons first rest => exact absolute

/-- A path read from inside an absolute one is absolute. -/
theorem isAbsolute_combine {directory : Text} (path : Text)
    (absolute : isAbsolute directory = true) : isAbsolute (combine directory path) = true := by
  by_cases itself : isAbsolute path
  · rw [combine, if_pos itself, itself]
  · rw [combine, if_neg itself]
    split
    · exact isAbsolute_append absolute _
    · exact isAbsolute_append absolute _

/-- The root of an absolute path is one slash or two. -/
theorem root_of_isAbsolute {path : Text} (absolute : isAbsolute path = true) :
    root path = [slash] ∨ root path = [slash, slash] := by
  match path with
  | [first] =>
      have isSlash : first = slash := by simpa [isAbsolute] using absolute
      simp [root, isSlash]
  | [first, second] =>
      have isSlash : first = slash := by simpa [isAbsolute] using absolute
      by_cases double : second = slash <;> simp [root, isSlash, double]
  | first :: second :: third :: rest =>
      have isSlash : first = slash := by simpa [isAbsolute] using absolute
      by_cases double : second = slash ∧ third ≠ slash
      · right
        simp [root, isSlash, double.1, double.2]
      · left
        simp only [root, isSlash, if_pos, if_neg double]

/-- The normal form of an absolute path is its root and the names it leads to. -/
theorem normalize_of_isAbsolute {path : Text} (absolute : isAbsolute path = true) :
    normalize path = root path ++ Text.join slash (traverse [] path).reverse := by
  have notEmpty : root path ++ Text.join slash (settleAll true (Text.split slash path)) ≠ [] := by
    rcases root_of_isAbsolute absolute with single | double
    · simp [single]
    · simp [double]
  simp only [normalize, absolute, if_neg notEmpty]
  rfl

/-- The normal form of an absolute path leads where the path leads. -/
theorem traverse_normalize {path : Text} (absolute : isAbsolute path = true) :
    traverse [] (normalize path) = traverse [] path := by
  have names : traverse [] (Text.join slash (traverse [] path).reverse) = traverse [] path := by
    rw [traverse_join, foldl_settle_names]
    · simp
    · intro name known
      exact isName_of_mem_traverse (List.mem_reverse.1 known)
    · intro name known
      exact slash_not_mem_of_mem_traverse (List.mem_reverse.1 known)
  rw [normalize_of_isAbsolute absolute]
  rcases root_of_isAbsolute absolute with single | double
  · rw [single, List.singleton_append, traverse_slash_cons, names]
  · rw [double, List.cons_append, List.singleton_append, traverse_slash_cons, traverse_slash_cons,
      names]

theorem isAbsolute_normalize {path : Text} (absolute : isAbsolute path = true) :
    isAbsolute (normalize path) = true := by
  rw [normalize_of_isAbsolute absolute]
  rcases root_of_isAbsolute absolute with single | double
  · simp [single, isAbsolute]
  · simp [double, isAbsolute]

/-- Cutting a joined path at its slashes gives the names back, and empty segments at the root. -/
theorem names_eq_reverse_traverse {path : Text} (absolute : isAbsolute path = true) :
    names path = (traverse [] path).reverse := by
  have dropEmpty : ∀ text : Text,
      (Text.split slash (slash :: text)).filter (· != []) =
        (Text.split slash text).filter (· != []) := by
    intro text
    simp [Text.split]
  have kept : (Text.split slash (Text.join slash (traverse [] path).reverse)).filter (· != []) =
      (traverse [] path).reverse := by
    by_cases none : (traverse [] path).reverse = []
    · rw [none]
      rfl
    · rw [Text.split_join none, List.filter_eq_self]
      · intro name known
        simpa using (isName_of_mem_traverse (List.mem_reverse.1 known)).nonempty
      · intro name known
        exact slash_not_mem_of_mem_traverse (List.mem_reverse.1 known)
  rw [names, normalize_of_isAbsolute absolute]
  rcases root_of_isAbsolute absolute with single | double
  · rw [single, List.singleton_append, dropEmpty, kept]
  · rw [double, List.cons_append, List.singleton_append, dropEmpty, dropEmpty, kept]

/-- The names on the way to an absolute path do not depend on the directory of the process. -/
theorem components_of_isAbsolute {path : Text} (absolute : isAbsolute path = true)
    (process : Text) : components process path = names path := by
  rw [components, complete, if_pos absolute]
  rfl

/-- Absolute paths that lead to the same place have the same names. -/
theorem names_normalize {path : Text} (absolute : isAbsolute path = true) :
    names (normalize path) = names path := by
  rw [names_eq_reverse_traverse (isAbsolute_normalize absolute), traverse_normalize absolute,
    names_eq_reverse_traverse absolute]

end ModuleAlias.Path
