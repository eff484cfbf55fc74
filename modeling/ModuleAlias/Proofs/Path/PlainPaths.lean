/-
Module: ModuleAlias.Proofs.Path.PlainPaths
Purpose: A path and its plain form have the same segments, up to those that lead nowhere.
Imports: ModuleAlias.Proofs.Path.Settling
Main exports: Path.significant, Path.significant_drop_one, Path.Plain.Rooted,
  Path.significant_combine_toText
-/
import ModuleAlias.Proofs.Path.Settling

namespace ModuleAlias.Path

/-- Whether a segment leads to another place: all but the empty one and `.` do. -/
def leads (segment : Text) : Bool := segment != [] && segment != here

theorem IsName.leads {segment : Text} (isName : IsName segment) : leads segment = true := by
  simp [Path.leads, isName.nonempty, isName.notHere]

/-- The segments of a path that lead to another place. -/
def significant (path : Text) : List Text := (Text.split slash path).filter leads

theorem significant_nil : significant [] = [] := rfl

theorem significant_append_slash (front back : Text) :
    significant (front ++ slash :: back) = significant front ++ significant back := by
  rw [significant, Text.split_append_separator, List.filter_append]
  rfl

theorem significant_slash_cons (path : Text) : significant (slash :: path) = significant path :=
  significant_append_slash [] path

/-- Joined segments that all lead to another place are the significant ones. -/
theorem significant_join {segments : List Text} (clean : ∀ segment ∈ segments, slash ∉ segment)
    (leading : ∀ segment ∈ segments, leads segment = true) :
    significant (Text.join slash segments) = segments := by
  cases segments with
  | nil => rfl
  | cons segment segments =>
      rw [significant, Text.split_join (List.cons_ne_nil segment segments) clean]
      exact List.filter_eq_self.2 leading

/-- The first piece of an absolute path is empty. -/
theorem significant_drop_one {path : Text} (absolute : isAbsolute path = true) :
    ((Text.split slash path).drop 1).filter leads = significant path := by
  cases path with
  | nil => simp [isAbsolute] at absolute
  | cons first path =>
      have isSlash : first = slash := by simpa [isAbsolute] using absolute
      rw [isSlash, significant_slash_cons, Text.split, if_pos rfl]
      rfl

/-- Read from inside a directory, a path that is not absolute goes on from there. -/
theorem significant_combine {directory : Text} (path : Text) (nonempty : directory ≠ []) :
    significant (combine directory path) =
      if isAbsolute path then significant path
      else significant directory ++ significant path := by
  by_cases itself : isAbsolute path
  · rw [combine, if_pos itself, if_pos itself]
  · rw [combine, if_neg itself, if_neg itself]
    by_cases ended : directory.getLast? = some slash
    · rw [if_pos (Or.inr ended)]
      obtain ⟨front, rfl⟩ := List.getLast?_eq_some_iff.1 ended
      rw [List.append_assoc, List.singleton_append, significant_append_slash,
        significant_append_slash, significant_nil, List.append_nil]
    · rw [if_neg (not_or.2 ⟨nonempty, ended⟩), significant_append_slash]

section
variable (path : Text)

theorem root_eq_nil_iff : root path = [] ↔ isAbsolute path = false := by
  constructor
  · intro none
    cases absolute : isAbsolute path with
    | false => rfl
    | true =>
        rcases root_of_isAbsolute absolute with single | double
        · simp [single] at none
        · simp [double] at none
  · intro relative
    match path with
    | [] => rfl
    | [first] =>
        have other : first ≠ slash := by simpa [isAbsolute] using relative
        simp [root, other]
    | [first, second] =>
        have other : first ≠ slash := by simpa [isAbsolute] using relative
        simp [root, other]
    | first :: second :: third :: rest =>
        have other : first ≠ slash := by simpa [isAbsolute] using relative
        simp [root, other]

theorem segments_ofText : (Plain.ofText path).segments = significant path := rfl

theorem slash_not_mem_of_mem_significant {segment : Text} (known : segment ∈ significant path) :
    slash ∉ segment :=
  Text.separator_not_mem_of_mem_split (List.mem_filter.1 known).1

theorem leads_of_mem_significant {segment : Text} (known : segment ∈ significant path) :
    leads segment = true :=
  (List.mem_filter.1 known).2

theorem significant_join_significant :
    significant (Text.join slash (significant path)) = significant path :=
  significant_join (fun _ known => slash_not_mem_of_mem_significant path known)
    (fun _ known => leads_of_mem_significant path known)

end

/-- A plain path that begins with a root, and whose segments all lead to another place. -/
structure Plain.Rooted (path : Plain) : Prop where
  root : path.root = [slash] ∨ path.root = [slash, slash]
  clean : ∀ segment ∈ path.segments, slash ∉ segment
  leading : ∀ segment ∈ path.segments, leads segment = true

namespace Plain.Rooted

section
variable {path : Plain} (rooted : path.Rooted)

include rooted

theorem toText_eq : path.toText = path.root ++ Text.join slash path.segments := by
  rw [Plain.toText, if_neg]
  rintro ⟨none, _⟩
  rcases rooted.root with single | double
  · simp [single] at none
  · simp [double] at none

theorem significant_toText : significant path.toText = path.segments := by
  have joined := significant_join rooted.clean rooted.leading
  rw [rooted.toText_eq]
  rcases rooted.root with single | double
  · rw [single, List.singleton_append, significant_slash_cons, joined]
  · rw [double, List.cons_append, List.singleton_append, significant_slash_cons,
      significant_slash_cons, joined]

theorem isAbsolute_toText : isAbsolute path.toText = true := by
  rw [rooted.toText_eq]
  apply isAbsolute_append
  rcases rooted.root with single | double
  · simp [single, isAbsolute]
  · simp [double, isAbsolute]

end

end Plain.Rooted

section
variable (path : Text)

theorem rooted_ofText (absolute : isAbsolute path = true) : (Plain.ofText path).Rooted where
  root := root_of_isAbsolute absolute
  clean _ known := slash_not_mem_of_mem_significant path known
  leading _ known := leads_of_mem_significant path known

/-- From a rooted directory, every path is rooted. -/
theorem Plain.Rooted.combine {directory : Plain} (rooted : directory.Rooted) :
    (directory.combine (Plain.ofText path)).Rooted := by
  unfold Plain.combine
  split
  · refine ⟨rooted.root, fun segment known => ?_, fun segment known => ?_⟩
    · rcases List.mem_append.1 known with above | below
      · exact rooted.clean segment above
      · exact slash_not_mem_of_mem_significant path below
    · rcases List.mem_append.1 known with above | below
      · exact rooted.leading segment above
      · exact leads_of_mem_significant path below
  · rename_i itself
    apply rooted_ofText
    rw [← Bool.not_eq_false]
    exact fun relative => itself ((root_eq_nil_iff path).2 relative)

/-- The plain form of a path has the same significant segments. -/
theorem significant_toText : significant (Plain.ofText path).toText = significant path := by
  cases absolute : isAbsolute path with
  | true => exact (rooted_ofText path absolute).significant_toText
  | false =>
      have none : (Plain.ofText path).root = [] := (root_eq_nil_iff path).2 absolute
      by_cases empty : (Plain.ofText path).segments = []
      · have nowhere : significant path = [] := empty
        rw [Plain.toText, if_pos ⟨none, empty⟩, nowhere]
        decide
      · rw [Plain.toText, if_neg (fun both => empty both.2), none, List.nil_append,
          segments_ofText, significant_join_significant]

/-- The plain form of a path is absolute where the path is. -/
theorem isAbsolute_toText : isAbsolute (Plain.ofText path).toText = isAbsolute path := by
  cases absolute : isAbsolute path with
  | true => exact (rooted_ofText path absolute).isAbsolute_toText
  | false =>
      have none : (Plain.ofText path).root = [] := (root_eq_nil_iff path).2 absolute
      cases segments : (Plain.ofText path).segments with
      | nil =>
          rw [Plain.toText, if_pos ⟨none, segments⟩]
          decide
      | cons segment more =>
          have known : segment ∈ significant path :=
            segments_ofText path ▸ segments ▸ List.mem_cons_self
          have clean := slash_not_mem_of_mem_significant path known
          have leading := leads_of_mem_significant path known
          have notEmpty : ¬ ((Plain.ofText path).root = [] ∧
              (Plain.ofText path).segments = []) := by
            rintro ⟨_, empty⟩
            rw [segments] at empty
            cases empty
          rw [Plain.toText, if_neg notEmpty, none, segments, List.nil_append]
          cases segment with
          | nil => simp [leads] at leading
          | cons first rest =>
              have other : first ≠ slash := by
                rintro rfl
                exact clean List.mem_cons_self
              cases more with
              | nil => simp [Text.join, isAbsolute, other]
              | cons next more => simp [Text.join, isAbsolute, other]

/-- From an absolute directory, a path and its plain form lead along the same segments. -/
theorem significant_combine_toText {directory : Text} (absolute : isAbsolute directory = true) :
    significant (combine directory (Plain.ofText path).toText) =
      significant (combine directory path) := by
  have nonempty : directory ≠ [] := by
    rintro rfl
    simp [isAbsolute] at absolute
  rw [significant_combine _ nonempty, significant_combine _ nonempty, isAbsolute_toText,
    significant_toText]

end

end ModuleAlias.Path
