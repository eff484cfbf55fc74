/-
Module: ModuleAlias.Proofs.Alias.PathTargets
Purpose: Specifiers whose alias stands for a path. The specifier that is written leads from the
  directory of the importing file to the place that the alias stands for, and on along what follows
  the alias. It tells by its beginning that it is a path, unless the first name on the way looks as
  if it told so already.
Imports: ModuleAlias.Alias.Resolution, ModuleAlias.Literal.Quoted,
  ModuleAlias.Proofs.Alias.Selection, ModuleAlias.Proofs.Path.Directories,
  ModuleAlias.Proofs.Path.Route
Main exports: Alias.located, Alias.resolve_leads_to_target, Alias.IsExplicitlyRelative,
  Alias.LooksMarked, Alias.resolve_isExplicitlyRelative_iff
-/
import ModuleAlias.Alias.Resolution
import ModuleAlias.Literal.Quoted
import ModuleAlias.Proofs.Alias.Selection
import ModuleAlias.Proofs.Path.Directories
import ModuleAlias.Proofs.Path.Route

namespace ModuleAlias

open Literal (backslash)

namespace Alias

/-- Where a target lies: an absolute one where it says, any other below the working directory. -/
def located (working target : Text) : Text :=
  if Path.isAbsolute target then target else working ++ Path.slash :: target

section
variable {working : Text} (target : Text)

theorem isAbsolute_located (absolute : Path.isAbsolute working = true) :
    Path.isAbsolute (located working target) = true := by
  by_cases itself : Path.isAbsolute target
  · rw [located, if_pos itself, itself]
  · rw [located, if_neg itself]
    exact Path.isAbsolute_append absolute _

/-- Reading a target from inside the working directory leads to where it lies. -/
theorem traverse_combine (working : Text) :
    Path.traverse [] (Path.combine working target) =
      Path.traverse [] (located working target) := by
  by_cases itself : Path.isAbsolute target
  · rw [Path.combine, if_pos itself, located, if_pos itself]
  · rw [Path.combine, if_neg itself, located, if_neg itself]
    by_cases ended : working = [] ∨ working.getLast? = some Path.slash
    · rw [if_pos ended]
      rcases ended with rfl | ended
      · rw [List.nil_append, List.nil_append, Path.traverse_slash_cons]
      · obtain ⟨front, rfl⟩ := List.getLast?_eq_some_iff.1 ended
        rw [List.append_assoc, List.singleton_append, Path.traverse_append_slash,
          Path.traverse_append_slash, Path.traverse_append_slash, Path.traverse_nil]
    · rw [if_neg ended]

/-- The spelling of the working directory does not matter for where a target lies. -/
theorem traverse_located_normalize (absolute : Path.isAbsolute working = true) :
    Path.traverse [] (located (Path.normalize working) target) =
      Path.traverse [] (located working target) := by
  by_cases itself : Path.isAbsolute target
  · rw [located, if_pos itself, located, if_pos itself]
  · rw [located, if_neg itself, located, if_neg itself, Path.traverse_append_slash,
      Path.traverse_append_slash, Path.traverse_normalize absolute]

end

/-!
### What is written for a path

The written specifier spells the steps from the importing file's directory to the place of the
target, followed by what follows the alias. A slash stands between the two, unless nothing follows.
-/

/-- What follows the name of an entry in a specifier that it matches is a path below it. -/
theorem Entry.remainder_of_matches {entry : Entry} {specifier : Text}
    (applies : entry.matches specifier = true) :
    entry.remainder specifier = [] ∨
      ∃ below, entry.remainder specifier = Path.slash :: below := by
  rcases Entry.matches_iff.1 applies with rfl | ⟨_, below, rfl⟩
  · left
    exact List.drop_length
  · right
    exact ⟨below, by rw [Entry.remainder, List.append_assoc, List.drop_left]; rfl⟩

theorem Table.matches_of_find {table : Table} {specifier : Text} {entry : Entry}
    (found : table.find specifier = some entry) : entry.matches specifier = true := by
  have applies := List.find?_some found
  exact applies

section
variable {table : Table} {dependencies : Dependencies} {specifier : Text} {entry : Entry}
  {importer : Importer}

/-- The specifier that is written when an entry for a path applies. -/
theorem specifier_of_find (found : table.find specifier = some entry)
    (isPath : classify dependencies entry.target ≠ .package) :
    (resolve table dependencies specifier importer).specifier =
      markRelative (relativeTarget entry.target importer ++ entry.remainder specifier) := by
  rw [Resolution.specifier, resolve, found]
  simp only [Option.map_some, matchWith]

/-- The relative target spells the steps between names, with backslashes turned into slashes. -/
theorem relativeTarget_eq {target : Text} (absoluteBase : Path.isAbsolute importer.base = true)
    (absoluteWorking : Path.isAbsolute importer.working = true) :
    relativeTarget target importer =
      slashed (Path.spelled (Path.steps (Path.names importer.base)
        (Path.names (located importer.working target)))) := by
  have absolute := Path.isAbsolute_combine target absoluteWorking
  have sameNames : Path.names (Path.normalize (Path.combine importer.working target)) =
      Path.names (located importer.working target) := by
    rw [Path.names_normalize absolute, Path.names_eq_reverse_traverse absolute, traverse_combine,
      Path.names_eq_reverse_traverse (isAbsolute_located target absoluteWorking)]
  rw [relativeTarget, Path.between_of_isAbsolute importer.process
    (Path.isAbsolute_normalize absolute) absoluteBase, sameNames]

end

/-!
### The written specifier leads to the target
-/

theorem slashed_of_not_mem {path : Text} (plain : backslash ∉ path) : slashed path = path := by
  have kept : ∀ c ∈ path, (if c = backslash then Path.slash else c) = c := by
    intro c known
    exact if_neg fun (isBackslash : c = backslash) => plain (isBackslash ▸ known)
  exact (List.map_congr_left kept).trans (List.map_id path)

/-- A mark in front of a path does not change where it leads. -/
theorem traverse_markRelative (stack : List Text) (path : Text) :
    Path.traverse stack (markRelative path) = Path.traverse stack path := by
  have marked : ∀ text : Text, Path.traverse stack (Path.dot :: Path.slash :: text) =
      Path.traverse stack text := by
    intro text
    have split := Path.traverse_append_slash stack Path.here text
    rwa [Path.traverse_here] at split
  cases path with
  | nil => exact marked []
  | cons first rest =>
      rw [markRelative]
      split
      · rfl
      · exact marked (first :: rest)

/-- What follows an alias goes on from where the text before it leads. -/
theorem traverse_append_remainder {rest : Text}
    (below : rest = [] ∨ ∃ path, rest = Path.slash :: path) (stack : List Text) (front : Text) :
    Path.traverse stack (front ++ rest) = Path.traverse (Path.traverse stack front) rest := by
  rcases below with rfl | ⟨path, rfl⟩
  · rw [List.append_nil, Path.traverse_nil]
  · rw [Path.traverse_append_slash, Path.traverse_slash_cons]

section
variable {table : Table} {dependencies : Dependencies} {specifier : Text} {entry : Entry}
  {importer : Importer}

/-- Without a backslash in a name, the relative target spells the steps as they are. -/
theorem relativeTarget_of_plain {target : Text}
    (absoluteBase : Path.isAbsolute importer.base = true)
    (absoluteWorking : Path.isAbsolute importer.working = true)
    (plain : ∀ name ∈ Path.names (located importer.working target), backslash ∉ name) :
    relativeTarget target importer =
      Path.spelled (Path.steps (Path.names importer.base)
        (Path.names (located importer.working target))) := by
  rw [relativeTarget_eq absoluteBase absoluteWorking]
  apply slashed_of_not_mem
  intro known
  rcases Path.mem_spelled_steps known with isDot | isSlash | ⟨name, member, inside⟩
  · exact absurd isDot (by decide)
  · exact absurd isSlash (by decide)
  · exact plain name member inside

/-- From the directory of the importing file, the written specifier leads to the target and on. -/
theorem traverse_resolve (absoluteBase : Path.isAbsolute importer.base = true)
    (absoluteWorking : Path.isAbsolute importer.working = true)
    (found : table.find specifier = some entry)
    (isPath : classify dependencies entry.target ≠ .package)
    (plain : ∀ name ∈ Path.names (located importer.working entry.target), backslash ∉ name) :
    Path.traverse (Path.traverse [] importer.base)
        (resolve table dependencies specifier importer).specifier =
      Path.traverse [] (located importer.working entry.target ++ entry.remainder specifier) := by
  have below := Entry.remainder_of_matches (Table.matches_of_find found)
  have absoluteTarget := isAbsolute_located entry.target absoluteWorking
  rw [specifier_of_find found isPath, traverse_markRelative,
    relativeTarget_of_plain absoluteBase absoluteWorking plain,
    traverse_append_remainder below, traverse_append_remainder below,
    Path.traverse_spelled_steps absoluteTarget absoluteBase]

end

/-- Below an absolute working directory, a file is imported from an absolute one. -/
theorem Importer.isAbsolute_base_ofFile (process filename : Text) {working : Text}
    (absolute : Path.isAbsolute working = true) :
    Path.isAbsolute (Importer.ofFile process filename (some working)).base = true ∧
      (Importer.ofFile process filename (some working)).working = Path.normalize working := by
  have completed : Importer.directory process (some working) = Path.normalize working := by
    cases working with
    | nil => simp [Path.isAbsolute] at absolute
    | cons first rest => simp only [Importer.directory, Path.complete, if_pos absolute]
  constructor
  · rw [Importer.ofFile, completed]
    exact Path.isAbsolute_parent (Path.isAbsolute_normalize
      (Path.isAbsolute_combine filename (Path.isAbsolute_normalize absolute)))
  · exact completed

/-- For an alias that stands for a path, the written specifier leads from the directory of the
importing file to the names of the target, taken from the working directory if it is relative, with
what follows the alias behind it. No name of the target's place may hold a backslash, which would
be written as a slash. -/
theorem resolve_leads_to_target {table : Table} {dependencies : Dependencies}
    {process filename working specifier : Text} {entry : Entry}
    (absolute : Path.isAbsolute working = true) (found : table.find specifier = some entry)
    (isPath : classify dependencies entry.target ≠ .package)
    (plain : ∀ name ∈ Path.names (located working entry.target), backslash ∉ name) :
    let importer := Importer.ofFile process filename (some working)
    let written := (resolve table dependencies specifier importer).specifier
    Path.names (importer.base ++ Path.slash :: written) =
      Path.names (located working entry.target ++ entry.remainder specifier) := by
  intro importer written
  obtain ⟨absoluteBase, working_eq⟩ :=
    Importer.isAbsolute_base_ofFile process filename absolute
  have below := Entry.remainder_of_matches (Table.matches_of_find found)
  have absoluteTarget := isAbsolute_located entry.target absolute
  have absoluteNormalized :=
    isAbsolute_located entry.target (Path.isAbsolute_normalize absolute)
  have sameTraverse := traverse_located_normalize entry.target absolute
  have sameNames : Path.names (located importer.working entry.target) =
      Path.names (located working entry.target) := by
    rw [working_eq, Path.names_eq_reverse_traverse absoluteNormalized, sameTraverse,
      Path.names_eq_reverse_traverse absoluteTarget]
  have leads : Path.traverse (Path.traverse [] importer.base) written =
      Path.traverse [] (located working entry.target ++ entry.remainder specifier) := by
    have walked := traverse_resolve absoluteBase
      (working_eq ▸ Path.isAbsolute_normalize absolute) found isPath (sameNames ▸ plain)
    rw [traverse_append_remainder below, working_eq, sameTraverse,
      ← traverse_append_remainder below] at walked
    exact walked
  rw [Path.names_eq_reverse_traverse (Path.isAbsolute_append absoluteBase _),
    Path.names_eq_reverse_traverse (Path.isAbsolute_append absoluteTarget _),
    Path.traverse_append_slash, leads]

/-- From `src/app/main.js`, a relative target beside the working directory is two directories up and
down again; what follows the alias then leads up once more. -/
theorem resolve_leads_up_and_down :
    let entry : Entry := { name := "@lib", target := "../shared/lib", exact := false }
    let importer := Importer.ofFile "/" "src/app/main.js" (some "/repo/web")
    let written := (resolve ⟨[entry]⟩ .none "@lib/./..//x" importer).specifier
    Path.names (importer.base ++ Path.slash :: written) =
      ["repo", "shared", "x"].map Text.ofString := by
  intro entry importer written
  have leads := @resolve_leads_to_target ⟨[entry]⟩ .none "/" "src/app/main.js" "/repo/web"
    "@lib/./..//x" entry (by decide +kernel) (by decide +kernel) (by decide +kernel)
    (by decide +kernel)
  exact leads.trans (by decide +kernel)

/-!
### Whether the written specifier shows that it is a path

Only the first character decides whether a mark is put in front. A name that begins with a full
stop therefore gets none, and one that begins with a backslash ends up as an absolute path.
-/

/-- A specifier shows that it is a path relative to the importing file: it is `.` or `..`, or begins
with one of them and a slash. -/
def IsExplicitlyRelative (specifier : Text) : Prop :=
  specifier = Path.here ∨ specifier = Path.up ∨
    Path.here ++ [Path.slash] <+: specifier ∨ Path.up ++ [Path.slash] <+: specifier

instance : DecidablePred IsExplicitlyRelative :=
  fun specifier => inferInstanceAs (Decidable (specifier = Path.here ∨ specifier = Path.up ∨
    Path.here ++ [Path.slash] <+: specifier ∨ Path.up ++ [Path.slash] <+: specifier))

/-- A name looks as if a mark stood before it: it begins with a backslash, or with a full stop that
no backslash follows, directly or after one more full stop. -/
def LooksMarked : Text → Prop
  | [] => False
  | first :: rest =>
    first = backslash ∨
      first = Path.dot ∧ ¬ [backslash] <+: rest ∧ ¬ [Path.dot, backslash] <+: rest

instance : DecidablePred LooksMarked
  | [] => inferInstanceAs (Decidable False)
  | first :: rest => inferInstanceAs (Decidable (first = backslash ∨
      first = Path.dot ∧ ¬ [backslash] <+: rest ∧ ¬ [Path.dot, backslash] <+: rest))

theorem isExplicitlyRelative_here_append {rest : Text}
    (below : rest = [] ∨ ∃ path, rest = Path.slash :: path) :
    IsExplicitlyRelative (markRelative (Path.here ++ rest)) := by
  have kept : markRelative (Path.here ++ rest) = Path.here ++ rest := by
    simp [Path.here, markRelative]
  rw [kept]
  rcases below with rfl | ⟨path, rfl⟩
  · left
    exact List.append_nil Path.here
  · right; right; left
    exact ⟨path, by simp⟩

theorem isExplicitlyRelative_up_append {rest : Text}
    (below : rest = [] ∨ ∃ path, rest = Path.slash :: path) :
    IsExplicitlyRelative (markRelative (Path.up ++ rest)) := by
  have kept : markRelative (Path.up ++ rest) = Path.up ++ rest := by
    simp [Path.up, markRelative]
  rw [kept]
  rcases below with rfl | ⟨path, rfl⟩
  · right; left
    exact List.append_nil Path.up
  · right; right; right
    exact ⟨path, by simp⟩

/-- A marked text is shown as a path. -/
theorem isExplicitlyRelative_marked (text : Text) :
    IsExplicitlyRelative (Path.dot :: Path.slash :: text) :=
  Or.inr (Or.inr (Or.inl ⟨text, rfl⟩))

theorem not_isExplicitlyRelative_of_ne {first : CodePoint} (notDot : first ≠ Path.dot)
    (text : Text) : ¬ IsExplicitlyRelative (first :: text) := by
  simp [IsExplicitlyRelative, Path.here, Path.up, notDot, Ne.symm notDot]

/-- After a full stop, a slash or one more full stop has to stand. -/
theorem isExplicitlyRelative_dot_cons_iff {second : CodePoint} (text : Text) :
    IsExplicitlyRelative (Path.dot :: second :: text) ↔
      second = Path.slash ∨
        second = Path.dot ∧ (text = [] ∨ ∃ more, text = Path.slash :: more) := by
  have dotNotSlash : Path.dot ≠ Path.slash := by decide
  cases text with
  | nil =>
      simp [IsExplicitlyRelative, Path.here, Path.up, List.cons_prefix_cons, eq_comm, or_comm]
  | cons third more =>
      simp [IsExplicitlyRelative, Path.here, Path.up, List.cons_prefix_cons, eq_comm]

theorem slashed_cons (first : CodePoint) (rest : Text) :
    slashed (first :: rest) =
      (if first = backslash then Path.slash else first) :: slashed rest := rfl

theorem slashed_cons_of_ne {first : CodePoint} (plain : first ≠ backslash) (rest : Text) :
    slashed (first :: rest) = first :: slashed rest := by
  rw [slashed_cons, if_neg plain]

theorem slashed_first_eq_slash_iff {first : CodePoint} (clean : first ≠ Path.slash) :
    (if first = backslash then Path.slash else first) = Path.slash ↔ first = backslash := by
  by_cases isBackslash : first = backslash
  · simp [isBackslash]
  · simp [isBackslash, clean]

theorem looksMarked_dot_cons_iff (second : CodePoint) (more : Text) :
    LooksMarked (Path.dot :: second :: more) ↔
      ¬ (second = backslash ∨ second = Path.dot ∧ [backslash] <+: more) := by
  have dotNotBackslash : Path.dot ≠ backslash := by decide
  simp [LooksMarked, dotNotBackslash, List.cons_prefix_cons, eq_comm]

/-- Of the names that begin with a full stop, those are shown as paths in which a backslash follows,
directly or after one more full stop. -/
theorem isExplicitlyRelative_dot_name_iff {after : Text} (isName : Path.IsName (Path.dot :: after))
    (clean : Path.slash ∉ after) (rest : Text) :
    IsExplicitlyRelative (Path.dot :: (slashed after ++ rest)) ↔
      ¬ LooksMarked (Path.dot :: after) := by
  cases after with
  | nil => exact absurd rfl isName.notHere
  | cons second more =>
      rw [List.mem_cons, not_or] at clean
      rw [slashed_cons, List.cons_append, isExplicitlyRelative_dot_cons_iff,
        slashed_first_eq_slash_iff (Ne.symm clean.1), looksMarked_dot_cons_iff, not_not]
      by_cases isDot : second = Path.dot
      · subst isDot
        cases more with
        | nil => exact absurd rfl isName.notUp
        | cons third last =>
            have thirdClean : third ≠ Path.slash := by
              rintro rfl
              exact clean.2 List.mem_cons_self
            have shown : (slashed (third :: last) ++ rest = [] ∨
                ∃ path, slashed (third :: last) ++ rest = Path.slash :: path) ↔
                [backslash] <+: third :: last := by
              rw [slashed_cons, List.cons_append, List.cons_prefix_cons]
              simp [slashed_first_eq_slash_iff thirdClean, eq_comm (a := backslash)]
            rw [shown, if_neg (by decide)]
      · have notDot : ¬ (if second = backslash then Path.slash else second) = Path.dot := by
          split
          · decide
          · exact isDot
        simp [isDot, notDot]

/-- A path that begins with a name is shown as a path exactly if the name does not look marked. -/
theorem isExplicitlyRelative_name_append_iff {name : Text} (isName : Path.IsName name)
    (clean : Path.slash ∉ name) (rest : Text) :
    IsExplicitlyRelative (markRelative (slashed name ++ rest)) ↔ ¬ LooksMarked name := by
  cases name with
  | nil => exact absurd rfl isName.nonempty
  | cons first after =>
      by_cases isBackslash : first = backslash
      · have kept : markRelative (slashed (first :: after) ++ rest) =
            Path.slash :: (slashed after ++ rest) := by
          rw [slashed_cons, if_pos isBackslash, List.cons_append, markRelative, if_pos (by simp)]
        rw [kept]
        exact iff_of_false (not_isExplicitlyRelative_of_ne (by decide) _)
          (not_not_intro (Or.inl isBackslash))
      rw [slashed_cons_of_ne isBackslash]
      by_cases isDot : first = Path.dot
      · subst isDot
        have kept : markRelative (Path.dot :: slashed after ++ rest) =
            Path.dot :: (slashed after ++ rest) := by
          rw [List.cons_append, markRelative, if_pos (by simp)]
        rw [kept]
        rw [List.mem_cons, not_or] at clean
        exact isExplicitlyRelative_dot_name_iff isName clean.2 rest
      · have notSlash : first ≠ Path.slash := by
          rw [List.mem_cons, not_or] at clean
          exact Ne.symm clean.1
        have marked : markRelative (first :: slashed after ++ rest) =
            Path.dot :: Path.slash :: (first :: (slashed after ++ rest)) := by
          rw [List.cons_append, markRelative, if_neg (by simp [isDot, notSlash])]
        rw [marked]
        apply iff_of_true (isExplicitlyRelative_marked _)
        rintro (looks | ⟨looks, _⟩)
        · exact isBackslash looks
        · exact isDot looks

theorem slashed_append (front back : Text) :
    slashed (front ++ back) = slashed front ++ slashed back :=
  List.map_append

theorem slashed_spelled_cons (step : Text) (more : List Text) {rest : Text}
    (below : rest = [] ∨ ∃ path, rest = Path.slash :: path) :
    ∃ after, slashed (Path.spelled (step :: more)) ++ rest = slashed step ++ after ∧
      (after = [] ∨ ∃ path, after = Path.slash :: path) := by
  obtain ⟨after, spelled_eq, afterBelow⟩ := Path.exists_spelled_cons_eq step more
  refine ⟨slashed after ++ rest, ?_, ?_⟩
  · rw [spelled_eq, slashed_append, List.append_assoc]
  · rcases afterBelow with rfl | ⟨path, rfl⟩
    · exact below
    · right
      exact ⟨slashed path ++ rest, by rw [slashed_cons_of_ne (by decide), List.cons_append]⟩

/-- The written specifier of an alias that stands for a path shows that it is one, exactly if the
first name on the way down from the importing file's directory does not look marked. If the way
begins with a step up, or there is none, the specifier always shows it. -/
theorem resolve_isExplicitlyRelative_iff {table : Table} {dependencies : Dependencies}
    {specifier : Text} {entry : Entry} {importer : Importer}
    (absoluteBase : Path.isAbsolute importer.base = true)
    (absoluteWorking : Path.isAbsolute importer.working = true)
    (found : table.find specifier = some entry)
    (isPath : classify dependencies entry.target ≠ .package) :
    IsExplicitlyRelative (resolve table dependencies specifier importer).specifier ↔
      ∀ name more,
        Path.steps (Path.names importer.base)
          (Path.names (located importer.working entry.target)) = name :: more →
        name ≠ Path.up → ¬ LooksMarked name := by
  have below := Entry.remainder_of_matches (Table.matches_of_find found)
  have absoluteTarget := isAbsolute_located entry.target absoluteWorking
  rw [specifier_of_find found isPath, relativeTarget_eq absoluteBase absoluteWorking]
  cases route : Path.steps (Path.names importer.base)
      (Path.names (located importer.working entry.target)) with
  | nil =>
      apply iff_of_true (isExplicitlyRelative_here_append below)
      intro name more impossible
      cases impossible
  | cons first others =>
      obtain ⟨after, written, afterBelow⟩ := slashed_spelled_cons first others below
      rw [written]
      by_cases isUp : first = Path.up
      · subst isUp
        apply iff_of_true (isExplicitlyRelative_up_append afterBelow)
        rintro name more ⟨⟩ notUp
        exact absurd rfl notUp
      · have member : first ∈ Path.names (located importer.working entry.target) := by
          have onRoute : first ∈ Path.steps (Path.names importer.base)
              (Path.names (located importer.working entry.target)) := by
            rw [route]
            exact List.mem_cons_self
          exact (Path.mem_steps onRoute).resolve_left isUp
        rw [isExplicitlyRelative_name_append_iff (Path.isName_of_mem_names absoluteTarget member)
          (Path.slash_not_mem_of_mem_names absoluteTarget member)]
        constructor
        · rintro notMarked name more ⟨⟩ _
          exact notMarked
        · intro unmarked
          exact unmarked first others rfl isUp

/-- A target whose name begins like any other is marked, here below the importing directory. -/
theorem widgets_isExplicitlyRelative :
    let entry : Entry := { name := "@ui", target := "./src/app/widgets", exact := false }
    let importer : Importer := { base := "/repo/src/app", working := "/repo", process := "/" }
    IsExplicitlyRelative (resolve ⟨[entry]⟩ .none "@ui/../x" importer).specifier := by
  intro entry importer
  have route : Path.steps (Path.names importer.base)
      (Path.names (located importer.working entry.target)) = ["widgets"] := by decide +kernel
  rw [@resolve_isExplicitlyRelative_iff ⟨[entry]⟩ .none "@ui/../x" entry importer
    (by decide +kernel) (by decide +kernel) (by decide +kernel) (by decide +kernel), route]
  rintro name more ⟨⟩ _
  decide +kernel

/-- A hidden directory beside the importing file is written by its bare name, which does not show
that it is a path. -/
theorem hidden_directory_not_isExplicitlyRelative :
    let entry : Entry := { name := "h", target := "/p/.hidden", exact := false }
    let importer : Importer := { base := "/p", working := "/p", process := "/p" }
    ¬ IsExplicitlyRelative (resolve ⟨[entry]⟩ .none "h/x" importer).specifier := by
  decide +kernel

end Alias

end ModuleAlias
