/-
Module: ModuleAlias.Proofs.Alias.Precedence
Purpose: What the order of a table decides. An entry is dead if one earlier entry covers it, which can
  be read off the two names; several that each leave something of it cannot hide it together, since
  below every name there is a specifier that no other entry is made for. Two entries compete for a
  specifier if their names clash, and a table without clashes answers alike in every order.
Imports: Mathlib.Data.Finset.Preimage, Mathlib.Data.List.Find, ModuleAlias.Alias.Resolution,
  ModuleAlias.Proofs.Alias.Selection
Main exports: Alias.Entry.Covers, Alias.Table.StopsAt, Alias.exists_stopsAt_iff_not_covered,
  Alias.Entry.ClashesWith, Alias.order_matters_for_clashes
-/
import Mathlib.Data.Finset.Preimage
import Mathlib.Data.List.Find
import ModuleAlias.Alias.Resolution
import ModuleAlias.Proofs.Alias.Selection

namespace ModuleAlias.Alias

/-!
### Entries that cover others
-/

namespace Entry

/-- One entry covers another: it is not exact and its name is the other's or leads to it, or both are
exact and have one name. -/
def Covers (first second : Entry) : Prop :=
  (first.exact = false ∧
      (second.name = first.name ∨ first.name ++ [Path.slash] <+: second.name)) ∨
    (first.exact = true ∧ second.exact = true ∧ second.name = first.name)

instance (first second : Entry) : Decidable (first.Covers second) :=
  inferInstanceAs (Decidable (_ ∨ _))

/-- An entry covers those whose name it matches, except that an exact one covers only exact ones. -/
theorem covers_iff {first second : Entry} :
    first.Covers second ↔
      first.matches second.name = true ∧ (first.exact = true → second.exact = true) := by
  rw [Covers, matches_iff]
  cases exactness : first.exact with
  | false => simp
  | true => simp [and_comm]

/-- What covers an entry matches every specifier that the entry matches. -/
theorem Covers.matches_of_matches {first second : Entry} (covers : first.Covers second)
    {specifier : Text} (applies : second.matches specifier = true) :
    first.matches specifier = true := by
  obtain ⟨appliesToName, exactness⟩ := covers_iff.1 covers
  rcases matches_iff.1 applies with rfl | ⟨inexact, below⟩
  · exact appliesToName
  · have inexactFirst : first.exact = false := by
      rw [← Bool.not_eq_true] at inexact ⊢
      exact mt exactness inexact
    apply matches_iff.2
    right
    rcases matches_iff.1 appliesToName with same | ⟨_, begins⟩
    · exact ⟨inexactFirst, same ▸ below⟩
    · exact ⟨inexactFirst, begins.trans ((List.prefix_append _ _).trans below)⟩

/-- What matches a specifier one piece below an entry's name, without being named by it, covers the
entry. -/
theorem covers_of_matches_below {entry other : Entry} {piece : Text} (clean : Path.slash ∉ piece)
    (applies : other.matches (entry.name ++ Path.slash :: piece) = true)
    (different : entry.name ++ Path.slash :: piece ≠ other.name) : other.Covers entry := by
  rcases matches_iff.1 applies with same | ⟨inexact, begins⟩
  · exact absurd same different
  · have pieces : Text.split Path.slash (entry.name ++ Path.slash :: piece) =
        Text.split Path.slash entry.name ++ [piece] := by
      rw [Text.split_append_separator, Text.split_of_not_mem clean]
    have shared := Text.split_prefix_split_iff.2 (Or.inr begins)
    rw [pieces, List.prefix_concat_iff, ← pieces] at shared
    rcases shared with same | shorter
    · exact absurd (Text.eq_of_split_eq same).symm different
    · exact Or.inl ⟨inexact, Text.split_prefix_split_iff.1 shorter⟩

/-- One piece below a name, there is a specifier that is none of finitely many texts. -/
theorem exists_below_not_mem (name : Text) (taken : List Text) :
    ∃ piece, Path.slash ∉ piece ∧ name ++ Path.slash :: piece ∉ taken := by
  have distinct : Function.Injective
      fun count => name ++ Path.slash :: List.replicate count Path.dot := by
    intro first second same
    simpa using same
  obtain ⟨count, fresh⟩ := Infinite.exists_notMem_finset
    (taken.toFinset.preimage _ distinct.injOn)
  refine ⟨List.replicate count Path.dot, ?_, ?_⟩
  · intro known
    exact absurd (List.eq_of_mem_replicate known) (by decide)
  · simpa using fresh

/-- Entries that each leave something of an entry leave something of it together. -/
theorem exists_matches_avoiding {entry : Entry} {others : List Entry}
    (uncovered : ∀ other ∈ others, ¬ other.Covers entry) :
    ∃ specifier, entry.matches specifier = true ∧
      ∀ other ∈ others, other.matches specifier = false := by
  -- An exact entry matches its name alone, so that has to do; below any other name there is room.
  cases exactness : entry.exact with
  | true =>
      refine ⟨entry.name, matches_iff.2 (Or.inl rfl), ?_⟩
      intro other known
      rw [← Bool.not_eq_true]
      intro applies
      apply uncovered other known
      exact covers_iff.2 ⟨applies, fun _ => exactness⟩
  | false =>
      obtain ⟨piece, clean, fresh⟩ := exists_below_not_mem entry.name (others.map Entry.name)
      refine ⟨entry.name ++ Path.slash :: piece, ?_, ?_⟩
      · apply matches_iff.2
        right
        exact ⟨exactness, Text.concat_prefix_append_cons entry.name Path.slash piece⟩
      · intro other known
        rw [← Bool.not_eq_true]
        intro applies
        apply uncovered other known
        apply covers_of_matches_below clean applies
        intro same
        exact fresh (same ▸ List.mem_map_of_mem known)

/-- What leaves a specifier that an entry matches does not cover the entry. -/
theorem not_covers_of_avoids {first second : Entry} {specifier : Text}
    (applies : second.matches specifier = true) (avoids : first.matches specifier = false) :
    ¬ first.Covers second := by
  intro covers
  rw [covers.matches_of_matches applies] at avoids
  cases avoids

end Entry

/-!
### Entries that are dead
-/

namespace Table

/-- The search for a specifier stops at a position: the entry there is the first that matches. -/
def StopsAt (table : Table) (specifier : Text) (position : Nat) : Prop :=
  table.entries.findIdx? (·.matches specifier) = some position

variable {table : Table} {specifier : Text} {position : Nat}

theorem stopsAt_iff (inside : position < table.entries.length) :
    table.StopsAt specifier position ↔
      table.entries[position].matches specifier = true ∧
        ∀ other ∈ table.entries.take position, other.matches specifier = false := by
  rw [StopsAt, List.findIdx?_eq_some_iff_getElem]
  constructor
  · rintro ⟨_, applies, earlier⟩
    refine ⟨applies, ?_⟩
    intro other known
    obtain ⟨index, before, rfl⟩ := List.mem_take_iff_getElem.1 known
    rw [← Bool.not_eq_true]
    exact earlier index (by omega)
  · rintro ⟨applies, earlier⟩
    refine ⟨inside, applies, ?_⟩
    intro index before
    rw [Bool.not_eq_true]
    apply earlier
    exact List.mem_take_iff_getElem.2 ⟨index, by omega, rfl⟩

/-- Where the search stops, it finds the entry. -/
theorem find_of_stopsAt (inside : position < table.entries.length)
    (stops : table.StopsAt specifier position) :
    table.find specifier = some table.entries[position] := by
  obtain ⟨_, applies, earlier⟩ := List.findIdx?_eq_some_iff_getElem.1 stops
  apply List.find?_eq_some_iff_getElem.2
  refine ⟨applies, position, inside, rfl, ?_⟩
  intro index before
  simpa using earlier index before

end Table

/-- For some specifier the search stops at an entry, exactly if no single earlier entry covers that
one. Earlier entries that each leave something of it, however many they are, leave something of it
together. -/
theorem exists_stopsAt_iff_not_covered (table : Table) {position : Nat}
    (inside : position < table.entries.length) :
    let entry := table.entries[position]
    ((∃ specifier, table.StopsAt specifier position) ↔
      ∀ earlier ∈ table.entries.take position, ¬ earlier.Covers entry) ∧
    (∀ specifier, table.StopsAt specifier position → table.find specifier = some entry) ∧
    ∀ others ⊆ table.entries.take position,
      (∀ other ∈ others, ∃ specifier,
        entry.matches specifier = true ∧ other.matches specifier = false) →
      ∃ specifier, entry.matches specifier = true ∧
        ∀ other ∈ others, other.matches specifier = false := by
  intro entry
  refine ⟨?_, fun _ stops => Table.find_of_stopsAt inside stops, ?_⟩
  · constructor
    · rintro ⟨specifier, stops⟩ earlier known
      obtain ⟨applies, avoided⟩ := (Table.stopsAt_iff inside).1 stops
      exact Entry.not_covers_of_avoids applies (avoided earlier known)
    · intro uncovered
      obtain ⟨specifier, reached⟩ := Entry.exists_matches_avoiding uncovered
      exact ⟨specifier, (Table.stopsAt_iff inside).2 reached⟩
  · intro others _ leaves
    apply Entry.exists_matches_avoiding
    intro other known
    obtain ⟨specifier, applies, avoids⟩ := leaves other known
    exact Entry.not_covers_of_avoids applies avoids

/-- Behind an exact entry of its name, an entry below it and one for the empty name, an entry is not
dead: together they leave it something. -/
theorem inexact_entry_is_reached :
    let ui : Entry := { name := "@ui", target := "./ui", exact := false }
    let table : Table := ⟨[{ name := "@ui", target := "./ui/index", exact := true },
      { name := "@ui/x", target := "./x", exact := false },
      { name := "", target := "./root", exact := false }, ui]⟩
    ∃ specifier, table.StopsAt specifier 3 ∧ table.find specifier = some ui := by
  intro ui table
  obtain ⟨reached, answers, _⟩ := @exists_stopsAt_iff_not_covered table 3 (by decide)
  obtain ⟨specifier, stops⟩ := reached.2 (by decide)
  exact ⟨specifier, stops, answers specifier stops⟩

/-!
### Tables in another order
-/

namespace Entry

/-- Two entries clash: they have one name, or the name of one that is not exact leads to the other's
name. -/
def ClashesWith (first second : Entry) : Prop :=
  first.name = second.name ∨
    (first.exact = false ∧ first.name ++ [Path.slash] <+: second.name) ∨
    (second.exact = false ∧ second.name ++ [Path.slash] <+: first.name)

instance (first second : Entry) : Decidable (first.ClashesWith second) :=
  inferInstanceAs (Decidable (_ ∨ _))

/-- Some specifier is matched by both of two entries exactly if they clash. -/
theorem exists_both_match_iff {first second : Entry} :
    (∃ specifier, first.matches specifier = true ∧ second.matches specifier = true) ↔
      first.ClashesWith second := by
  constructor
  · rintro ⟨specifier, applies, alsoApplies⟩
    rw [matches_iff] at applies alsoApplies
    rcases applies with rfl | ⟨inexact, begins⟩
    · rcases alsoApplies with same | ⟨inexact, begins⟩
      · exact Or.inl same
      · exact Or.inr (Or.inr ⟨inexact, begins⟩)
    · rcases alsoApplies with rfl | ⟨alsoInexact, alsoBegins⟩
      · exact Or.inr (Or.inl ⟨inexact, begins⟩)
      · rcases Text.cases_of_concat_prefix begins alsoBegins with same | leads | leads
        · exact Or.inl same
        · exact Or.inr (Or.inl ⟨inexact, leads⟩)
        · exact Or.inr (Or.inr ⟨alsoInexact, leads⟩)
  · rintro (same | leads | leads)
    · exact ⟨first.name, matches_iff.2 (Or.inl rfl), matches_iff.2 (Or.inl same)⟩
    · exact ⟨second.name, matches_iff.2 (Or.inr leads), matches_iff.2 (Or.inl rfl)⟩
    · exact ⟨first.name, matches_iff.2 (Or.inl rfl), matches_iff.2 (Or.inr leads)⟩

theorem ClashesWith.symm {first second : Entry} (clash : first.ClashesWith second) :
    second.ClashesWith first := by
  obtain ⟨specifier, applies, alsoApplies⟩ := exists_both_match_iff.2 clash
  exact exists_both_match_iff.1 ⟨specifier, alsoApplies, applies⟩

end Entry

/-- In a table without clashes at most one entry matches a specifier, so any order finds it. -/
theorem find_of_perm {table permuted : Table}
    (apart : table.entries.Pairwise fun first second => ¬ first.ClashesWith second)
    (reordered : permuted.entries.Perm table.entries) (specifier : Text) :
    permuted.find specifier = table.find specifier := by
  have symmetric : Std.Symm fun first second : Entry => ¬ first.ClashesWith second :=
    ⟨fun _ _ noClash clash => noClash clash.symm⟩
  have oneMatch : {entry ∈ table.entries | entry.matches specifier = true}.Subsingleton := by
    rintro first ⟨known, applies⟩ second ⟨alsoKnown, alsoApplies⟩
    by_contra different
    apply apart.forall known alsoKnown different
    exact Entry.exists_both_match_iff.1 ⟨specifier, applies, alsoApplies⟩
  exact (List.find?_eq_find?_of_perm reordered.symm oneMatch).symm

/-- Two entries compete for a specifier exactly if they clash, and a table in which no two clash
finds and resolves every specifier alike in every order of its entries. -/
theorem order_matters_for_clashes :
    (∀ first second : Entry,
      (∃ specifier, first.matches specifier = true ∧ second.matches specifier = true) ↔
        first.ClashesWith second) ∧
    ∀ table permuted : Table,
      (table.entries.Pairwise fun first second => ¬ first.ClashesWith second) →
      permuted.entries.Perm table.entries → ∀ specifier,
        permuted.find specifier = table.find specifier ∧
          ∀ dependencies importer, resolve permuted dependencies specifier importer =
            resolve table dependencies specifier importer := by
  constructor
  · intro first second
    exact Entry.exists_both_match_iff
  · intro table permuted apart reordered specifier
    have found := find_of_perm apart reordered specifier
    refine ⟨found, ?_⟩
    intro dependencies importer
    rw [resolve, resolve, found]

/-- An exact entry, one below it and one whose name only begins alike do not clash, so the last can as
well stand first. -/
theorem exact_and_longer_names_commute :
    let ui : Entry := { name := "@ui", target := "./ui/index", exact := true }
    let icons : Entry := { name := "@ui/icons", target := "./icons", exact := false }
    let old : Entry := { name := "@ui-old", target := "./old", exact := false }
    ∀ specifier dependencies importer,
      resolve ⟨[old, icons, ui]⟩ dependencies specifier importer =
        resolve ⟨[ui, icons, old]⟩ dependencies specifier importer := by
  intro ui icons old specifier dependencies importer
  obtain ⟨_, alike⟩ := order_matters_for_clashes
  obtain ⟨_, resolves⟩ :=
    alike ⟨[ui, icons, old]⟩ ⟨[old, icons, ui]⟩ (by decide) (by decide) specifier
  exact resolves dependencies importer

end ModuleAlias.Alias
