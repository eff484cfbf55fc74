/-
Module: ModuleAlias.Proofs.Alias.Selection
Purpose: Which entry of a table answers for a specifier. An entry compares characters, but what it
  selects is told by the pieces between the slashes: an exact entry selects the specifier with the
  pieces of its name, any other those whose pieces begin with them. The table of a configured object
  answers with the first of its members that is read as an entry and selects the specifier, and
  members that are not read as entries change nothing.
Imports: ModuleAlias.Alias.Table, ModuleAlias.Proofs.Path.Segments
Main exports: Alias.Entry.matches_iff, Alias.Entry.Selects, Alias.Entry.matches_iff_selects,
  Alias.Stands, Alias.KeyFor, Alias.Entry.ReadFrom, Alias.find_ofMembers
-/
import ModuleAlias.Alias.Table
import ModuleAlias.Proofs.Path.Segments

namespace ModuleAlias.Alias

/-!
### What an entry selects
-/

namespace Entry

/-- An entry matches its name and, unless it is exact, what goes on from its name with a slash. -/
theorem matches_iff {entry : Entry} {specifier : Text} :
    entry.matches specifier = true ↔
      specifier = entry.name ∨ (entry.exact = false ∧ entry.name ++ [Path.slash] <+: specifier) := by
  rw [Entry.matches, Bool.and_eq_true, List.isPrefixOf_iff_prefix]
  constructor
  · rintro ⟨⟨rest, rfl⟩, allowed⟩
    rw [remainder, List.drop_left] at allowed
    cases rest with
    | nil => exact Or.inl (List.append_nil entry.name)
    | cons next below =>
        simp only [Bool.and_eq_true, Bool.not_eq_true', beq_iff_eq] at allowed
        obtain ⟨inexact, rfl⟩ := allowed
        right
        exact ⟨inexact, Text.concat_prefix_append_cons entry.name _ below⟩
  · rintro (rfl | ⟨inexact, below, rfl⟩)
    · constructor
      · exact List.prefix_rfl
      · rw [remainder, List.drop_length]
    · rw [List.append_assoc, List.singleton_append, remainder, List.drop_left]
      constructor
      · exact List.prefix_append _ _
      · simp [inexact, Path.slash]

/-- An exact entry selects the specifier that has the same pieces between its slashes as the name;
any other entry those whose pieces begin with the pieces of the name. -/
def Selects (entry : Entry) (specifier : Text) : Prop :=
  if entry.exact then Text.split Path.slash entry.name = Text.split Path.slash specifier
  else Text.split Path.slash entry.name <+: Text.split Path.slash specifier

instance (entry : Entry) (specifier : Text) : Decidable (entry.Selects specifier) :=
  inferInstanceAs (Decidable (ite _ _ _))

/-- Comparing characters comes to the same as comparing pieces. -/
theorem matches_iff_selects {entry : Entry} {specifier : Text} :
    entry.matches specifier = true ↔ entry.Selects specifier := by
  rw [matches_iff, Selects]
  cases exactness : entry.exact with
  | false =>
      rw [if_neg Bool.false_ne_true, Text.split_prefix_split_iff]
      simp
  | true =>
      rw [if_pos rfl]
      constructor
      · rintro (rfl | ⟨inexact, _⟩)
        · rfl
        · cases inexact
      · intro same
        exact Or.inl (Text.eq_of_split_eq same).symm

end Entry

/-!
### Members that are read as entries
-/

/-- What a configured value stands for: a text that is not empty, or the first item of a list if it
is such a text. -/
inductive Stands : Value → Text → Prop where
  | itself {target : Text} (nonempty : target ≠ []) : Stands (.text target) target
  | first {target : Text} (nonempty : target ≠ []) (more : List Value) :
      Stands (.list (.text target :: more)) target

theorem target?_eq_some_iff {value : Value} {target : Text} :
    Table.target? value = some target ↔ Stands value target := by
  constructor
  · intro reads
    unfold Table.target? at reads
    split at reads
    · cases reads
    · next text _ filled =>
        obtain rfl := Option.some.inj reads
        exact Stands.itself filled
    · obtain rfl := Option.some.inj reads
      exact Stands.first (List.cons_ne_nil _ _) _
    · cases reads
  · rintro (⟨nonempty⟩ | ⟨nonempty, more⟩)
    · obtain ⟨first, rest, rfl⟩ := List.exists_cons_of_ne_nil nonempty
      rfl
    · obtain ⟨first, rest, rfl⟩ := List.exists_cons_of_ne_nil nonempty
      rfl

/-- How a key gives the name of an entry: with a mark behind a name that is not empty the entry is
exact; any other key is the name itself. -/
inductive KeyFor : Text → Text → Bool → Prop where
  | marked {name : Text} (nonempty : name ≠ []) : KeyFor (name ++ [exactMark]) name true
  | plain {key : Text} (unmarked : ∀ name, name ≠ [] → key ≠ name ++ [exactMark]) :
      KeyFor key key false

namespace Entry

theorem ofKey_marked {name : Text} (nonempty : name ≠ []) (target : Text) :
    ofKey (name ++ [exactMark]) target = { name, target, exact := true } := by
  have long : 1 < (name ++ [exactMark]).length := by
    have := List.length_pos_iff.2 nonempty
    rw [List.length_append, List.length_singleton]
    omega
  rw [ofKey, if_pos ⟨List.getLast?_concat, long⟩, List.dropLast_concat]

theorem ofKey_plain {key : Text} (unmarked : ∀ name, name ≠ [] → key ≠ name ++ [exactMark])
    (target : Text) : ofKey key target = { name := key, target, exact := false } := by
  rw [ofKey, if_neg]
  rintro ⟨last, long⟩
  obtain ⟨name, rfl⟩ := List.getLast?_eq_some_iff.1 last
  apply unmarked name _ rfl
  rintro rfl
  exact absurd long (by simp)

/-- The entry of a key has the name and the exactness that the key gives. -/
theorem ofKey_eq_iff {key target : Text} {entry : Entry} :
    ofKey key target = entry ↔ KeyFor key entry.name entry.exact ∧ entry.target = target := by
  constructor
  · rintro rfl
    by_cases marked : ∃ name, name ≠ [] ∧ key = name ++ [exactMark]
    · obtain ⟨name, nonempty, rfl⟩ := marked
      rw [ofKey_marked nonempty]
      exact ⟨KeyFor.marked nonempty, rfl⟩
    · have unmarked : ∀ name, name ≠ [] → key ≠ name ++ [exactMark] :=
        fun name nonempty same => marked ⟨name, nonempty, same⟩
      rw [ofKey_plain unmarked]
      exact ⟨KeyFor.plain unmarked, rfl⟩
  · obtain ⟨name, entryTarget, exactness⟩ := entry
    rintro ⟨reads, rfl⟩
    cases reads with
    | marked nonempty => exact ofKey_marked nonempty _
    | plain unmarked => exact ofKey_plain unmarked _

/-- The key of an entry is the one that it was read from. -/
@[simp] theorem key_ofKey (key target : Text) : (ofKey key target).key = key := by
  obtain ⟨reads, _⟩ := ofKey_eq_iff.1 (rfl : ofKey key target = ofKey key target)
  generalize ofKey key target = entry at reads
  obtain ⟨name, entryTarget, exactness⟩ := entry
  cases reads with
  | marked nonempty => rfl
  | plain unmarked => rfl

/-- A member of a configured object is read as an entry: its key gives name and exactness, and its
value stands for the target. -/
structure ReadFrom (member : Text × Value) (entry : Entry) : Prop where
  key : KeyFor member.1 entry.name entry.exact
  target : Stands member.2 entry.target

end Entry

/-- The entry that a member is read as, if it is read as one. -/
def entryOf? (member : Text × Value) : Option Entry :=
  (Table.target? member.2).map (Entry.ofKey member.1)

theorem entryOf?_eq_some_iff {member : Text × Value} {entry : Entry} :
    entryOf? member = some entry ↔ entry.ReadFrom member := by
  rw [entryOf?, Option.map_eq_some_iff]
  constructor
  · rintro ⟨target, stands, read⟩
    obtain ⟨key, rfl⟩ := Entry.ofKey_eq_iff.1 read
    exact ⟨key, target?_eq_some_iff.1 stands⟩
  · rintro ⟨key, stands⟩
    exact ⟨entry.target, target?_eq_some_iff.2 stands, Entry.ofKey_eq_iff.2 ⟨key, rfl⟩⟩

theorem entries_ofMembers (members : Members) :
    (Table.ofMembers members).entries = members.filterMap entryOf? := rfl

/-- A configured value counts as a target. -/
def IsTarget (value : Value) : Prop := ∃ target, Stands value target

theorem isTarget_iff {value : Value} : IsTarget value ↔ (Table.target? value).isSome = true := by
  rw [Option.isSome_iff_exists]
  exact exists_congr fun _ => target?_eq_some_iff.symm

instance : DecidablePred IsTarget := fun _ => decidable_of_iff _ isTarget_iff.symm

theorem entryOf?_of_not_isTarget {member : Text × Value} (useless : ¬ IsTarget member.2) :
    entryOf? member = none := by
  rw [isTarget_iff, Option.not_isSome_iff_eq_none] at useless
  rw [entryOf?, useless, Option.map_none]

/-!
### The first member that answers
-/

/-- A member answers for a specifier exactly if the entry that it is read as selects it. -/
theorem any_entryOf?_iff {member : Text × Value} {specifier : Text} :
    (entryOf? member).any (·.matches specifier) = true ↔
      ∃ entry : Entry, entry.ReadFrom member ∧ entry.Selects specifier := by
  rw [Option.any_eq_true]
  constructor
  · rintro ⟨entry, read, applies⟩
    exact ⟨entry, entryOf?_eq_some_iff.1 read, Entry.matches_iff_selects.1 applies⟩
  · rintro ⟨entry, read, selects⟩
    exact ⟨entry, entryOf?_eq_some_iff.2 read, Entry.matches_iff_selects.2 selects⟩

/-- No member before the one that answers is read as an entry that selects the specifier. -/
theorem find_ofMembers_eq_some_iff {members : Members} {specifier : Text} {entry : Entry} :
    (Table.ofMembers members).find specifier = some entry ↔
      ∃ before member after, members = before ++ member :: after ∧
        entry.ReadFrom member ∧ entry.Selects specifier ∧
        ∀ earlier ∈ before, ∀ other : Entry, other.ReadFrom earlier → ¬ other.Selects specifier := by
  have silent : ∀ member : Text × Value,
      (!(entryOf? member).any (·.matches specifier)) = true ↔
        ∀ entry : Entry, entry.ReadFrom member → ¬ entry.Selects specifier := by
    intro member
    rw [Bool.not_eq_true', ← Bool.not_eq_true, any_entryOf?_iff, not_exists]
    exact forall_congr' fun _ => not_and
  rw [Table.find, entries_ofMembers, List.find?_filterMap, Option.bind_eq_some_iff]
  constructor
  · rintro ⟨member, found, read⟩
    obtain ⟨answers, before, after, same, earlier⟩ := List.find?_eq_some_iff_append.1 found
    obtain ⟨other, otherRead, selects⟩ := any_entryOf?_iff.1 answers
    obtain rfl : other = entry :=
      Option.some.inj ((entryOf?_eq_some_iff.2 otherRead).symm.trans read)
    exact ⟨before, member, after, same, otherRead, selects,
      fun member known => (silent member).1 (earlier member known)⟩
  · rintro ⟨before, member, after, same, read, selects, earlier⟩
    refine ⟨member, ?_, entryOf?_eq_some_iff.2 read⟩
    apply List.find?_eq_some_iff_append.2
    exact ⟨any_entryOf?_iff.2 ⟨entry, read, selects⟩, before, after, same,
      fun member known => (silent member).2 (earlier member known)⟩

theorem find_ofMembers_eq_none_iff {members : Members} {specifier : Text} :
    (Table.ofMembers members).find specifier = none ↔
      ∀ member ∈ members, ∀ entry : Entry, entry.ReadFrom member → ¬ entry.Selects specifier := by
  rw [Table.find, List.find?_eq_none, entries_ofMembers]
  constructor
  · intro unmatched member known entry read selects
    have kept : entry ∈ members.filterMap entryOf? :=
      List.mem_filterMap.2 ⟨member, known, entryOf?_eq_some_iff.2 read⟩
    exact unmatched entry kept (Entry.matches_iff_selects.2 selects)
  · intro unselected entry kept applies
    obtain ⟨member, known, read⟩ := List.mem_filterMap.1 kept
    exact unselected member known entry (entryOf?_eq_some_iff.1 read)
      (Entry.matches_iff_selects.1 applies)

/-- A member whose value counts as no target leaves the table as it is without it. -/
theorem ofMembers_append_cons {member : Text × Value} (useless : ¬ IsTarget member.2)
    (before after : Members) :
    Table.ofMembers (before ++ member :: after) = Table.ofMembers (before ++ after) := by
  apply congrArg Table.mk
  change List.filterMap entryOf? (before ++ member :: after) =
    List.filterMap entryOf? (before ++ after)
  rw [List.filterMap_append, List.filterMap_append,
    List.filterMap_cons_none (entryOf?_of_not_isTarget useless)]

/-- The entries that are kept have the keys of the members that are, in their order. -/
theorem map_key_entries_ofMembers (members : Members) :
    (Table.ofMembers members).entries.map Entry.key =
      (members.filter fun member => IsTarget member.2).map Prod.fst := by
  rw [entries_ofMembers]
  induction members with
  | nil => rfl
  | cons member members ih =>
      by_cases useful : IsTarget member.2
      · obtain ⟨target, stands⟩ := useful
        have read : entryOf? member = some (Entry.ofKey member.1 target) := by
          rw [entryOf?, target?_eq_some_iff.2 stands, Option.map_some]
        rw [List.filterMap_cons_some read, List.filter_cons_of_pos (by simpa using ⟨target, stands⟩),
          List.map_cons, List.map_cons, Entry.key_ofKey, ih]
      · rw [List.filterMap_cons_none (entryOf?_of_not_isTarget useful),
          List.filter_cons_of_neg (by simpa using useful), ih]

/-- The table of a configured object answers for a specifier with the entry of the first member that
is read as one and selects the specifier, and with none if there is no such member. A member whose
value counts as no target changes nothing, and the kept entries give back their keys in order. -/
theorem find_ofMembers (members : Members) (specifier : Text) :
    (∀ entry : Entry, (Table.ofMembers members).find specifier = some entry ↔
      ∃ before member after, members = before ++ member :: after ∧
        entry.ReadFrom member ∧ entry.Selects specifier ∧
        ∀ earlier ∈ before, ∀ other : Entry, other.ReadFrom earlier → ¬ other.Selects specifier) ∧
    ((Table.ofMembers members).find specifier = none ↔
      ∀ member ∈ members, ∀ entry : Entry, entry.ReadFrom member → ¬ entry.Selects specifier) ∧
    (∀ before member after, members = before ++ member :: after → ¬ IsTarget member.2 →
      Table.ofMembers members = Table.ofMembers (before ++ after)) ∧
    (Table.ofMembers members).entries.map Entry.key =
      (members.filter fun member => IsTarget member.2).map Prod.fst := by
  refine ⟨fun _ => find_ofMembers_eq_some_iff, find_ofMembers_eq_none_iff, ?_,
    map_key_entries_ofMembers members⟩
  rintro before member after rfl useless
  exact ofMembers_append_cons useless before after

/-- A key whose value counts as no target stands in front of a marked key and a plain one, and would
select the specifier. It is as if it were not there: the plain one answers, with the first item of
its list. -/
theorem plain_key_answers_behind_dropped :
    let members : Members :=
      [(Text.ofString "@ui/", .boolean false), (Text.ofString "@ui$", .text "./ui/index"),
        (Text.ofString "@ui", .list [.text "./ui", .text "./old"])]
    let entry : Entry := { name := "@ui", target := "./ui", exact := false }
    (Table.ofMembers members).find "@ui//x" = some entry ∧
      Table.ofMembers members = Table.ofMembers (members.drop 1) := by
  intro members entry
  obtain ⟨answers, _, dropped, _⟩ := find_ofMembers members "@ui//x"
  have read : entry.ReadFrom (Text.ofString "@ui", .list [.text "./ui", .text "./old"]) := by
    constructor
    · apply KeyFor.plain
      intro name _ same
      have last := congrArg List.getLast? same
      rw [List.getLast?_concat] at last
      exact absurd last (by decide)
    · exact Stands.first (by decide) _
  constructor
  · apply (answers entry).2
    refine ⟨members.take 2, _, [], rfl, read, by decide +kernel, ?_⟩
    intro earlier known other otherRead
    have given := entryOf?_eq_some_iff.2 otherRead
    rcases List.mem_cons.1 known with rfl | known
    · cases given
    · obtain rfl := List.mem_singleton.1 known
      obtain rfl : Entry.ofKey "@ui$" "./ui/index" = other := Option.some.inj given
      decide +kernel
  · apply dropped [] _ (members.drop 1) rfl
    decide

end ModuleAlias.Alias
