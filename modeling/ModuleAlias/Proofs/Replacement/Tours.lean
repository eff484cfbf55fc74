/-
Module: ModuleAlias.Proofs.Replacement.Tours
Purpose: The loop over a tree, and the recursion that it stands for. The recursion visits a node and
  then, if the visit goes on, its children from left to right. The loop keeps the places that are
  still to come on a stack and puts the children of a node there in reverse, so that it takes as
  many turns as the recursion visits places, and comes to the same. The places are those that no
  visit stops above, in the order of the numbers of the children on the way to them.
Imports: ModuleAlias.Proofs.Replacement.Reach
Main exports: Replacement.Tour, Replacement.tourFrom, Replacement.Loop, Replacement.Loop.turn,
  Replacement.turns_eq_toursOf, Replacement.numberedFrom, Replacement.tourFrom_eq_along,
  Replacement.mem_numberedFrom_iff, Replacement.pairwise_numberedFrom
-/
import ModuleAlias.Proofs.Replacement.Reach

namespace ModuleAlias.Replacement

open Script

/-!
### The recursion
-/

/-- A tour of some places: those that are visited, what is recorded there, and the failure that ends
the tour, if one does. -/
structure Tour (ε α : Type) where
  visited : List Place
  recorded : List α
  failure : Option ε

namespace Tour

variable {ε α : Type}

/-- The tour of no places. -/
def empty : Tour ε α := { visited := [], recorded := [], failure := none }

/-- The visit of one place that finds something. -/
def found (place : Place) (finding : Finding α) : Tour ε α where
  visited := [place]
  recorded := finding.recorded.toList
  failure := none

/-- The visit of one place that fails. -/
def failed (place : Place) (failure : ε) : Tour ε α where
  visited := [place]
  recorded := []
  failure := some failure

/-- One tour and then another one, unless the first is ended by a failure. -/
def andThen (first second : Tour ε α) : Tour ε α :=
  match first.failure with
  | some _ => first
  | none =>
    { visited := first.visited ++ second.visited
      recorded := first.recorded ++ second.recorded
      failure := second.failure }

@[simp] theorem found_andThen (place : Place) (finding : Finding α) (tour : Tour ε α) :
    (found place finding).andThen tour =
      { visited := place :: tour.visited
        recorded := finding.recorded.toList ++ tour.recorded
        failure := tour.failure } := rfl

@[simp] theorem failed_andThen (place : Place) (failure : ε) (tour : Tour ε α) :
    (failed place failure).andThen tour = failed place failure := rfl

@[simp] theorem andThen_empty (tour : Tour ε α) : tour.andThen empty = tour := by
  obtain ⟨visited, recorded, failure⟩ := tour
  cases failure with
  | none => simp [andThen, empty]
  | some failure => rfl

theorem andThen_assoc (first second third : Tour ε α) :
    (first.andThen second).andThen third = first.andThen (second.andThen third) := by
  obtain ⟨visited, recorded, failure⟩ := first
  cases failure with
  | some failure => rfl
  | none =>
      obtain ⟨visited', recorded', failure'⟩ := second
      cases failure' with
      | some failure' => rfl
      | none => simp [andThen]

/-- The tour of some places that are visited one after another, until a visit fails. -/
def along (find : Place → Except ε (Finding α)) : List Place → Tour ε α
  | [] => empty
  | place :: places =>
    match find place with
    | .error failure => failed place failure
    | .ok finding => (found place finding).andThen (along find places)

section
variable {find : Place → Except ε (Finding α)} {place : Place} {places : List Place}

theorem along_cons_of_error {failure : ε} (fails : find place = .error failure) :
    along find (place :: places) = failed place failure := by
  simp only [along, fails]

theorem along_cons_of_ok {finding : Finding α} (finds : find place = .ok finding) :
    along find (place :: places) = (found place finding).andThen (along find places) := by
  simp only [along, finds]

theorem along_append (first second : List Place) :
    along find (first ++ second) = (along find first).andThen (along find second) := by
  induction first with
  | nil => rfl
  | cons place places ih =>
      rw [List.cons_append]
      cases finds : find place with
      | error failure =>
          rw [along_cons_of_error finds, along_cons_of_error finds, failed_andThen]
      | ok finding => rw [along_cons_of_ok finds, ih, along_cons_of_ok finds, andThen_assoc]

theorem visited_along_prefix (places : List Place) : (along find places).visited <+: places := by
  induction places with
  | nil => exact List.prefix_rfl
  | cons place places ih =>
      cases finds : find place with
      | error failure =>
          rw [along_cons_of_error finds]
          exact ⟨places, rfl⟩
      | ok finding =>
          rw [along_cons_of_ok finds]
          exact (List.prefix_cons_inj place).2 ih

/-- Unless a visit fails, all places are visited. -/
theorem visited_along (sound : (along find places).failure = none) :
    (along find places).visited = places := by
  induction places with
  | nil => rfl
  | cons place places ih =>
      cases finds : find place with
      | error failure =>
          rw [along_cons_of_error finds] at sound
          cases sound
      | ok finding =>
          rw [along_cons_of_ok finds] at sound ⊢
          exact congrArg (place :: ·) (ih sound)

/-- A failure is that of the last visit. -/
theorem exists_last_of_failure {failure : ε} (failed : (along find places).failure = some failure) :
    ∃ before place, (along find places).visited = before ++ [place] ∧
      find place = .error failure := by
  induction places with
  | nil => cases failed
  | cons place places ih =>
      cases finds : find place with
      | error failure' =>
          rw [along_cons_of_error finds] at failed ⊢
          cases failed
          exact ⟨[], place, rfl, finds⟩
      | ok finding =>
          rw [along_cons_of_ok finds] at failed ⊢
          obtain ⟨before, last, visited, fails⟩ := ih failed
          exact ⟨place :: before, last, congrArg (place :: ·) visited, fails⟩

end

end Tour

mutual

/-- The tour of a tree: the node is visited, and then, if the visit goes on from there, the children
from left to right. -/
def tourFrom {ε α : Type} (find : Place → Except ε (Finding α)) (around : List Node) :
    Node → Tour ε α
  | .mk kind part start stop children =>
    let place : Place := { around, node := .mk kind part start stop children }
    match find place with
    | .error failure => .failed place failure
    | .ok finding =>
      (Tour.found place finding).andThen
        (if finding.descends then tourAll find (place.node :: around) children else .empty)

/-- The tours of some trees, one after another. -/
def tourAll {ε α : Type} (find : Place → Except ε (Finding α)) (around : List Node) :
    List Node → Tour ε α
  | [] => .empty
  | node :: nodes => (tourFrom find around node).andThen (tourAll find around nodes)

end

section
variable {ε α : Type} {find : Place → Except ε (Finding α)} {place : Place} {places : List Place}

theorem tourFrom_of_error {failure : ε} (fails : find place = .error failure) :
    tourFrom find place.around place.node = .failed place failure := by
  obtain ⟨around, node⟩ := place
  cases node
  simp only [tourFrom, fails]

theorem tourFrom_of_ok {finding : Finding α} (finds : find place = .ok finding) :
    tourFrom find place.around place.node =
      (Tour.found place finding).andThen
        (if finding.descends then tourAll find (place.node :: place.around) place.node.children
          else .empty) := by
  obtain ⟨around, node⟩ := place
  cases node
  simp only [tourFrom, finds, Node.children]

mutual

/-- A tour visits no more places than the tree has nodes. -/
theorem length_visited_tourFrom_le (around : List Node) :
    ∀ node : Node, (tourFrom find around node).visited.length ≤ node.size
  | .mk kind part start stop children => by
      have below := length_visited_tourAll_le
        (.mk kind part start stop children :: around) children
      cases finds : find { around, node := .mk kind part start stop children } with
      | error failure =>
          rw [tourFrom_of_error finds, Node.size]
          exact Nat.le_add_left 1 _
      | ok finding =>
          rw [tourFrom_of_ok finds, Node.size, Tour.found_andThen, List.length_cons]
          apply Nat.succ_le_succ
          split
          · exact below
          · exact Nat.zero_le _

theorem length_visited_tourAll_le (around : List Node) :
    ∀ nodes : List Node, (tourAll find around nodes).visited.length ≤ Node.sizeOfAll nodes
  | [] => Nat.le_refl 0
  | node :: nodes => by
      have first := length_visited_tourFrom_le around node
      have rest := length_visited_tourAll_le around nodes
      rw [tourAll, Node.sizeOfAll, Tour.andThen]
      split
      · omega
      · rw [List.length_append]
        omega

end

end

/-!
### The places of a tour
-/

/-- A visit finds something at a place and does not go on from there. -/
def stops {ε α : Type} (find : Place → Except ε (Finding α)) (place : Place) : Bool :=
  match find place with
  | .error _ => false
  | .ok finding => !finding.descends

mutual

/-- The places of a tree that no visit stops above, each with the numbers of the children on the way
to it: first the place of the node, then those below its children from left to right. -/
def numberedFrom {ε α : Type} (find : Place → Except ε (Finding α)) (around : List Node) :
    Node → List (List Nat × Place)
  | .mk kind part start stop children =>
    let place : Place := { around, node := .mk kind part start stop children }
    ([], place) ::
      if stops find place then [] else numberedAll find (place.node :: around) 0 children

/-- The places of some trees, the children from a number on. -/
def numberedAll {ε α : Type} (find : Place → Except ε (Finding α)) (around : List Node)
    (number : Nat) : List Node → List (List Nat × Place)
  | [] => []
  | node :: nodes =>
    (numberedFrom find around node).map (fun numbered => (number :: numbered.1, numbered.2)) ++
      numberedAll find around (number + 1) nodes

end

section
variable {ε α : Type} {find : Place → Except ε (Finding α)} {place inner : Place}
  {numbers : List Nat}

theorem stops_of_ok {finding : Finding α} (finds : find place = .ok finding) :
    stops find place = !finding.descends := by
  rw [stops, finds]

theorem numberedFrom_eq (place : Place) :
    numberedFrom find place.around place.node =
      ([], place) :: if stops find place then []
        else numberedAll find (place.node :: place.around) 0 place.node.children := by
  obtain ⟨around, node⟩ := place
  cases node
  simp only [numberedFrom, Node.children]

mutual

/-- The tour of a tree is that of the places that no visit stops above, one after another. -/
theorem tourFrom_eq_along (around : List Node) :
    ∀ node : Node, tourFrom find around node =
      Tour.along find ((numberedFrom find around node).map Prod.snd)
  | .mk kind part start stop children => by
      have below := tourAll_eq_along (.mk kind part start stop children :: around) 0 children
      let place : Place := { around, node := .mk kind part start stop children }
      have numbered : numberedFrom find around (.mk kind part start stop children) = _ :=
        numberedFrom_eq place
      cases finds : find place with
      | error failure =>
          rw [tourFrom_of_error finds, numbered, List.map_cons, Tour.along_cons_of_error finds]
      | ok finding =>
          rw [tourFrom_of_ok finds, numbered, List.map_cons, Tour.along_cons_of_ok finds,
            stops_of_ok finds]
          apply congrArg (Tour.found place finding).andThen
          cases finding.descends with
          | false => rfl
          | true => exact below

theorem tourAll_eq_along (around : List Node) (number : Nat) :
    ∀ nodes : List Node, tourAll find around nodes =
      Tour.along find ((numberedAll find around number nodes).map Prod.snd)
  | [] => rfl
  | node :: nodes => by
      rw [tourAll, numberedAll, List.map_append, Tour.along_append, List.map_map,
        tourFrom_eq_along around node, tourAll_eq_along around (number + 1) nodes]
      rfl

end

/-- The places of some trees are those of one of them, below its number. -/
theorem mem_numberedAll {around : List Node} {number : Nat} {nodes : List Node} :
    (numbers, inner) ∈ numberedAll find around number nodes ↔
      ∃ index rest node, numbers = (number + index) :: rest ∧ nodes[index]? = some node ∧
        (rest, inner) ∈ numberedFrom find around node := by
  induction nodes generalizing number with
  | nil => simp [numberedAll]
  | cons first nodes ih =>
      rw [numberedAll, List.mem_append, List.mem_map, ih]
      constructor
      · rintro (⟨⟨rest, _⟩, known, rfl, rfl⟩ | ⟨index, rest, node, rfl, isChild, known⟩)
        · exact ⟨0, rest, first, rfl, rfl, known⟩
        · exact ⟨index + 1, rest, node, by rw [Nat.add_right_comm, Nat.add_assoc], isChild, known⟩
      · rintro ⟨index, rest, node, rfl, isChild, known⟩
        cases index with
        | zero =>
            cases isChild
            exact Or.inl ⟨(rest, inner), known, rfl⟩
        | succ index =>
            exact Or.inr ⟨index, rest, node, by rw [Nat.add_right_comm, Nat.add_assoc], isChild,
              known⟩

/-- The numbers lead to the place that they stand for, and past no place where a visit stops; all
places of which this is so are there. -/
theorem mem_numberedFrom_iff :
    (numbers, inner) ∈ numberedFrom find place.around place.node ↔
      place.at? numbers = some inner ∧
        ∀ above outer, above <+: numbers → above ≠ numbers → place.at? above = some outer →
          stops find outer = false := by
  induction numbers generalizing place with
  | nil =>
      rw [numberedFrom_eq]
      constructor
      · intro known
        rcases List.mem_cons.1 known with here | below
        · cases here
          refine ⟨rfl, ?_⟩
          intro above outer shorter proper
          exact absurd (List.prefix_nil.1 shorter) proper
        · split at below
          · exact absurd below List.not_mem_nil
          · obtain ⟨_, _, _, numbers, _⟩ := mem_numberedAll.1 below
            cases numbers
      · rintro ⟨found, _⟩
        cases found
        exact List.mem_cons_self
  | cons number numbers ih =>
      have goesIn : (number :: numbers, inner) ∈ numberedFrom find place.around place.node ↔
          stops find place = false ∧ ∃ child, place.children[number]? = some child ∧
            (numbers, inner) ∈ numberedFrom find child.around child.node := by
        rw [numberedFrom_eq, List.mem_cons]
        cases stopped : stops find place with
        | true => simp
        | false =>
            simp only [Prod.mk.injEq, reduceCtorEq, false_and, false_or, Bool.false_eq_true,
              if_false, true_and, mem_numberedAll, Nat.zero_add, List.cons.injEq, Place.children,
              List.getElem?_map, Option.map_eq_some_iff]
            constructor
            · rintro ⟨index, rest, node, ⟨rfl, rfl⟩, isChild, known⟩
              exact ⟨_, ⟨node, isChild, rfl⟩, known⟩
            · rintro ⟨child, ⟨node, isChild, rfl⟩, known⟩
              exact ⟨number, numbers, node, ⟨rfl, rfl⟩, isChild, known⟩
      rw [goesIn, Place.at?, Option.bind_eq_some_iff]
      constructor
      · rintro ⟨goesOn, child, isChild, known⟩
        obtain ⟨found, passes⟩ := ih.1 known
        refine ⟨⟨child, isChild, found⟩, ?_⟩
        intro above outer shorter proper reached
        cases above with
        | nil =>
            cases reached
            exact goesOn
        | cons number' above =>
            obtain ⟨rfl, shorter'⟩ := List.cons_prefix_cons.1 shorter
            rw [Place.at?, isChild] at reached
            exact passes above outer shorter' (fun same => proper (congrArg _ same)) reached
      · rintro ⟨⟨child, isChild, found⟩, passes⟩
        refine ⟨passes [] place List.nil_prefix (List.cons_ne_nil _ _).symm rfl, child, isChild,
          ih.2 ⟨found, ?_⟩⟩
        intro above outer shorter proper reached
        apply passes (number :: above) outer (List.cons_prefix_cons.2 ⟨rfl, shorter⟩)
        · intro same
          exact proper (List.cons.inj same).2
        · rw [Place.at?, isChild]
          exact reached

mutual

/-- The numbers are in the order of the source, so that no place stands there twice. -/
theorem pairwise_numberedFrom (around : List Node) :
    ∀ node : Node, ((numberedFrom find around node).map Prod.fst).Pairwise (· < ·)
  | .mk kind part start stop children => by
      rw [numberedFrom, List.map_cons, List.pairwise_cons]
      split
      · exact ⟨fun _ known => absurd known List.not_mem_nil, List.Pairwise.nil⟩
      · constructor
        · rintro numbers known
          obtain ⟨⟨_, inner⟩, known', rfl⟩ := List.mem_map.1 known
          obtain ⟨index, rest, _, rfl, _⟩ := mem_numberedAll.1 known'
          exact List.nil_lt_cons _ _
        · exact pairwise_numberedAll _ 0 children

theorem pairwise_numberedAll (around : List Node) (number : Nat) :
    ∀ nodes : List Node, ((numberedAll find around number nodes).map Prod.fst).Pairwise (· < ·)
  | [] => List.Pairwise.nil
  | node :: nodes => by
      rw [numberedAll, List.map_append, List.map_map, List.pairwise_append]
      refine ⟨?_, pairwise_numberedAll around (number + 1) nodes, ?_⟩
      · have first := pairwise_numberedFrom around node
        rw [List.pairwise_map] at first ⊢
        apply first.imp
        intro numbered numbered' before
        exact List.cons_lt_cons_iff.2 (Or.inr ⟨rfl, before⟩)
      · intro numbers known numbers' known'
        obtain ⟨numbered, _, rfl⟩ := List.mem_map.1 known
        obtain ⟨⟨_, inner⟩, later, rfl⟩ := List.mem_map.1 known'
        obtain ⟨index, rest, _, rfl, _⟩ := mem_numberedAll.1 later
        exact List.cons_lt_cons_iff.2 (Or.inl (by omega))

end

end

section
variable {ε α : Type} {find : Place → Except ε (Finding α)} {place : Place} {places : List Place}

/-!
### Tours of the places on a stack
-/

/-- The tours of the trees at some places, one after another. -/
def toursOf (find : Place → Except ε (Finding α)) : List Place → Tour ε α
  | [] => .empty
  | place :: places => (tourFrom find place.around place.node).andThen (toursOf find places)

theorem toursOf_root (root : Node) :
    toursOf find [Place.root root] = tourFrom find [] root := by
  simp [toursOf, Place.root]

theorem toursOf_append (first second : List Place) :
    toursOf find (first ++ second) = (toursOf find first).andThen (toursOf find second) := by
  induction first with
  | nil => rfl
  | cons place places ih => rw [List.cons_append, toursOf, ih, toursOf, Tour.andThen_assoc]

theorem tourAll_eq_toursOf (place : Place) :
    tourAll find (place.node :: place.around) place.node.children =
      toursOf find place.children := by
  have all : ∀ (around nodes : List Node), tourAll find around nodes =
      toursOf find (nodes.map fun child => { around, node := child }) := by
    intro around nodes
    induction nodes with
    | nil => rfl
    | cons node nodes ih => rw [tourAll, ih, List.map_cons, toursOf]
  exact all _ _

theorem toursOf_cons_of_error {failure : ε} (fails : find place = .error failure) :
    toursOf find (place :: places) = .failed place failure := by
  rw [toursOf, tourFrom_of_error fails, Tour.failed_andThen]

/-- Behind a place whose visit finds something come the places that are visited next. -/
theorem toursOf_cons_of_ok {finding : Finding α} (finds : find place = .ok finding) :
    toursOf find (place :: places) =
      (Tour.found place finding).andThen (toursOf find (nextPlaces finding place places)) := by
  rw [toursOf, tourFrom_of_ok finds, Tour.andThen_assoc, nextPlaces]
  split
  · rw [toursOf_append, tourAll_eq_toursOf]
  · rfl

end

/-!
### The loop
-/

/-- The loop over a tree between two of its turns: the stack, whose last place comes next, the
places that were visited, what was recorded, the state, and the failure that ended the loop, if one
did. -/
structure Loop (σ ε α : Type) where
  stack : List Place
  visited : List Place
  recorded : List α
  state : σ
  failure : Option ε

namespace Loop

variable {σ ε α : Type}

/-- The loop before its first turn. -/
def start (state : σ) (root : Node) : Loop σ ε α where
  stack := [Place.root root]
  visited := []
  recorded := []
  state
  failure := none

/-- No turn follows: the stack is empty, or a visit has failed. -/
def Ended (loop : Loop σ ε α) : Prop := loop.stack = [] ∨ loop.failure.isSome = true

/-- One turn: the last place is taken off the stack and visited. If the visit goes on from there,
the children are put on the stack in reverse, so that the first of them comes next. -/
def turn (visit : σ → Place → Visit σ ε α) (loop : Loop σ ε α) : Loop σ ε α :=
  match loop.failure, loop.stack.getLast? with
  | none, some place =>
    let visited := visit loop.state place
    match visited.finding with
    | .error failure =>
      { loop with
        stack := loop.stack.dropLast
        visited := loop.visited ++ [place]
        state := visited.state
        failure := some failure }
    | .ok finding =>
      { loop with
        stack := loop.stack.dropLast ++ if finding.descends then place.children.reverse else []
        visited := loop.visited ++ [place]
        recorded := loop.recorded ++ finding.recorded.toList
        state := visited.state }
  | _, _ => loop

/-- A number of turns. -/
def turns (visit : σ → Place → Visit σ ε α) (loop : Loop σ ε α) : Nat → Loop σ ε α
  | 0 => loop
  | count + 1 => turns visit (turn visit loop) count

section
variable {visit : σ → Place → Visit σ ε α} {place : Place} {places visited : List Place}
  {recorded : List α} {state : σ}

theorem turn_of_error {failure : ε} (fails : (visit state place).finding = .error failure) :
    turn visit
        { stack := (place :: places).reverse, visited, recorded, state, failure := none } =
      { stack := places.reverse
        visited := visited ++ [place]
        recorded
        state := (visit state place).state
        failure := some failure } := by
  simp [turn, fails]

/-- What comes next stands on the stack in reverse. -/
theorem turn_of_ok {finding : Finding α} (finds : (visit state place).finding = .ok finding) :
    turn visit
        { stack := (place :: places).reverse, visited, recorded, state, failure := none } =
      { stack := (nextPlaces finding place places).reverse
        visited := visited ++ [place]
        recorded := recorded ++ finding.recorded.toList
        state := (visit state place).state
        failure := none } := by
  have stack : places.reverse ++ (if finding.descends then place.children.reverse else []) =
      (nextPlaces finding place places).reverse := by
    rw [nextPlaces]
    split
    · rw [List.reverse_append]
    · rw [List.append_nil]
  simp [turn, finds, stack]

end

end Loop

/-- When visits find the same in all states that they lead to, the loop ends after as many turns as
the recursion visits places. It has visited the same places, recorded the same and failed alike, and
has come to the state that the walk comes to. -/
theorem turns_eq_toursOf {σ ε α : Type} {visit : σ → Place → Visit σ ε α}
    {find : Place → Except ε (Finding α)} {holds : σ → Prop}
    (keeps : ∀ state place, holds state → holds (visit state place).state)
    (steady : ∀ state place, holds state → (visit state place).finding = find place)
    {state : σ} (places : List Place) (begins : holds state) (visited : List Place)
    (recorded : List α) :
    let toured := toursOf find places
    let loop := Loop.turns visit
      { stack := places.reverse, visited, recorded, state, failure := none } toured.visited.length
    loop.Ended ∧ loop.visited = visited ++ toured.visited ∧
      loop.recorded = recorded ++ toured.recorded ∧ loop.failure = toured.failure ∧
      loop.state = (walkFrom visit state places).state := by
  induction state, places using walkFrom_induction visit generalizing visited recorded with
  | done state =>
      rw [walkFrom_nil]
      simp [toursOf, Tour.empty, Loop.turns, Loop.Ended]
  | failed state place places failure fails =>
      have fails' : find place = .error failure := (steady state place begins).symm.trans fails
      rw [toursOf_cons_of_error fails', walkFrom_cons_of_error fails]
      simp only [Tour.failed, List.length_singleton, Loop.turns, Loop.turn_of_error fails]
      simp [Loop.Ended]
  | found state place places finding finds rest =>
      have finds' : find place = .ok finding := (steady state place begins).symm.trans finds
      obtain ⟨ended, same, same', failure, left⟩ :=
        rest (keeps state place begins) (visited ++ [place]) (recorded ++ finding.recorded.toList)
      rw [toursOf_cons_of_ok finds', walkFrom_cons_of_ok finds]
      simp only [Tour.found_andThen, List.length_cons, Loop.turns, Loop.turn_of_ok finds]
      refine ⟨ended, ?_, ?_, failure, left⟩
      · rw [same, List.append_assoc, List.singleton_append]
      · rw [same', List.append_assoc]

/-- The walk comes to what the recursion comes to. -/
theorem walkFrom_eq_toursOf {σ ε α : Type} {visit : σ → Place → Visit σ ε α}
    {find : Place → Except ε (Finding α)} {holds : σ → Prop}
    (keeps : ∀ state place, holds state → holds (visit state place).state)
    (steady : ∀ state place, holds state → (visit state place).finding = find place)
    {state : σ} (places : List Place) (begins : holds state) :
    (walkFrom visit state places).recorded = (toursOf find places).recorded ∧
      (walkFrom visit state places).failure = (toursOf find places).failure := by
  induction state, places using walkFrom_induction visit with
  | done state =>
      rw [walkFrom_nil]
      exact ⟨rfl, rfl⟩
  | failed state place places failure fails =>
      have fails' : find place = .error failure := (steady state place begins).symm.trans fails
      rw [walkFrom_cons_of_error fails, toursOf_cons_of_error fails']
      exact ⟨rfl, rfl⟩
  | found state place places finding finds rest =>
      have finds' : find place = .ok finding := (steady state place begins).symm.trans finds
      obtain ⟨recorded, failure⟩ := rest (keeps state place begins)
      rw [walkFrom_cons_of_ok finds, toursOf_cons_of_ok finds', Tour.found_andThen]
      exact ⟨congrArg (finding.recorded.toList ++ ·) recorded, failure⟩

end ModuleAlias.Replacement
