import ApiStyle.Files.Lookup
import Mathlib.Logic.Relation

/-! The search for the directory of a project. It stands at the current directory first, and goes on from a directory
without the file to the one above. That leaves one directory less to look at, so the search ends, at a directory with the
file or past the root. All that it has left behind lacks the file, so no nearer directory has it. -/

namespace ApiStyle

namespace Directory

/-- The directory that this one is in. Only the root is in none. -/
def parent? (directory : Directory) : Option Directory :=
  if directory.names = [] then none else some ⟨directory.names.dropLast⟩

/-- A directory encloses itself and all that its names lead on to. -/
def Encloses (outer inner : Directory) : Prop := outer.names <+: inner.names

/-- How many directories a search has yet to look at. It stands at the next of them, or at none. -/
def remaining : Option Directory → Nat
  | none => 0
  | some directory => directory.names.length + 1

theorem parent?_eq_none {directory : Directory} : directory.parent? = none ↔ directory = ⟨[]⟩ := by
  obtain ⟨names⟩ := directory
  simp [parent?]

theorem parent?_eq_some {directory parent : Directory} (up : directory.parent? = some parent) :
    ∃ name, directory = ⟨parent.names ++ [name]⟩ := by
  obtain ⟨names⟩ := directory
  unfold parent? at up
  split at up
  · cases up
  next inner =>
    cases up
    exact ⟨names.getLast inner, congrArg mk (List.dropLast_concat_getLast inner).symm⟩

theorem remaining_parent? (directory : Directory) : remaining directory.parent? + 1 = remaining (some directory) := by
  cases up : directory.parent? with
  | none =>
    obtain rfl := parent?_eq_none.mp up
    rfl
  | some parent =>
    obtain ⟨name, rfl⟩ := parent?_eq_some up
    simp [remaining]

private theorem encloses_parent {directory parent : Directory} (up : directory.parent? = some parent) :
    parent.Encloses directory := by
  obtain ⟨name, rfl⟩ := parent?_eq_some up
  exact List.prefix_append _ _

namespace Encloses

variable {outer inner : Directory}

theorem eq_of_length (encloses : outer.Encloses inner) (same : outer.names.length = inner.names.length) :
    outer = inner :=
  congrArg mk (List.IsPrefix.eq_of_length encloses same)

private theorem length_lt (encloses : outer.Encloses inner) (differs : inner ≠ outer) :
    outer.names.length < inner.names.length :=
  Nat.lt_of_le_of_ne (List.IsPrefix.length_le encloses) fun same => differs (encloses.eq_of_length same).symm

theorem total {first second : Directory} (one : first.Encloses inner) (other : second.Encloses inner) :
    first.Encloses second ∨ second.Encloses first :=
  List.prefix_or_prefix_of_prefix one other

private theorem unique {first second : Directory} (one : first.Encloses inner) (other : second.Encloses inner)
    (same : first.names.length = second.names.length) : first = second := by
  rcases one.total other with below | above
  · exact below.eq_of_length same
  · exact (above.eq_of_length same.symm).symm

end Encloses

private theorem upwards_root : upwards ⟨[]⟩ = [⟨[]⟩] := rfl

private theorem upwards_inner (names : List String) (name : String) :
    upwards ⟨names ++ [name]⟩ = ⟨names ++ [name]⟩ :: upwards ⟨names⟩ := by
  unfold upwards
  rw [List.length_append, List.length_singleton, List.range_succ_eq_map, List.map_cons, List.map_map]
  congr 1
  · exact congrArg mk (List.take_of_length_le (by simp))
  · apply List.map_congr_left
    intro steps _
    have short : names.length - steps ≤ names.length := Nat.sub_le _ _
    simp [List.take_append_of_le_length short]

variable {test : Directory → Bool} {start found : Directory}

/-- The nearest directory is this one, or else the nearest from the one above. -/
theorem nearest?_eq (test : Directory → Bool) (directory : Directory) :
    directory.nearest? test = if test directory then some directory else directory.parent?.bind (nearest? test) := by
  unfold nearest?
  cases up : directory.parent? with
  | none =>
    obtain rfl := parent?_eq_none.mp up
    rw [upwards_root, List.find?_cons]
    cases test ⟨[]⟩ <;> rfl
  | some parent =>
    obtain ⟨name, rfl⟩ := parent?_eq_some up
    rw [upwards_inner, List.find?_cons]
    cases test ⟨parent.names ++ [name]⟩ <;> rfl

private theorem passes_of_nearest? (nearest : start.nearest? test = some found) : test found = true :=
  List.find?_some nearest

/-- One round of a search: a directory that fails the test is left for the one above. -/
inductive Round (test : Directory → Bool) : Option Directory → Option Directory → Prop where
  | leave {directory : Directory} (fails : test directory = false) : Round test (some directory) directory.parent?

/-- A search from a directory gets to a position and can go no further. -/
structure EndsAt (test : Directory → Bool) (start : Directory) (position : Option Directory) : Prop where
  reached : Relation.ReflTransGen (Round test) (some start) position
  rests : ∀ next, ¬ Round test position next

theorem wellFounded_round (test : Directory → Bool) : WellFounded fun after before => Round test before after := by
  refine Subrelation.wf ?_ (measure remaining).wf
  intro after before round
  cases round with
  | leave fails => exact Nat.lt_of_succ_le (Nat.le_of_eq (remaining_parent? _))

private theorem reaches_nearest? (test : Directory → Bool) (position : Option Directory) :
    Relation.ReflTransGen (Round test) position (position.bind (nearest? test)) := by
  induction position using (wellFounded_round test).induction with
  | _ position ih =>
    cases position with
    | none => exact .refl
    | some directory =>
      rw [Option.bind_some, nearest?_eq]
      split
      · exact .refl
      next fails =>
        have round : Round test (some directory) directory.parent? := .leave (Bool.eq_false_iff.mpr fails)
        exact .head round (ih _ round)

theorem endsAt_nearest? (test : Directory → Bool) (start : Directory) : EndsAt test start (start.nearest? test) := by
  refine ⟨reaches_nearest? test (some start), ?_⟩
  intro next round
  cases nearest : start.nearest? test with
  | none =>
    rw [nearest] at round
    cases round
  | some found =>
    rw [nearest] at round
    cases round with
    | leave fails => exact absurd fails (ne_false_of_eq_true (passes_of_nearest? nearest))

/-- What a search knows where it stands: it is on the way up, and what it has left behind fails. -/
structure Searched (test : Directory → Bool) (start : Directory) (position : Option Directory) : Prop where
  onWay : ∀ directory, position = some directory → directory.Encloses start
  behind : ∀ left : Directory, left.Encloses start → remaining position < remaining (some left) → test left = false

private theorem searched_start (test : Directory → Bool) (start : Directory) : Searched test start (some start) := by
  constructor
  · intro directory here
    cases here
    exact List.prefix_rfl
  · intro left encloses less
    have short := List.IsPrefix.length_le encloses
    simp only [remaining] at less
    omega

private theorem Searched.round {before after : Option Directory} (searched : Searched test start before)
    (round : Round test before after) : Searched test start after := by
  cases round with
  | @leave directory fails =>
    have encloses := searched.onWay directory rfl
    constructor
    · intro parent up
      exact (encloses_parent up).trans encloses
    · intro left above less
      by_cases here : left = directory
      · rwa [here]
      · apply searched.behind left above
        -- No other directory on the way has as many names as the one that has just been left.
        have longer : left.names.length ≠ directory.names.length := fun same => here (above.unique encloses same)
        have count := remaining_parent? directory
        simp only [remaining] at count less ⊢
        omega

theorem searched_of_reaches {position : Option Directory}
    (reached : Relation.ReflTransGen (Round test) (some start) position) : Searched test start position := by
  induction reached with
  | refl => exact searched_start test start
  | tail _ round ih => exact ih.round round

/-- A directory on the way up that passes the test, where none on the way to it does. -/
structure IsNearest (test : Directory → Bool) (start found : Directory) : Prop where
  encloses : found.Encloses start
  passes : test found = true
  nearer : ∀ between : Directory, found.Encloses between → between.Encloses start → between ≠ found →
    test between = false

private theorem IsNearest.unique {other : Directory} (one : IsNearest test start found)
    (two : IsNearest test start other) :
    found = other := by
  apply Classical.byContradiction
  intro differs
  rcases one.encloses.total two.encloses with inner | outer
  · exact absurd (one.nearer other inner two.encloses (Ne.symm differs)) (ne_false_of_eq_true two.passes)
  · exact absurd (two.nearer found outer one.encloses differs) (ne_false_of_eq_true one.passes)

theorem EndsAt.isNearest (ends : EndsAt test start (some found)) : IsNearest test start found := by
  have searched := searched_of_reaches ends.reached
  refine ⟨searched.onWay found rfl, ?_, ?_⟩
  · cases passes : test found with
    | true => rfl
    | false => exact absurd (.leave passes) (ends.rests found.parent?)
  · intro between inner outer differs
    exact searched.behind between outer (Nat.succ_lt_succ (inner.length_lt differs))

theorem EndsAt.nowhere (ends : EndsAt test start none) {outer : Directory} (encloses : outer.Encloses start) :
    test outer = false :=
  (searched_of_reaches ends.reached).behind outer encloses (Nat.succ_pos _)

theorem nearest?_eq_some_iff : start.nearest? test = some found ↔ IsNearest test start found := by
  have ends := endsAt_nearest? test start
  constructor
  · intro nearest
    rw [nearest] at ends
    exact ends.isNearest
  · intro nearest
    cases result : start.nearest? test with
    | none =>
      rw [result] at ends
      exact absurd (ends.nowhere nearest.encloses) (ne_false_of_eq_true nearest.passes)
    | some other =>
      rw [result] at ends
      exact congrArg some (ends.isNearest.unique nearest)

/-- Where two directories pass, the search stops at the nearer one. -/
example : nearest? (fun directory => directory.names.length < 2) ⟨["home", "api", "v1"]⟩ = some ⟨["home"]⟩ := rfl

theorem nearest?_eq_none_iff :
    start.nearest? test = none ↔ ∀ outer : Directory, outer.Encloses start → test outer = false := by
  have ends := endsAt_nearest? test start
  constructor
  · intro nowhere outer encloses
    rw [nowhere] at ends
    exact ends.nowhere encloses
  · intro fails
    cases result : start.nearest? test with
    | none => rfl
    | some found =>
      have nearest := nearest?_eq_some_iff.mp result
      exact absurd (fails found nearest.encloses) (ne_false_of_eq_true nearest.passes)

theorem endsAt_iff {position : Option Directory} : EndsAt test start position ↔ position = start.nearest? test := by
  constructor
  · intro ends
    cases position with
    | none => exact (nearest?_eq_none_iff.mpr fun outer encloses => ends.nowhere encloses).symm
    | some found => exact (nearest?_eq_some_iff.mpr ends.isNearest).symm
  · intro result
    rw [result]
    exact endsAt_nearest? test start

end Directory

namespace Surroundings

/-- Whether a directory has a file of a name. -/
def hasFile (surroundings : Surroundings) (name : String) (directory : Directory) : Bool :=
  (surroundings.look (directory.path.join ⟨name⟩)).isFile

/-- No search upwards goes on for ever. It ends in one way only, with the nearest directory that has a file of the name,
and with none exactly if no directory up to the root has one. -/
theorem nearestWith?_finds_nearest (surroundings : Surroundings) (start : Directory) (name : String) :
    (WellFounded fun after before => Directory.Round (surroundings.hasFile name) before after) ∧
    (∀ position, Directory.EndsAt (surroundings.hasFile name) start position ↔
      position = surroundings.nearestWith? start name) ∧
    (∀ found, surroundings.nearestWith? start name = some found ↔
      Directory.IsNearest (surroundings.hasFile name) start found) ∧
    (surroundings.nearestWith? start name = none ↔
      ∀ outer : Directory, outer.Encloses start → surroundings.hasFile name outer = false) := by
  refine ⟨Directory.wellFounded_round _, ?_, ?_, ?_⟩
  · intro position
    exact Directory.endsAt_iff
  · intro found
    exact Directory.nearest?_eq_some_iff
  · exact Directory.nearest?_eq_none_iff

end Surroundings

end ApiStyle
