/-
This file holds that an integer which a document gives to one of its keys fits
into 64 bits with a sign, in whatever notation the document has it. Integers
enter a document at a single place, which refuses the others; the rules for
building tables only move values about. So what has been read can be written
again.
-/
import Mathlib
import LiveFleet.Toml.Document

namespace LiveFleet.Toml

/-- If the value is an integer, a document can hold it. -/
def Value.IsHeld : Value → Prop
  | .integer number => -(largestInteger : Int) - 1 ≤ number ∧ number ≤ largestInteger
  | _ => True

/-! ### Values that are read -/

section Reading
variable {text rest : List Char} {value : Value}

theorem isHeld_of_word? {word : List Char} (read : word? word = some value) : value.IsHeld := by
  unfold word? at read
  split at read
  · cases read
    trivial
  split at read
  · cases read
    trivial
  split at read
  next number whole =>
    cases read
    simp only [integer?, Option.bind_eq_bind, Option.bind_eq_some_iff] at whole
    obtain ⟨_, -, fits⟩ := whole
    split at fits
    next inside =>
      cases fits
      simpa only [Value.IsHeld, Bool.and_eq_true, decide_eq_true_eq] using inside
    next => contradiction
  · split at read
    · cases read
      trivial
    · split at read
      · cases read
        trivial
      · contradiction

theorem isHeld_of_scalar? (read : scalar? text = some (value, rest)) : value.IsHeld := by
  unfold scalar? at read
  simp only at read
  split at read
  · split at read
    · split at read
      · cases read
        trivial
      · contradiction
    · cases read
      trivial
  · obtain ⟨found, word, same⟩ := Option.map_eq_some_iff.mp read
    cases same
    exact isHeld_of_word? word

theorem isHeld_of_plainValue? (read : plainValue? text = some (value, rest)) : value.IsHeld := by
  unfold plainValue? at read
  split at read
  · cases read
    trivial
  · exact isHeld_of_scalar? read

theorem isHeld_of_value? {depth : Nat} (read : value? depth text = some (value, rest)) :
    value.IsHeld := by
  unfold value? at read
  split at read
  · simp only [Option.bind_eq_bind, Option.bind_eq_some_iff] at read
    obtain ⟨_, -, same⟩ := read
    cases same
    trivial
  · split at read
    · cases read
      trivial
    · simp only [Option.bind_eq_bind, Option.bind_eq_some_iff] at read
      obtain ⟨_, -, same⟩ := read
      cases same
      trivial
  · exact isHeld_of_plainValue? read

end Reading

/-! ### Statements -/

/-- What the statement assigns, if it does, can be held. -/
def Statement.IsHeld : Statement → Prop
  | .assign _ _ value => value.IsHeld
  | _ => True

theorem isHeld_of_statement? {text rest : List Char} {statement : Statement}
    (read : statement? text = some (statement, rest)) : statement.IsHeld := by
  unfold statement? at read
  split at read
  all_goals
    simp only [Option.bind_eq_bind, Option.bind_eq_some_iff] at read
    obtain ⟨_, -, read⟩ := read
    split at read
    case h_2 => contradiction
    simp only [Option.bind_eq_some_iff] at read
  · obtain ⟨_, -, same⟩ := read
    cases same
    trivial
  · obtain ⟨_, -, same⟩ := read
    cases same
    trivial
  · obtain ⟨_, valued, _, -, same⟩ := read
    cases same
    exact isHeld_of_value? valued

theorem isHeld_of_statements? {bound : Nat} {text : List Char} {statements : List Statement}
    (read : statements? bound text = some statements) :
    ∀ statement ∈ statements, statement.IsHeld := by
  induction bound generalizing text statements with
  | zero => cases read
  | succ bound later =>
    unfold statements? at read
    split at read
    · cases read
      simp
    · split at read
      · exact later read
      · simp only [Option.bind_eq_bind, Option.bind_eq_some_iff] at read
        obtain ⟨_, first, _, remaining, same⟩ := read
        cases same
        exact List.forall_mem_cons.mpr ⟨isHeld_of_statement? first, later remaining⟩

/-! ### Tables -/

namespace Entries

/-- All integers among the values can be held. -/
def AreHeld (entries : Entries) : Prop := ∀ entry ∈ entries, entry.2.IsHeld

variable {entries result : Entries} {key : String} {value : Value}

theorem AreHeld.append (held : entries.AreHeld) (added : value.IsHeld) :
    AreHeld (entries ++ [(key, value)]) :=
  List.forall_mem_append.mpr ⟨held, List.forall_mem_singleton.mpr added⟩

theorem AreHeld.set (held : entries.AreHeld) (changed : value.IsHeld) :
    (entries.set key value).AreHeld := by
  unfold Entries.set
  split
  · intro entry member
    obtain ⟨earlier, there, rfl⟩ := List.mem_map.mp member
    split
    · exact changed
    · exact held earlier there
  · exact held.append changed

theorem AreHeld.add? (held : entries.AreHeld) (added : value.IsHeld)
    (adds : entries.add? key value = some result) : result.AreHeld := by
  unfold Entries.add? at adds
  split at adds
  · contradiction
  · cases adds
    exact held.append added

/-- A change of the table at the end of a path changes no other values than tables on the way. -/
theorem AreHeld.changeAt {making kind : TableKind} {path : List String}
    {change : TableKind → Entries → Option Entries}
    (keeps : ∀ kind inner result, AreHeld inner → change kind inner = some result →
      AreHeld result)
    (held : entries.AreHeld)
    (changes : changeAt making change path kind entries = some result) : result.AreHeld := by
  cases path with
  | nil => exact keeps _ _ _ held changes
  | cons key path =>
    unfold Entries.changeAt at changes
    split at changes
    · simp only [Option.bind_eq_bind, Option.bind_eq_some_iff] at changes
      obtain ⟨_, -, same⟩ := changes
      cases same
      exact held.append trivial
    · split at changes
      · contradiction
      · simp only [Option.bind_eq_bind, Option.bind_eq_some_iff] at changes
        obtain ⟨_, -, same⟩ := changes
        cases same
        exact held.set trivial
    · simp only [Option.bind_eq_bind, Option.bind_eq_some_iff] at changes
      obtain ⟨_, -, same⟩ := changes
      cases same
      exact held.set trivial
    · contradiction

theorem AreHeld.assign? {path : List String} (held : entries.AreHeld) (given : value.IsHeld)
    (assigned : entries.assign? path key value = some result) : result.AreHeld := by
  refine held.changeAt (fun _ _ _ inner changes => ?_) assigned
  split at changes
  · exact inner.add? given changes
  · contradiction

theorem AreHeld.begin? {path : List String} (held : entries.AreHeld)
    (begun : entries.begin? path key = some result) : result.AreHeld := by
  refine held.changeAt (fun _ _ _ inner changes => ?_) begun
  split at changes
  · cases changes
    exact inner.append trivial
  · cases changes
    exact inner.set trivial
  · contradiction

theorem AreHeld.beginNext? {path : List String} (held : entries.AreHeld)
    (begun : entries.beginNext? path key = some result) : result.AreHeld := by
  refine held.changeAt (fun _ _ _ inner changes => ?_) begun
  split at changes
  · cases changes
    exact inner.append trivial
  · cases changes
    exact inner.set trivial
  · contradiction

end Entries

variable {draft after : Draft}

theorem Draft.areHeld_of_carryOut? {statement : Statement} (held : draft.entries.AreHeld)
    (given : statement.IsHeld) (carried : draft.carryOut? statement = some after) :
    after.entries.AreHeld := by
  cases statement with
  | assign path key value =>
    obtain ⟨_, assigned, same⟩ := Option.bind_eq_some_iff.mp carried
    cases same
    exact held.changeAt (fun _ _ _ inner changes => inner.assign? given changes) assigned
  | begin path key =>
    obtain ⟨_, begun, same⟩ := Option.bind_eq_some_iff.mp carried
    cases same
    exact held.begin? begun
  | beginNext path key =>
    obtain ⟨_, begun, same⟩ := Option.bind_eq_some_iff.mp carried
    cases same
    exact held.beginNext? begun

theorem Draft.areHeld_of_foldlM {statements : List Statement} (held : draft.entries.AreHeld)
    (given : ∀ statement ∈ statements, statement.IsHeld)
    (carried : statements.foldlM Draft.carryOut? draft = some after) : after.entries.AreHeld := by
  induction statements generalizing draft with
  | nil =>
    cases carried
    exact held
  | cons statement statements later =>
    rw [List.foldlM_cons] at carried
    obtain ⟨next, first, remaining⟩ := Option.bind_eq_some_iff.mp carried
    obtain ⟨given_first, given_later⟩ := List.forall_mem_cons.mp given
    exact later (Draft.areHeld_of_carryOut? held given_first first) given_later remaining

/-- Every integer that a document gives to one of its keys can be held by a document. -/
theorem areHeld_of_read? {document : String} {entries : Entries}
    (read : read? document = some entries) : entries.AreHeld := by
  simp only [read?, Option.bind_eq_bind, Option.bind_eq_some_iff] at read
  obtain ⟨statements, found, draft, carried, same⟩ := read
  cases same
  have empty : Entries.AreHeld [] := fun _ member => absurd member List.not_mem_nil
  exact Draft.areHeld_of_foldlM empty (isHeld_of_statements? found) carried

end LiveFleet.Toml
