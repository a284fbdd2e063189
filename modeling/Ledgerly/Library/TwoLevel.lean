/-
This file is about maps whose values may name another key as their parent, with two levels at
most: whoever has a parent has one that is there, that has no parent itself, and that fits.

The rule for one write asks what the written value says about its own parent, and what it does
to those whose parent it is.
-/

import Ledgerly.Library.KeyMap

namespace KeyMap

variable {Key Node : Type*} [DecidableEq Key] (parentOf : Node → Option Key)
  (fits : Node → Node → Prop)

/-- Every parent that is named is there, is a root, and fits the child. -/
def TwoLevel (map : KeyMap Key Node) : Prop :=
  ∀ key node parentKey, map.lookup key = some node → parentOf node = some parentKey →
    ∃ parent, map.lookup parentKey = some parent ∧ parentOf parent = none ∧ fits node parent

variable {parentOf fits}

theorem twoLevel_empty : TwoLevel parentOf fits (∅ : KeyMap Key Node) := by
  intro key node parentKey found
  rw [AList.lookup_empty] at found
  cases found

/-- What is not there is nobody's parent. -/
theorem TwoLevel.ne_of_missing {map : KeyMap Key Node} (two : TwoLevel parentOf fits map)
    {missing : Key} (none : map.lookup missing = none) {key : Key} {node : Node}
    (found : map.lookup key = some node) : parentOf node ≠ some missing := by
  intro child
  obtain ⟨parent, there, -⟩ := two key node missing found child
  rw [none] at there
  cases there

/-- One write. -/
theorem TwoLevel.insert {map : KeyMap Key Node} (two : TwoLevel parentOf fits map) {key : Key}
    {node : Node}
    (child : ∀ parentKey, parentOf node = some parentKey → parentKey ≠ key ∧
      ∃ parent, map.lookup parentKey = some parent ∧ parentOf parent = none ∧ fits node parent)
    (parent : ∀ other below, map.lookup other = some below → other ≠ key →
      parentOf below = some key → parentOf node = none ∧ fits below node) :
    TwoLevel parentOf fits (map.insert key node) := by
  intro other below parentKey found named
  rcases lookup_insert_eq_some found with ⟨rfl, rfl⟩ | ⟨different, before⟩
  · obtain ⟨notSelf, above, there, root, fitting⟩ := child parentKey named
    exact ⟨above, (AList.lookup_insert_ne notSelf).trans there, root, fitting⟩
  · by_cases same : parentKey = key
    · subst same
      obtain ⟨root, fitting⟩ := parent other below before different named
      exact ⟨node, AList.lookup_insert _, root, fitting⟩
    · obtain ⟨above, there, root, fitting⟩ := two other below parentKey before named
      exact ⟨above, (AList.lookup_insert_ne same).trans there, root, fitting⟩

end KeyMap
