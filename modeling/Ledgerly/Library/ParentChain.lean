/-
This file is about chains of parents: every node may name another one, and a search follows the
names upwards until it meets its target or a node that names nobody.

Nothing says that the search ends. It does where a parent has no parent itself, and the rule for
one write says exactly when a write leaves it so. It ends as well where finitely many nodes have
parents and no node is above itself, and then it finds its target exactly if that one is above.
-/

import Mathlib.Logic.Function.Basic
import Mathlib.Logic.Relation
import Mathlib.Data.Finset.Card
import Mathlib.Data.Option.Basic
import Mathlib.Tactic.SplitIfs

namespace ParentChain

variable {Node : Type*} (parentOf : Node → Option Node)

/-- A parent has no parent. -/
def Shallow : Prop := ∀ child parent, parentOf child = some parent → parentOf parent = none

/-- One node is another one or above it. -/
def Above (node target : Node) : Prop :=
  Relation.ReflTransGen (fun child parent => parentOf child = some parent) node target

/-- No node is above itself. -/
def Acyclic : Prop :=
  ∀ node, ¬Relation.TransGen (fun child parent => parentOf child = some parent) node node

/-- The search for a target from a node upwards; `none` where the fuel does not suffice. -/
def seek [DecidableEq Node] (target : Node) : Nat → Node → Option Bool
  | 0, _ => none
  | fuel + 1, node =>
    if node = target then some true
    else
      match parentOf node with
      | none => some false
      | some parent => seek target fuel parent

variable {parentOf}

/-- One write leaves every parent without a parent exactly if the parent that it names is another
node, has no parent, and if nobody names the written node. -/
theorem shallow_update_iff [DecidableEq Node] (shallow : Shallow parentOf) (node : Node)
    (parent : Option Node) :
    Shallow (Function.update parentOf node parent) ↔ ∀ above, parent = some above →
      above ≠ node ∧ parentOf above = none ∧ ∀ child, parentOf child ≠ some node := by
  constructor
  · rintro after above rfl
    have self : Function.update parentOf node (some above) node = some above :=
      Function.update_self _ _ _
    have root := after node above self
    have different : above ≠ node := by
      rintro rfl
      rw [self] at root
      cases root
    refine ⟨different, by rwa [Function.update_of_ne different] at root, fun child named => ?_⟩
    by_cases same : child = node
    · subst same
      exact nomatch (shallow child child named).symm.trans named
    · have below := after child node (by rw [Function.update_of_ne same, named])
      rw [self] at below
      cases below
  · intro fits child above named
    by_cases same : child = node
    · subst same
      rw [Function.update_self] at named
      obtain ⟨different, root, -⟩ := fits above named
      rw [Function.update_of_ne different, root]
    · rw [Function.update_of_ne same] at named
      by_cases isNode : above = node
      · subst isNode
        rw [Function.update_self]
        cases parent with
        | none => rfl
        | some higher => exact absurd named ((fits higher rfl).2.2 child)
      · rw [Function.update_of_ne isNode]
        exact shallow child above named

/-- Where a parent has no parent, two steps are enough. -/
theorem seek_isSome [DecidableEq Node] (shallow : Shallow parentOf) (target node : Node) :
    (seek parentOf target 2 node).isSome := by
  unfold seek
  split_ifs
  · rfl
  · cases named : parentOf node with
    | none => rfl
    | some parent =>
      dsimp only
      unfold seek
      split_ifs
      · rfl
      · rw [shallow node parent named]
        rfl

/-- What a search finds is above the node where it began. -/
theorem seek_eq_some [DecidableEq Node] {target : Node} {fuel : Nat} {node : Node} {found : Bool}
    (ended : seek parentOf target fuel node = some found) :
    found = true ↔ Above parentOf node target := by
  induction fuel generalizing node with
  | zero => cases ended
  | succ fuel inductionHypothesis =>
    unfold seek at ended
    by_cases here : node = target
    · rw [if_pos here] at ended
      cases ended
      rw [here]
      exact iff_of_true rfl .refl
    · rw [if_neg here] at ended
      cases named : parentOf node with
      | none =>
        rw [named] at ended
        cases ended
        refine iff_of_false Bool.false_ne_true fun above => ?_
        rcases Relation.ReflTransGen.cases_head above with same | ⟨parent, isParent, -⟩
        · exact here same
        · rw [named] at isParent
          cases isParent
      | some parent =>
        rw [named] at ended
        rw [inductionHypothesis ended]
        refine ⟨fun above => Relation.ReflTransGen.head named above, fun above => ?_⟩
        rcases Relation.ReflTransGen.cases_head above with same | ⟨other, isParent, later⟩
        · exact absurd same here
        · rw [named] at isParent
          cases isParent
          exact later

/-- Where no node is above itself, a search ends after as many steps as there are nodes with a
parent. -/
theorem seek_isSome_of_acyclic [DecidableEq Node] (acyclic : Acyclic parentOf) {children : Finset Node}
    (within : ∀ child parent, parentOf child = some parent → child ∈ children) (target : Node)
    {fuel : Nat} (enough : children.card < fuel) (node : Node) :
    (seek parentOf target fuel node).isSome := by
  -- the nodes that the search has passed are below the one where it stands
  have passing : ∀ (fuel : Nat) (passed : Finset Node) (node : Node),
      (∀ below ∈ passed,
        Relation.TransGen (fun child parent => parentOf child = some parent) below node) →
        (children \ passed).card < fuel → (seek parentOf target fuel node).isSome := by
    intro fuel
    induction fuel with
    | zero => exact fun _ _ _ none => absurd none (Nat.not_lt_zero _)
    | succ fuel inductionHypothesis =>
      intro passed node areBelow left
      unfold seek
      split_ifs
      · rfl
      · cases named : parentOf node with
        | none => rfl
        | some parent =>
          have isLeft : node ∈ children \ passed :=
            Finset.mem_sdiff.mpr ⟨within node parent named, fun again =>
              acyclic node (areBelow node again)⟩
          refine inductionHypothesis (insert node passed) parent (fun below member => ?_) ?_
          · rcases Finset.mem_insert.mp member with rfl | before
            · exact .single named
            · exact (areBelow below before).tail named
          · have fewer := Finset.card_erase_lt_of_mem isLeft
            rw [← Finset.sdiff_insert] at fewer
            omega
  exact passing fuel ∅ node (fun _ member => absurd member (Finset.notMem_empty _))
    (by rwa [Finset.sdiff_empty])

/-- Where a parent has no parent, no node is above itself. -/
theorem Shallow.acyclic (shallow : Shallow parentOf) : Acyclic parentOf := by
  intro node cycle
  obtain ⟨parent, named, above⟩ := Relation.TransGen.head'_iff.mp cycle
  have root := shallow node parent named
  rcases Relation.ReflTransGen.cases_head above with rfl | ⟨other, isParent, -⟩
  · rw [root] at named
    cases named
  · rw [root] at isParent
    cases isParent

/-- What a smaller map of parents names, a larger one does: chains in it are no longer. -/
theorem Shallow.mono {smaller : Node → Option Node} (shallow : Shallow parentOf)
    (within : ∀ child parent, smaller child = some parent → parentOf child = some parent) :
    Shallow smaller := by
  intro child parent named
  cases above : smaller parent with
  | none => rfl
  | some higher =>
    have root := shallow child parent (within child parent named)
    rw [within parent higher above] at root
    cases root

/-- A search never leaves a set of nodes whose parents are in the set, and never ends there
without its target. -/
theorem seek_eq_none [DecidableEq Node] {target : Node} {trap : Node → Prop}
    (missing : ¬trap target)
    (closed : ∀ node, trap node → ∃ parent, parentOf node = some parent ∧ trap parent)
    (fuel : Nat) : ∀ node, trap node → seek parentOf target fuel node = none := by
  induction fuel with
  | zero => exact fun _ _ => rfl
  | succ fuel inductionHypothesis =>
    intro node trapped
    obtain ⟨parent, named, inside⟩ := closed node trapped
    have different : node ≠ target := by
      rintro rfl
      exact missing trapped
    unfold seek
    rw [if_neg different, named]
    exact inductionHypothesis parent inside

end ParentChain
