import Mathlib.Data.List.Basic
import SchemaKeeper.Filter.Rendering
import SchemaKeeper.Proofs.Results

/-!
Contract: a filter is accepted just when every node of its tree is in order.

The check goes through a tree from the root down, and through the members of a group from the
first to the last. Listed in that order, the nodes are checked one after the other, and each
without regard to the rest, so the first one that is not in order says why a filter is refused.

A condition cannot be written where a BETWEEN has fewer than two bounds. Nothing in the writer
looks for that; a tree whose nodes are in order has no such BETWEEN.

Owns: the nodes of a tree, which of them are in order, the check as a walk along them, and when
a condition can be written.

Does not own: what the condition says (`FilterReading`).
-/

namespace SchemaKeeper.Filter

variable {table : Table}

/-! ## Nodes -/

@[elab_as_elim, induction_eliminator]
theorem induction {motive : Filter → Prop}
    (predicate : ∀ field operator operand, motive (.predicate field operator operand))
    (group : ∀ combinator members, (∀ member ∈ members, motive member) →
      motive (.group combinator members)) : ∀ filter, motive filter
  | .predicate field operator operand => predicate field operator operand
  | .group combinator members =>
      group combinator members fun member _ => induction predicate group member

mutual

/-- The nodes of a tree in reading order, a group in front of its members. -/
def nodes : Filter → List Filter
  | .predicate field operator operand => [.predicate field operator operand]
  | .group combinator members => .group combinator members :: memberNodes members

def memberNodes : List Filter → List Filter
  | [] => []
  | member :: rest => nodes member ++ memberNodes rest

end

theorem mem_memberNodes_iff {members : List Filter} {node : Filter} :
    node ∈ memberNodes members ↔ ∃ member ∈ members, node ∈ member.nodes := by
  induction members with
  | nil => simp [memberNodes]
  | cons member rest inductionHypothesis =>
      rw [memberNodes, List.mem_append, inductionHypothesis]
      simp only [List.mem_cons, or_and_right, exists_or, exists_eq_left]

/-- An operand fits an operator: a choice is a list with an item, bounds are a list of two, and
anything else is compared with no list. The field takes every value in it. -/
inductive Fits (table : Table) (field : String) : Operator → Value → Prop where
  | choice {items : List Value} (nonempty : items ≠ [])
      (accepted : ∀ item ∈ items, table.checkValue field item = .ok ()) :
      Fits table field .oneOf (.list items)
  | bounds {low high : Value} (lowAccepted : table.checkValue field low = .ok ())
      (highAccepted : table.checkValue field high = .ok ()) :
      Fits table field .between (.list [low, high])
  | single {operator : Operator} {operand : Value} (notChoice : operator ≠ .oneOf)
      (notBounds : operator ≠ .between) (scalar : operand.isList = false)
      (accepted : table.checkValue field operand = .ok ()) : Fits table field operator operand

/-- A node is in order, whatever the nodes below it are. -/
inductive Sound (table : Table) : Filter → Prop where
  | predicate {field : String} {operator : Operator} {operand : Value}
      (known : table.hasField field = true) (fits : Fits table field operator operand) :
      Sound table (.predicate field operator operand)
  | group {combinator : Combinator} {members : List Filter} (nonempty : members ≠ []) :
      Sound table (.group combinator members)

/-! ## Checking one node -/

/-- No field takes a list. -/
theorem isList_of_checkValue {field : String} {value : Value}
    (accepted : table.checkValue field value = .ok ()) : value.isList = false := by
  cases value with
  | list items =>
      unfold Table.checkValue at accepted
      split at accepted <;> contradiction
  | _ => rfl

theorem checkOperands_eq_ok_iff {field : String} {values : List Value} :
    checkOperands table field values = .ok () ↔
      ∀ value ∈ values, table.checkValue field value = .ok () := by
  induction values with
  | nil => simp [checkOperands]
  | cons value rest inductionHypothesis =>
      rw [checkOperands, bind_eq_ok_iff, List.forall_mem_cons, ← inductionHypothesis]
      simp only [mapError_eq_ok_iff]
      exact ⟨fun ⟨_, first, others⟩ => ⟨first, others⟩, fun ⟨first, others⟩ => ⟨(), first, others⟩⟩

/-- A predicate is accepted if it is about a field of the table and its operand fits. -/
theorem checkPredicate_eq_ok_iff {field : String} {operator : Operator} {operand : Value} :
    checkPredicate table field operator operand = .ok () ↔
      table.hasField field = true ∧ Fits table field operator operand := by
  unfold checkPredicate
  by_cases known : table.hasField field = true
  · rw [known, and_iff_right rfl]
    constructor
    · intro checked
      rw [if_neg (by simp)] at checked
      split at checked
      next item items => exact .choice (by simp) (checkOperands_eq_ok_iff.1 checked)
      next => contradiction
      next low high =>
        have accepted := checkOperands_eq_ok_iff.1 checked
        exact .bounds (accepted low (by simp)) (accepted high (by simp))
      next => contradiction
      next => contradiction
      next notChoice notBounds notList _ _ =>
        have scalar : operand.isList = false := by
          cases operand with
          | list items => exact absurd rfl (notList items)
          | _ => rfl
        exact .single notChoice notBounds scalar (checkOperands_eq_ok_iff.1 checked operand (by simp))
    · intro fits
      rw [if_neg (by simp)]
      cases fits with
      | @choice items nonempty accepted =>
          obtain ⟨item, rest, rfl⟩ := List.exists_cons_of_ne_nil nonempty
          exact checkOperands_eq_ok_iff.2 accepted
      | bounds lowAccepted highAccepted =>
          exact checkOperands_eq_ok_iff.2 (by simp [lowAccepted, highAccepted])
      | single notChoice notBounds scalar accepted =>
          have alone : checkOperands table field [operand] = .ok () :=
            checkOperands_eq_ok_iff.2 (by simpa using accepted)
          cases operator <;> cases operand <;>
            first | contradiction | exact alone
  · simp [known]

/-- Checks a node without the nodes below it. -/
def checkNode (table : Table) : Filter → Except Error Unit
  | .predicate field operator operand => checkPredicate table field operator operand
  | .group combinator [] => .error (.filter (.emptyGroup combinator))
  | .group _ (_ :: _) => .ok ()

theorem checkNode_eq_ok_iff {node : Filter} : checkNode table node = .ok () ↔ node.Sound table := by
  cases node with
  | predicate field operator operand =>
      rw [checkNode, checkPredicate_eq_ok_iff]
      constructor
      · rintro ⟨known, fits⟩
        exact .predicate known fits
      · intro sound
        cases sound with
        | predicate known fits => exact ⟨known, fits⟩
  | group combinator members =>
      cases members with
      | nil =>
          refine iff_of_false (by simp [checkNode]) ?_
          intro sound
          cases sound with
          | group nonempty => exact nonempty rfl
      | cons member rest => exact iff_of_true rfl (.group (by simp))

/-- A node that is not in order has no nodes below it. -/
theorem check_eq_checkNode {node : Filter} (unsound : ¬ node.Sound table) :
    check table node = checkNode table node := by
  cases node with
  | predicate field operator operand => rw [check, checkNode]
  | group combinator members =>
      cases members with
      | nil => rw [check, checkNode]
      | cons member rest => exact absurd (.group (by simp)) unsound

/-! ## Checking a tree -/

theorem checkMembers_eq_ok_iff {members : List Filter} :
    checkMembers table members = .ok () ↔ ∀ member ∈ members, check table member = .ok () := by
  induction members with
  | nil => simp [checkMembers]
  | cons member rest inductionHypothesis =>
      rw [checkMembers, bind_eq_ok_iff, List.forall_mem_cons]
      exact ⟨fun ⟨_, first, others⟩ => ⟨first, inductionHypothesis.1 others⟩,
        fun ⟨first, others⟩ => ⟨(), first, inductionHypothesis.2 others⟩⟩

theorem check_group {combinator : Combinator} {members : List Filter} (nonempty : members ≠ []) :
    check table (.group combinator members) = checkMembers table members := by
  cases members with
  | nil => contradiction
  | cons member rest => rw [check]

private theorem checkMembers_eq_forM {members : List Filter}
    (each : ∀ member ∈ members, check table member = forM member.nodes (checkNode table)) :
    checkMembers table members = forM (memberNodes members) (checkNode table) := by
  induction members with
  | nil => rfl
  | cons member rest inductionHypothesis =>
      obtain ⟨first, others⟩ := List.forall_mem_cons.1 each
      rw [checkMembers, memberNodes, List.forM_append, first, inductionHypothesis others]

/-- The check of a tree is a walk along its nodes. -/
theorem check_eq_forM (filter : Filter) :
    check table filter = forM filter.nodes (checkNode table) := by
  induction filter with
  | predicate field operator operand =>
      rw [check, nodes, List.forM_cons, List.forM_nil, checkNode]
      cases checkPredicate table field operator operand <;> rfl
  | group combinator members inductionHypothesis =>
      have walk := checkMembers_eq_forM inductionHypothesis
      rw [nodes, List.forM_cons, ← walk]
      cases members with
      | nil => rw [check, checkNode]; rfl
      | cons member rest => rw [check, checkNode]; rfl

theorem check_eq_ok_iff {filter : Filter} :
    check table filter = .ok () ↔ ∀ node ∈ filter.nodes, node.Sound table := by
  rw [check_eq_forM, forM_eq_ok_iff]
  simp only [checkNode_eq_ok_iff]

theorem check_eq_error_iff {filter : Filter} {cause : Error} :
    check table filter = .error cause ↔
      ∃ node, FirstWith (fun other => ¬ other.Sound table) filter.nodes node ∧
        check table node = .error cause := by
  rw [check_eq_forM, forM_eq_error_iff]
  simp only [ne_eq, checkNode_eq_ok_iff]
  constructor
  · rintro ⟨node, first, failed⟩
    obtain ⟨_, _, _, unsound, _⟩ := id first
    exact ⟨node, first, (check_eq_checkNode unsound).trans failed⟩
  · rintro ⟨node, first, failed⟩
    obtain ⟨_, _, _, unsound, _⟩ := id first
    exact ⟨node, first, (check_eq_checkNode unsound).symm.trans failed⟩

/-! ## Writing a tree -/

/-- Rendering succeeds for accepted filters and gives their condition. -/
theorem render_eq_ok_iff {filter : Filter} {sql : Sql} :
    filter.render table = .ok sql ↔ check table filter = .ok () ∧ toSql? filter = some sql := by
  unfold render
  constructor
  · intro rendered
    split at rendered
    · contradiction
    next checked =>
      cases rendered
      exact ⟨checked, (Option.some_get _).symm⟩
  · rintro ⟨accepted, written⟩
    split
    next refused =>
      rw [accepted] at refused
      contradiction
    next => simp [written]

/-- Rendering fails for refused filters and gives the reason. -/
theorem render_eq_error_iff {filter : Filter} {cause : Error} :
    filter.render table = .error cause ↔ check table filter = .error cause := by
  unfold render
  constructor
  · intro failed
    split at failed
    next refused =>
      cases failed
      exact refused
    · contradiction
  · intro refused
    split
    next other =>
      rw [refused] at other
      cases other
      rfl
    next accepted =>
      rw [refused] at accepted
      contradiction

theorem exists_render_iff {filter : Filter} :
    (∃ sql, filter.render table = .ok sql) ↔ check table filter = .ok () := by
  simp only [render_eq_ok_iff]
  constructor
  · rintro ⟨_, accepted, _⟩
    exact accepted
  · intro accepted
    obtain ⟨sql, written⟩ := Option.isSome_iff_exists.1 (isSome_toSql?_of_check filter accepted)
    exact ⟨sql, accepted, written⟩

private theorem predicateSql?_eq_none_iff {field : String} {operator : Operator}
    {operand : Value} :
    predicateSql? field operator operand = none ↔
      operator = .between ∧ ∃ items, operand = .list items ∧ items.length < 2 := by
  constructor
  · intro unwritten
    unfold predicateSql? at unwritten
    split at unwritten <;> try contradiction
    next items unpaired =>
      refine ⟨rfl, items, rfl, ?_⟩
      match items, unpaired with
      | [], _ => simp
      | [low], _ => simp
      | low :: high :: rest, unpaired => exact absurd rfl (unpaired low high rest)
  · rintro ⟨rfl, items, rfl, short⟩
    match items, short with
    | [], _ => rfl
    | [low], _ => rfl

private theorem membersToSql?_eq_none_iff {members : List Filter} :
    membersToSql? members = none ↔ ∃ member ∈ members, toSql? member = none := by
  induction members with
  | nil => simp [membersToSql?]
  | cons member rest inductionHypothesis =>
      rw [membersToSql?]
      cases written : toSql? member with
      | none => simp [written]
      | some part =>
          cases restWritten : membersToSql? rest with
          | none => simp [written, ← inductionHypothesis, restWritten]
          | some parts => simp [written, ← inductionHypothesis, restWritten]

/-- Only a BETWEEN without its two bounds keeps a condition from being written. -/
theorem toSql?_eq_none_iff {filter : Filter} :
    toSql? filter = none ↔ ∃ field items,
      .predicate field .between (.list items) ∈ filter.nodes ∧ items.length < 2 := by
  induction filter with
  | predicate field operator operand =>
      rw [toSql?, predicateSql?_eq_none_iff, nodes]
      simp only [List.mem_singleton, predicate.injEq]
      constructor
      · rintro ⟨rfl, items, rfl, short⟩
        exact ⟨field, items, ⟨rfl, rfl, rfl⟩, short⟩
      · rintro ⟨_, items, ⟨rfl, rfl, rfl⟩, short⟩
        exact ⟨rfl, items, rfl, short⟩
  | group combinator members inductionHypothesis =>
      rw [toSql?, Option.map_eq_none_iff, membersToSql?_eq_none_iff, nodes]
      simp only [List.mem_cons, reduceCtorEq, false_or, mem_memberNodes_iff]
      constructor
      · rintro ⟨member, listed, unwritten⟩
        obtain ⟨field, items, inside, short⟩ := (inductionHypothesis member listed).1 unwritten
        exact ⟨field, items, ⟨member, listed, inside⟩, short⟩
      · rintro ⟨field, items, ⟨member, listed, inside⟩, short⟩
        exact ⟨member, listed, (inductionHypothesis member listed).2 ⟨field, items, inside, short⟩⟩

/-- A table accepts a filter if each node of it is in order, and otherwise refuses it for the
first node in reading order that is not, as it refuses that node alone. Rendering agrees with the
check. It has nothing to write where a BETWEEN lacks a bound, and never comes to such a place. -/
theorem accepted_node_by_node (table : Table) (filter : Filter) :
    (filter.check table = .ok () ↔ ∀ node ∈ filter.nodes, node.Sound table) ∧
    (∀ cause, filter.check table = .error cause ↔
      ∃ node, FirstWith (fun other => ¬ other.Sound table) filter.nodes node ∧
        node.check table = .error cause) ∧
    ((∃ sql, filter.render table = .ok sql) ↔ filter.check table = .ok ()) ∧
    (∀ cause, filter.render table = .error cause ↔ filter.check table = .error cause) ∧
    (filter.toSql? = none ↔ ∃ field items,
      .predicate field .between (.list items) ∈ filter.nodes ∧ items.length < 2) ∧
    (filter.check table = .ok () → ∃ sql, filter.toSql? = some sql) := by
  refine ⟨check_eq_ok_iff, fun _ => check_eq_error_iff, exists_render_iff,
    fun _ => render_eq_error_iff, toSql?_eq_none_iff, ?_⟩
  intro accepted
  obtain ⟨sql, rendered⟩ := exists_render_iff.2 accepted
  exact ⟨sql, (render_eq_ok_iff.1 rendered).2⟩

def parcels : Table where
  name := "parcels"
  fields := [
    ("weight", { kind := .unsignedInt, maxSize := some (.ofInt 1000) }),
    ("label", { kind := .string, maxSize := some (.ofInt 20), nullable := true })]
  accepted := by decide +kernel

/-- Parcels that are heavy, or light and without a label. -/
def conspicuous : Filter :=
  .group .or [
    .between "weight" (.int 500) (.int 1000),
    .group .and [.isNull "label", .oneOf "weight" [.int 1, .int 2]]]

/-- A group without members, and behind it a BETWEEN with one bound. -/
def unfinished : Filter :=
  .group .or [
    .between "weight" (.int 500) (.int 1000),
    .group .and [],
    .predicate "weight" .between (.list [.int 1])]

/-- The first of these filters is accepted and can be written. The second cannot be written, and
is refused for its empty group, not for the BETWEEN. -/
theorem parcels_filtered :
    conspicuous.check parcels = .ok () ∧ (∃ sql, conspicuous.toSql? = some sql) ∧
    unfinished.toSql? = none ∧
    ∃ node, FirstWith (fun other => ¬ other.Sound parcels) unfinished.nodes node ∧
      node.check parcels = .error (.filter (.emptyGroup .and)) := by
  have accepted : conspicuous.check parcels = .ok () := by decide +kernel
  have refused : unfinished.check parcels = .error (.filter (.emptyGroup .and)) := by
    decide +kernel
  have short : .predicate "weight" .between (.list [.int 1]) ∈ unfinished.nodes := by
    simp [unfinished, nodes, memberNodes]
  obtain ⟨_, _, _, _, _, written⟩ := accepted_node_by_node parcels conspicuous
  obtain ⟨_, first, _, _, unwritten, _⟩ := accepted_node_by_node parcels unfinished
  exact ⟨accepted, written accepted, unwritten.2 ⟨"weight", _, short, by simp⟩,
    (first _).1 refused⟩

end SchemaKeeper.Filter
