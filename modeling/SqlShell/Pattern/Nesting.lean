import SqlShell.Pattern.Fault

/-!
# Nesting in patterns

Groups, classes, repetitions, alternatives and sequences hold other parts of a pattern, and they may
stand inside one another only so deep.

* `Nest` is what counts of the parts of a pattern: where each stands, and which parts it holds;
* `Nest.excess?` is the first part that stands too deep;
* `excess?_eq_none_iff` says that there is none exactly when the depth keeps to the limit.
-/

namespace SqlShell.Pattern

/-! ## Parts and the parts in them -/

/-- A part of a pattern. -/
inductive Nest where
  /-- A part that holds no other. -/
  | leaf (span : Span)
  | inner (span : Span) (parts : List Nest)
  deriving Repr

namespace Nest

/-- Where a part stands. -/
def span : Nest → Span
  | leaf span | inner span _ => span

/-- Parts in a row. A part by itself is no row, and nothing at all holds no other part. -/
def ofList (span : Span) : List Nest → Nest
  | [] => leaf span
  | [part] => part
  | parts => inner span parts

/-! ## Depth -/

mutual

/-- How deep parts stand inside one another, leaves aside. -/
def depth : Nest → Nat
  | leaf _ => 0
  | inner _ parts => depthAll parts + 1

/-- The greatest depth among parts in a row. -/
def depthAll : List Nest → Nat
  | [] => 0
  | part :: parts => max part.depth (depthAll parts)

end

mutual

/-- The first part, from the front, that stands deeper than a limit. -/
def excess? : Nest → Nat → Option Span
  | leaf _, _ => none
  | inner span _, 0 => some span
  | inner _ parts, limit + 1 => firstExcess? parts limit

/-- The first part among parts in a row, and the parts in them, that stands deeper than a limit. -/
def firstExcess? : List Nest → Nat → Option Span
  | [], _ => none
  | part :: parts, limit => (part.excess? limit).or (firstExcess? parts limit)

end

mutual

theorem excess?_eq_none_iff (nest : Nest) (limit : Nat) :
    nest.excess? limit = none ↔ nest.depth ≤ limit := by
  cases nest with
  | leaf span => simp [excess?, depth]
  | inner span parts =>
    cases limit with
    | zero => simp [excess?, depth]
    | succ limit => simp [excess?, depth, firstExcess?_eq_none_iff parts limit]

theorem firstExcess?_eq_none_iff (parts : List Nest) (limit : Nat) :
    firstExcess? parts limit = none ↔ depthAll parts ≤ limit := by
  cases parts with
  | nil => simp [firstExcess?, depthAll]
  | cons part parts =>
    rw [firstExcess?, Option.or_eq_none_iff, excess?_eq_none_iff part limit,
      firstExcess?_eq_none_iff parts limit, depthAll, Nat.max_le]

end

end Nest

end SqlShell.Pattern
