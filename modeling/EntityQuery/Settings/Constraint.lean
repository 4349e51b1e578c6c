import EntityQuery.Json.Basic

/-!
# Constraints on settings

Settings are checked against a constraint before they are stored and before they
are used. The check finds every violation, in a fixed order: first those of the
members that are there, as the constraint lists them, then the missing members.

## Main definitions

- `Constraint` — what is asked of a JSON value
- `Violation` — where and how a value violates a constraint
- `Constraint.violations` — every violation
-/

namespace EntityQuery

/-- What is asked of a JSON value. -/
inductive Constraint
  | anything
  /-- A number that is at least this integer. -/
  | number (minimum : Int)
  /-- A text of exactly this many characters. -/
  | text (length : Nat)
  /-- An object. Members that are listed here are constrained if they are there. -/
  | record (members : List (String × Constraint)) (required : List String)

/-- How a value violates a constraint. -/
inductive Problem
  | notOfType (value : Json) (typeName : String)
  | belowMinimum (value : Json) (minimum : Int)
  | longerThan (value : Json) (length : Nat)
  | shorterThan (value : Json) (length : Nat)
  | missingMember (key : String)

/-- The words for a problem. -/
def Problem.message : Problem → String
  | .notOfType value typeName => value.compact ++ " is not of type \"" ++ typeName ++ "\""
  | .belowMinimum value minimum =>
    value.compact ++ " is less than the minimum of " ++ (Double.ofInt minimum).toText .json
  | .longerThan value length =>
    value.compact ++ " is longer than " ++ Nat.repr length ++ " characters"
  | .shorterThan value length =>
    value.compact ++ " is shorter than " ++ Nat.repr length ++ " characters"
  | .missingMember key => (Json.string key).compact ++ " is a required property"

/-- Where and how a value violates a constraint. -/
structure Violation where
  /-- The keys that lead to the value, the outermost first. -/
  path : List String
  /-- How it violates the constraint. -/
  problem : Problem

/-- The words for a violation: the path, every key after a slash, and the problem. -/
def Violation.message (v : Violation) : String :=
  String.join (v.path.map ("/" ++ ·)) ++ ": " ++ v.problem.message

/-- Is a number less than an integer? -/
def Json.Number.isBelow (bound : Int) : Json.Number → Bool
  | .integer i => i < bound
  | .float x =>
    let numerator : Int := if x.isNegative then -x.numerator else x.numerator
    numerator < bound * x.denominator

namespace Constraint

mutual

/-- Every violation of a constraint by the value at a path. -/
def violationsAt (path : List String) : Constraint → Json → List Violation
  | .anything, _ => []
  | .number minimum, .number n =>
    if n.isBelow minimum then [⟨path, .belowMinimum (.number n) minimum⟩] else []
  | .number _, j => [⟨path, .notOfType j "number"⟩]
  | .text length, .string s =>
    if length < s.length then [⟨path, .longerThan (.string s) length⟩]
    else if s.length < length then [⟨path, .shorterThan (.string s) length⟩]
    else []
  | .text _, j => [⟨path, .notOfType j "string"⟩]
  | .record members required, .object present =>
    memberViolationsAt path present members
      ++ (required.filter fun key => (Entries.find? key present).isNone).map fun key =>
        ⟨path, .missingMember key⟩
  | .record _ _, j => [⟨path, .notOfType j "object"⟩]

/-- The violations by the members that are there. -/
def memberViolationsAt (path : List String) (present : List (String × Json)) :
    List (String × Constraint) → List Violation
  | [] => []
  | (key, constraint) :: rest =>
    (match Entries.find? key present with
      | some j => violationsAt (path ++ [key]) constraint j
      | none => []) ++ memberViolationsAt path present rest

end

/-- Every violation of a constraint by a value. -/
def violations (constraint : Constraint) (value : Json) : List Violation :=
  constraint.violationsAt [] value

end Constraint

end EntityQuery
