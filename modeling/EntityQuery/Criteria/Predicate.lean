import EntityQuery.Comparing
import EntityQuery.Criteria.Value
import EntityQuery.ScalarType
import EntityQuery.Mapping.Basic

/-!
# Predicates

A predicate is a tree of comparisons joined by "and" and "or". A comparison
tests one property and is built from an operator and an operand that have to fit
each other.

## Main definitions

- `PredicateError` — why a comparison, a window or a translation is refused
- `Operator`, `Operand` — what a caller asks for
- `Test`, `Comparison` — a test, and the property it is applied to
- `Comparison.make` — build a comparison if the operand fits the operator
- `Predicate` — a tree of comparisons
-/

namespace EntityQuery

/-- Why a comparison, a window or a translation is refused. -/
inductive PredicateError
  | emptyInList (property : String)
  | operandMismatch (property operator expected : String)
  | negativeOffset (offset : Int64)
  | nonPositiveLimit (limit : Int64)
  | unconvertible (property : String) (value : Value) (type : ScalarType) (converter : Converter)
  | patternOnNonText (property : String) (type : ScalarType)
deriving DecidableEq

def PredicateError.message : PredicateError → String
  | .emptyInList property => s!"the set of values compared to '{property}' with 'in' is empty"
  | .operandMismatch property operator expected =>
    s!"operator '{operator}' on '{property}' expects {expected}"
  | .negativeOffset offset => s!"offset must not be negative, got {Int.repr offset.toInt}"
  | .nonPositiveLimit limit => s!"limit must be positive, got {Int.repr limit.toInt}"
  | .unconvertible property value type converter =>
    s!"{value.kindName} value {value.toText} of '{property}' cannot be stored in a {type.name}"
      ++ s!" column using the {converter.name} converter"
  | .patternOnNonText property type =>
    s!"'{property}' is a {type.name} column and cannot be matched with 'like'"

/-- The operators a caller may ask for. -/
inductive Operator
  | compare (op : CompareOp)
  | isIn
  | isNull
  | isNotNull
deriving DecidableEq

namespace Operator

def name : Operator → String
  | .compare .equals => "equals"
  | .compare .notEquals => "notEquals"
  | .compare .greaterThan => "greaterThan"
  | .compare .lessThan => "lessThan"
  | .compare .greaterOrEqual => "greaterOrEqual"
  | .compare .lessOrEqual => "lessOrEqual"
  | .compare .like => "like"
  | .isIn => "in"
  | .isNull => "isNull"
  | .isNotNull => "isNotNull"

def all : List Operator :=
  [.compare .equals, .compare .notEquals, .compare .greaterThan, .compare .lessThan,
   .compare .greaterOrEqual, .compare .lessOrEqual, .compare .like, .isIn, .isNull, .isNotNull]

/-- What an operator expects beside the property. -/
def expectedOperand : Operator → String
  | .compare _ => "a single value"
  | .isIn => "a set of values"
  | .isNull | .isNotNull => "no operand"

end Operator

/-- What a caller compares a property with. -/
inductive Operand
  | nothing
  | value (value : Value)
  | set (values : List Value)

/-- A test on the value of a property. -/
inductive Test
  | compare (op : CompareOp) (value : Value)
  /-- The value is one of these, of which there is at least one. -/
  | isIn (first : Value) (rest : List Value)
  | isNull
  | isNotNull
deriving DecidableEq

/-- A test on one property. -/
structure Comparison where
  property : String
  test : Test
deriving DecidableEq

/-- Build a comparison if the operand fits the operator. -/
def Comparison.make (property : String) (operator : Operator) (operand : Operand) :
    Except PredicateError Comparison :=
  match operator, operand with
  | .compare op, .value v => .ok ⟨property, .compare op v⟩
  | .isIn, .set (first :: rest) => .ok ⟨property, .isIn first rest⟩
  | .isIn, .set [] => .error (.emptyInList property)
  | .isNull, .nothing => .ok ⟨property, .isNull⟩
  | .isNotNull, .nothing => .ok ⟨property, .isNotNull⟩
  | operator, _ => .error (.operandMismatch property operator.name operator.expectedOperand)

/-- A tree of comparisons. -/
inductive Predicate
  | comparison (comparison : Comparison)
  | and (left right : Predicate)
  | or (left right : Predicate)
deriving DecidableEq

/-- The comparisons of a predicate, depth first and left to right. -/
def Predicate.comparisons : Predicate → List Comparison
  | .comparison c => [c]
  | .and l r => l.comparisons ++ r.comparisons
  | .or l r => l.comparisons ++ r.comparisons

/-- Equality of lists of values, floating point values being compared as numbers. -/
def sameValues : List Value → List Value → Bool
  | [], [] => true
  | v :: vs, w :: ws => v.same w && sameValues vs ws
  | _, _ => false

/-- Equality of tests, floating point values being compared as numbers. -/
def Test.same : Test → Test → Bool
  | .compare op v, .compare op' w => op == op' && v.same w
  | .isIn v vs, .isIn w ws => v.same w && sameValues vs ws
  | .isNull, .isNull => true
  | .isNotNull, .isNotNull => true
  | _, _ => false

/-- Equality of predicates as trees, floating point values being compared as numbers. -/
def Predicate.same : Predicate → Predicate → Bool
  | .comparison c, .comparison c' => c.property == c'.property && c.test.same c'.test
  | .and l r, .and l' r' => l.same l' && r.same r'
  | .or l r, .or l' r' => l.same l' && r.same r'
  | _, _ => false

end EntityQuery
