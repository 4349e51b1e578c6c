import EntityQuery.Query.Basic

/-!
# Descriptions of queries

A query can be described in one line, for logs: every record is written by its
name and its fields, every case by its name and its content.

## Main definitions

- `Description.record`, `Description.case`, `Description.list` — the three shapes
- `Query.description` — the description of a query
-/

namespace EntityQuery

namespace Description

/-- Texts separated by commas. -/
def separated (items : List String) : String :=
  String.intercalate ", " items

/-- A record: its name and its fields. -/
def record (name : String) (fields : List (String × String)) : String :=
  name ++ " \x7b " ++ separated (fields.map fun f => f.1 ++ ": " ++ f.2) ++ " \x7d"

/-- A case with content. -/
def case (name : String) (contents : List String) : String :=
  name ++ "(" ++ separated contents ++ ")"

def list (items : List String) : String :=
  "[" ++ separated items ++ "]"

/-- Something that may be absent. -/
def optional : Option String → String
  | none => "None"
  | some s => case "Some" [s]

end Description

open Description

/-- The description of a value. -/
def Value.description : Value → String
  | .bool b => case "Bool" [if b then "true" else "false"]
  | .integer i => case "Integer" [Int.repr i.toInt]
  | .float x => case "Float" [x.toText .described]
  | .decimal s => case "Decimal" [Text.quoted s]
  | .text s => case "Text" [Text.quoted s]
  | .uuid u => case "Uuid" [u.toText]
  | .enum e => case "Enum" [record "EnumValue"
      [("type_name", Text.quoted e.typeName), ("variant", Text.quoted e.variant),
       ("discriminant", Int.repr e.discriminant.toInt)]]

/-- The description of a comparison operator. -/
def CompareOp.description : CompareOp → String
  | .equals => "Equals"
  | .notEquals => "NotEquals"
  | .greaterThan => "GreaterThan"
  | .lessThan => "LessThan"
  | .greaterOrEqual => "GreaterOrEqual"
  | .lessOrEqual => "LessOrEqual"
  | .like => "Like"

/-- The description of a test. -/
def Test.description : Test → String
  | .compare op v => record "Binary" [("operator", op.description), ("value", v.description)]
  | .isIn first rest => case "In" [record "NonEmpty"
      [("head", first.description), ("tail", list (rest.map Value.description))]]
  | .isNull => "IsNull"
  | .isNotNull => "IsNotNull"

/-- The description of a predicate. -/
def Predicate.description : Predicate → String
  | .comparison c => case "Comparison" [record "Comparison"
      [("property", Text.quoted c.property), ("test", c.test.description)]]
  | .and l r => case "And" [l.description, r.description]
  | .or l r => case "Or" [l.description, r.description]

/-- The description of a direction. -/
def Direction.description : Direction → String
  | .ascending => "Ascending"
  | .descending => "Descending"

/-- The description of a sort key. -/
def SortKey.description (k : SortKey) : String :=
  record "SortKey" [("property", Text.quoted k.property), ("direction", k.direction.description)]

/-- The description of a window. -/
def Window.description (w : Window) : String :=
  record "Window" [("offset", Nat.repr w.offset), ("limit", Nat.repr w.limit)]

/-- The description of criteria. -/
def Criteria.description (c : Criteria) : String :=
  record "QueryExpression"
    [("predicate", optional (c.predicate.map Predicate.description)),
     ("order_by", list (c.sortKeys.map SortKey.description)),
     ("window", optional (c.window.map Window.description))]

/-- The description of a query. -/
def Query.description (q : Query) : String :=
  record "Query"
    [("entity", Text.quoted q.entity), ("dialect", Text.quoted q.dialect.name),
     ("expression", q.criteria.description)]

end EntityQuery
