/-!
# Dialects

The four database engines that statements are written for. They differ in how a
name is quoted, how a parameter is marked, and how a window of rows is asked for.

## Main definitions

- `Dialect` — the engines
- `Dialect.quote` — a name between the quotes of the engine
- `Dialect.marker` — the marker of a parameter
- `Window` — a number of rows to skip and a greatest number of rows to return
- `Dialect.paging` — the clause that selects a window

## Design notes

A closing quote inside a name is doubled, so a name can never end its quoted
form early. SQL Server accepts a window only after an ordering; an unordered
statement is ordered by nothing in particular.
-/

namespace EntityQuery

/-- The supported database engines. -/
inductive Dialect
  | postgresql
  | sqlserver
  | mysql
  | sqlite
deriving DecidableEq, Inhabited

/-- A window of rows. -/
structure Window where
  /-- The number of rows to skip. -/
  offset : Nat
  /-- The greatest number of rows to return. -/
  limit : Nat
deriving DecidableEq

namespace Dialect

def all : List Dialect :=
  [.postgresql, .sqlserver, .mysql, .sqlite]

def name : Dialect → String
  | .postgresql => "postgresql"
  | .sqlserver => "sqlserver"
  | .mysql => "mysql"
  | .sqlite => "sqlite"

/-- The character before a quoted name. -/
def openQuote : Dialect → Char
  | .postgresql => '"'
  | .sqlserver => '['
  | .mysql => '\x60'
  | .sqlite => '"'

/-- The character after a quoted name. -/
def closeQuote : Dialect → Char
  | .postgresql => '"'
  | .sqlserver => ']'
  | .mysql => '\x60'
  | .sqlite => '"'

/-- A name with every closing quote doubled. -/
def doubled (close : Char) : List Char → List Char
  | [] => []
  | c :: rest => if c = close then close :: close :: doubled close rest else c :: doubled close rest

/-- A name between the quotes of the engine, as characters. -/
def quoteChars (d : Dialect) (name : List Char) : List Char :=
  d.openQuote :: doubled d.closeQuote name ++ [d.closeQuote]

/-- A name between the quotes of the engine. -/
def quote (d : Dialect) (name : String) : String :=
  String.ofList (d.quoteChars name.toList)

/-- The marker of the parameter at an index, counted from zero. -/
def marker (d : Dialect) (index : Nat) : String :=
  match d with
  | .postgresql => "$" ++ Nat.repr (index + 1)
  | .sqlserver => "@p" ++ Nat.repr index
  | .mysql => "?"
  | .sqlite => "?"

/-- The clause that selects a window, given whether the statement is ordered. -/
def paging (d : Dialect) (window : Window) (ordered : Bool) : String :=
  match d with
  | .postgresql | .sqlite =>
    " LIMIT " ++ Nat.repr window.limit ++ " OFFSET " ++ Nat.repr window.offset
  | .mysql => " LIMIT " ++ Nat.repr window.offset ++ ", " ++ Nat.repr window.limit
  | .sqlserver =>
    (if ordered then "" else " ORDER BY (SELECT NULL)") ++ " OFFSET " ++ Nat.repr window.offset
      ++ " ROWS FETCH NEXT " ++ Nat.repr window.limit ++ " ROWS ONLY"

end Dialect

end EntityQuery
