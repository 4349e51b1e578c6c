import EntityQuery.Dialect.Basic

/-!
# Reserved words

Each engine reserves some words, so that a name spelled like one of them has to
be quoted. The lists are in uppercase; names are compared without regard to the
case of ASCII letters.

## Main definitions

- `Dialect.reservedWords` — the words an engine reserves
- `Dialect.isReserved` — is a name one of them, in any case
- `Dialect.escape` — a name, quoted only if it is reserved
-/

namespace EntityQuery.Dialect

/-- The words reserved by PostgreSQL. -/
def postgresqlWords : List String :=
  ["ALL", "ANALYSE", "ANALYZE", "AND", "ANY", "ARRAY", "AS", "ASC", "ASYMMETRIC", "BOTH",
   "CASE", "CAST", "CHECK", "COLLATE", "COLUMN", "CONSTRAINT", "CREATE", "CURRENT_DATE",
   "CURRENT_TIME", "CURRENT_USER", "DEFAULT", "DEFERRABLE", "DESC", "DISTINCT", "DO", "ELSE",
   "END", "EXCEPT", "FALSE", "FETCH", "FOR", "FOREIGN", "FROM", "GRANT", "GROUP", "HAVING",
   "IN", "INITIALLY", "INTERSECT", "INTO", "LATERAL", "LEADING", "LIMIT", "LOCALTIME", "NOT",
   "NULL", "OFFSET", "ON", "ONLY", "OR", "ORDER", "PLACING", "PRIMARY", "REFERENCES",
   "RETURNING", "SELECT", "SESSION_USER", "SOME", "SYMMETRIC", "TABLE", "THEN", "TO",
   "TRAILING", "TRUE", "UNION", "UNIQUE", "USER", "USING", "VARIADIC", "WHEN", "WHERE",
   "WINDOW", "WITH"]

/-- The words reserved by SQL Server. -/
def sqlserverWords : List String :=
  ["ADD", "ALL", "ALTER", "AND", "ANY", "AS", "ASC", "BACKUP", "BEGIN", "BETWEEN", "BREAK",
   "BROWSE", "BULK", "BY", "CASCADE", "CASE", "CHECK", "CLOSE", "CLUSTERED", "COLUMN",
   "COMMIT", "CONSTRAINT", "CONTAINS", "CONTINUE", "CREATE", "CROSS", "CURRENT", "CURSOR",
   "DATABASE", "DEFAULT", "DELETE", "DENY", "DESC", "DISTINCT", "DROP", "ELSE", "END", "EXEC",
   "EXISTS", "FETCH", "FILE", "FOR", "FOREIGN", "FROM", "FULL", "FUNCTION", "GRANT", "GROUP",
   "HAVING", "IDENTITY", "IF", "IN", "INDEX", "INNER", "INSERT", "INTO", "IS", "JOIN", "KEY",
   "LEFT", "LIKE", "NOT", "NULL", "OF", "OFF", "OFFSETS", "ON", "OPEN", "OR", "ORDER", "OUTER",
   "PERCENT", "PLAN", "PRIMARY", "PROCEDURE", "PUBLIC", "READ", "REFERENCES", "RIGHT", "RULE",
   "SCHEMA", "SELECT", "SET", "TABLE", "THEN", "TO", "TOP", "TRAN", "TRANSACTION", "UNION",
   "UNIQUE", "UPDATE", "USE", "USER", "VALUES", "VIEW", "WHEN", "WHERE", "WHILE", "WITH"]

/-- The words reserved by MySQL. -/
def mysqlWords : List String :=
  ["ADD", "ALL", "ALTER", "AND", "AS", "ASC", "BETWEEN", "BY", "CASE", "CHECK", "COLUMN",
   "CONDITION", "CONSTRAINT", "CREATE", "CROSS", "DATABASE", "DEFAULT", "DELETE", "DESC",
   "DESCRIBE", "DISTINCT", "DIV", "DROP", "ELSE", "EXISTS", "FALSE", "FOR", "FOREIGN", "FROM",
   "GRANT", "GROUP", "HAVING", "IF", "IN", "INDEX", "INNER", "INSERT", "INTERVAL", "INTO",
   "IS", "JOIN", "KEY", "KEYS", "LEFT", "LIKE", "LIMIT", "MATCH", "NOT", "NULL", "ON", "OR",
   "ORDER", "OUTER", "PRIMARY", "RANGE", "READ", "REFERENCES", "REGEXP", "RIGHT", "SCHEMA",
   "SELECT", "SET", "SHOW", "TABLE", "THEN", "TO", "TRUE", "UNION", "UNIQUE", "UPDATE", "USE",
   "USING", "VALUES", "WHEN", "WHERE", "WITH", "WRITE"]

/-- The words reserved by SQLite. -/
def sqliteWords : List String :=
  ["ALL", "AND", "ANY", "AS", "ASC", "BETWEEN", "BY", "CASE", "CHECK", "COLUMN", "CONSTRAINT",
   "CREATE", "CROSS", "CURRENT", "DEFAULT", "DELETE", "DESC", "DISTINCT", "DROP", "ELSE",
   "END", "EXISTS", "FALSE", "FOR", "FOREIGN", "FROM", "FULL", "GRANT", "GROUP", "HAVING",
   "IN", "INNER", "INSERT", "INTO", "IS", "JOIN", "LEFT", "LIKE", "NOT", "NULL", "ON", "OR",
   "ORDER", "OUTER", "PRIMARY", "REFERENCES", "RIGHT", "SELECT", "SET", "TABLE", "THEN", "TO",
   "TRUE", "UNION", "UNIQUE", "UPDATE", "USER", "USING", "VALUES", "WHEN", "WHERE", "WITH"]

/-- The words an engine reserves, in uppercase. -/
def reservedWords : Dialect → List String
  | .postgresql => postgresqlWords
  | .sqlserver => sqlserverWords
  | .mysql => mysqlWords
  | .sqlite => sqliteWords

/-- Is this name reserved, in any case of its ASCII letters? -/
def isReserved (d : Dialect) (name : String) : Bool :=
  d.reservedWords.any fun word => word.toList == name.toList.map Char.toUpper

/-- A name, quoted only if it is reserved. -/
def escape (d : Dialect) (name : String) : String :=
  if d.isReserved name then d.quote name else name

end EntityQuery.Dialect
