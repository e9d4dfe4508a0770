import QueryCanvas.Text.Letter

/-!
# Dialects

The four dialects a statement can be written in: how each quotes names, which words it reserves, and
which names may stand without quotes.
-/

namespace QueryCanvas.Sql

/-- The dialect of a statement. -/
inductive Dialect where
  | ansi | mysql | postgresql | sqlite
  deriving DecidableEq, Repr

/-- The words that the standard dialect reserves. -/
def ansiReserved : List String :=
  ["all", "analyse", "analyze", "and", "any", "array", "as", "asc", "asymmetric", "authorization", "between",
   "binary", "both", "case", "cast", "check", "collate", "column", "constraint", "create", "cross",
   "current_date", "current_role", "current_time", "current_timestamp", "current_user", "default",
   "deferrable", "desc", "distinct", "do", "else", "end", "except", "false", "for", "foreign", "freeze",
   "from", "full", "grant", "group", "having", "ilike", "in", "initially", "inner", "intersect", "into", "is",
   "isnull", "join", "leading", "left", "like", "limit", "localtime", "localtimestamp", "natural", "new",
   "not", "notnull", "null", "off", "offset", "old", "on", "only", "or", "order", "outer", "overlaps",
   "placing", "primary", "references", "right", "select", "session_user", "set", "similar", "some",
   "symmetric", "table", "then", "to", "trailing", "true", "union", "unique", "user", "using", "verbose",
   "when", "where"]

/-- The words that the MySQL dialect reserves. -/
def mysqlReserved : List String :=
  ["accessible", "add", "admin", "all", "alter", "analyze", "and", "array", "as", "asc", "asensitive",
   "before", "between", "bigint", "binary", "blob", "both", "by", "call", "cascade", "case", "change", "char",
   "character", "check", "collate", "column", "condition", "constraint", "continue", "convert", "create",
   "cross", "cube", "cume_dist", "current_date", "current_time", "current_timestamp", "current_user",
   "cursor", "database", "databases", "day_hour", "day_microsecond", "day_minute", "day_second", "dec",
   "decimal", "declare", "default", "delayed", "delete", "dense_rank", "desc", "describe", "deterministic",
   "distinct", "distinctrow", "div", "double", "drop", "dual", "each", "else", "elseif", "empty", "enclosed",
   "escaped", "except", "exists", "exit", "explain", "false", "fetch", "first_value", "float", "float4",
   "float8", "for", "force", "foreign", "from", "fulltext", "function", "general", "generated", "get",
   "get_master_public_key", "grant", "group", "grouping", "groups", "having", "high_priority",
   "hour_microsecond", "hour_minute", "hour_second", "if", "ignore", "ignore_server_ids", "in", "index",
   "infile", "inner", "inout", "insensitive", "insert", "int", "int1", "int2", "int3", "int4", "int8",
   "integer", "intersect", "interval", "into", "io_after_gtids", "io_before_gtids", "is", "iterate", "join",
   "json_table", "key", "keys", "kill", "lag", "last_value", "lateral", "lead", "leading", "leave", "left",
   "like", "limit", "linear", "lines", "load", "localtime", "localtimestamp", "lock", "long", "longblob",
   "longtext", "loop", "low_priority", "master_bind", "master_heartbeat_period",
   "master_ssl_verify_server_cert", "match", "maxvalue", "mediumblob", "mediumint", "mediumtext", "member",
   "middleint", "minute_microsecond", "minute_second", "mod", "modifies", "natural", "no_write_to_binlog",
   "not", "nth_value", "ntile", "null", "numeric", "of", "on", "optimize", "optimizer_costs", "option",
   "optionally", "or", "order", "out", "outer", "outfile", "over", "parallel", "parse_gcol_expr", "partition",
   "percent_rank", "persist", "persist_only", "precision", "primary", "procedure", "purge", "qualify",
   "range", "rank", "read", "read_write", "reads", "real", "recursive", "references", "regexp", "release",
   "rename", "repeat", "replace", "require", "resignal", "restrict", "return", "revoke", "right", "rlike",
   "role", "row", "row_number", "rows", "schema", "schemas", "second_microsecond", "select", "sensitive",
   "separator", "set", "show", "signal", "slow", "smallint", "spatial", "specific", "sql", "sql_after_gtids",
   "sql_before_gtids", "sql_big_result", "sql_calc_found_rows", "sql_small_result", "sqlexception",
   "sqlstate", "sqlwarning", "ssl", "starting", "stored", "straight_join", "system", "table", "terminated",
   "then", "tinyblob", "tinyint", "tinytext", "to", "trailing", "trigger", "true", "undo", "union", "unique",
   "unlock", "unsigned", "update", "usage", "use", "using", "utc_date", "utc_time", "utc_timestamp", "values",
   "varbinary", "varchar", "varcharacter", "varying", "virtual", "when", "where", "while", "window", "with",
   "write", "xor", "year_month", "zerofill"]

/-- The words that the PostgreSQL dialect reserves. -/
def postgresqlReserved : List String :=
  ["all", "analyse", "analyze", "and", "any", "array", "as", "asc", "asymmetric", "authorization", "between",
   "binary", "both", "case", "cast", "check", "collate", "column", "constraint", "create", "cross",
   "current_catalog", "current_date", "current_role", "current_schema", "current_time", "current_timestamp",
   "current_user", "default", "deferrable", "desc", "distinct", "do", "else", "end", "except", "false",
   "fetch", "for", "foreign", "freeze", "from", "full", "grant", "group", "having", "ilike", "in",
   "initially", "inner", "intersect", "into", "is", "isnull", "join", "leading", "left", "like", "limit",
   "localtime", "localtimestamp", "natural", "new", "not", "notnull", "null", "of", "off", "offset", "old",
   "on", "only", "or", "order", "outer", "over", "overlaps", "placing", "primary", "references", "returning",
   "right", "select", "session_user", "similar", "some", "symmetric", "table", "then", "to", "trailing",
   "true", "union", "unique", "user", "using", "variadic", "verbose", "when", "where", "window", "with"]

/-- The words that the SQLite dialect reserves. -/
def sqliteReserved : List String :=
  ["add", "after", "all", "alter", "analyze", "and", "as", "asc", "attach", "autoincrement", "before",
   "begin", "between", "by", "cascade", "case", "cast", "check", "collate", "column", "commit", "conflict",
   "constraint", "create", "cross", "current_date", "current_time", "current_timestamp", "database",
   "default", "deferrable", "deferred", "delete", "desc", "detach", "distinct", "drop", "each", "else", "end",
   "escape", "except", "exclusive", "exists", "explain", "fail", "false", "for", "foreign", "from", "full",
   "glob", "group", "having", "if", "ignore", "immediate", "in", "index", "indexed", "initially", "inner",
   "insert", "instead", "intersect", "into", "is", "isnull", "join", "key", "left", "like", "limit", "match",
   "natural", "not", "notnull", "null", "of", "offset", "on", "or", "order", "outer", "plan", "pragma",
   "primary", "query", "raise", "references", "reindex", "rename", "replace", "restrict", "right", "rollback",
   "row", "select", "set", "table", "temp", "temporary", "then", "to", "transaction", "trigger", "true",
   "union", "unique", "update", "using", "vacuum", "values", "view", "virtual", "when", "where"]

namespace Dialect

/-- The words that a dialect reserves. -/
def reserved : Dialect → List String
  | .ansi => ansiReserved
  | .mysql => mysqlReserved
  | .postgresql => postgresqlReserved
  | .sqlite => sqliteReserved

/-- The character that a dialect quotes names with. -/
def nameQuote : Dialect → Char
  | .mysql => '\x60'
  | _ => '"'

/-- Whether a dialect escapes with backslashes inside texts. -/
def escapesBackslash (d : Dialect) : Bool :=
  d = .mysql

end Dialect

/-- Whether a character may stand in a name without quotes: letters, digits, underscore, dollar, and
the four letters that are case variants of plain ones. -/
def isBareNameChar (c : Char) : Bool :=
  c.isAlphanum || c == '_' || c == '$' || [304, 305, 383, 8490].contains c.toNat

/-- Whether a text consists of name characters, one line break at its end allowed. -/
def isBareName (cs : List Char) : Bool :=
  let body := if cs.getLast? = some '\n' then cs.dropLast else cs
  !body.isEmpty && body.all isBareNameChar

/-- Whether a name starts with a digit or a dollar. -/
def startsIllegally (cs : List Char) : Bool :=
  cs.head?.any fun c => c.isDigit || c == '$'

/-- Whether a dialect has to quote a name. -/
def needsQuotes (d : Dialect) (name : String) : Bool :=
  let low := Text.lower name
  name == "" || d.reserved.contains low || startsIllegally name.toList || low != name
    || !isBareName name.toList

/-- A text with every character of a kind written twice. -/
def doubled (q : Char) (cs : List Char) : List Char :=
  cs.flatMap fun c => if c = q then [c, c] else [c]

/-- A text in quotes, the quote inside doubled. -/
def enclose (q : Char) (cs : List Char) : List Char :=
  q :: doubled q cs ++ [q]

/-- A name as a dialect writes it. -/
def nameChars (d : Dialect) (name : String) : List Char :=
  if needsQuotes d name then enclose d.nameQuote name.toList else name.toList

end QueryCanvas.Sql
