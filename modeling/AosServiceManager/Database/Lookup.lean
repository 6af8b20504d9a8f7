/-
Module: AosServiceManager.Database.Lookup
Layer: Core and Proofs
Purpose: The three lookups of package `database` that splice their key into the SQL text between
  double quotes (database.go:175-187, 279-292, 357-369), read as SQLite reads that text. The
  tokenizer ends the quoted token at the first single `"`, a doubled one standing for one quote,
  and leaves it unterminated at a NUL or at the end of the text. The name is then resolved,
  ignoring ASCII case, against the table's columns and the rowid aliases, and only a name that
  resolves to nothing is read as a string literal. `keyedLookup` is what a parameterized
  `WHERE key = ?` returns. The two agree on every key that has no quote or NUL and names no
  column; a column name selects by a comparison of two columns, and a quote changes the key.
Imports: AosServiceManager.Go.Basic
Trusted boundary: SQLite with double-quoted string literals enabled: its tokenizer on a quoted
  token, its name resolution, and a scan in rowid order. SQL text after the quoted token is
  outside the model. `=` between the key column and another column of a row is a parameter,
  known only to hold between the `NOT NULL` key column and itself.
Main exports: Schema, ColumnEquality, LookupError, lexQuoted, resolveName, spliceQuery,
  keyedLookup, lookupBySplice, getTrafficMonitorData, getLayerInfoByDigest,
  getStorageStateInfoByID, lexQuoted_escapeQuotes, spliceQuery_of_literal,
  lookupBySplice_of_literal, spliceQuery_of_keyColumn, spliced_lookups_differ_from_keyed
-/
import AosServiceManager.Go.Basic

namespace AosServiceManager.Database

/-! ### The tables -/

/-- A row of `trafficmonitor` (database.go:557-559), its `time` as the instant in Unix
nanoseconds that the column reads back as (Database.Store). -/
structure TrafficMonitorRow where
  chain : String
  time : Int
  value : Nat
deriving Repr, DecidableEq

/-- `layermanager.LayerInfo`, a row of `layers` (database.go:567-573). -/
structure LayerInfo where
  digest : String
  layerID : String
  path : String
  osVersion : String
  vendorVersion : String
  description : String
  aosVersion : Nat
deriving Repr, DecidableEq

/-- `storagestate.StorageStateInstanceInfo`. -/
structure StorageStateInstanceInfo where
  storageQuota : Nat
  stateQuota : Nat
  stateChecksum : List UInt8
deriving Repr, DecidableEq

/-- A row of `storagestate` (database.go:596-599). -/
structure StorageStateRow where
  instanceID : String
  info : StorageStateInstanceInfo
deriving Repr, DecidableEq

/-- A table's declared columns, the key column its lookup tests, and the key of a row. -/
structure Schema (Row : Type) where
  columns : List String
  keyColumn : String
  key : Row → String

def trafficMonitorSchema : Schema TrafficMonitorRow :=
  ⟨["chain", "time", "value"], "chain", TrafficMonitorRow.chain⟩

def layersSchema : Schema LayerInfo :=
  ⟨["digest", "layerId", "path", "osVersion", "vendorVersion", "description", "aosVersion"],
    "digest", LayerInfo.digest⟩

def storageStateSchema : Schema StorageStateRow :=
  ⟨["instanceID", "storageQuota", "stateQuota", "stateChecksum"], "instanceID",
    StorageStateRow.instanceID⟩

/-- SQLite's `=` between the key column and the column a name resolves to, on one row, with the
columns' affinities applied. It is left open, but for the `NOT NULL` key column, which equals
itself. -/
def ColumnEquality {Row : Type} (schema : Schema Row) : Type :=
  { equals : Row → String → Bool // ∀ row, equals row schema.keyColumn = true }

/-- The errors of the lookups. -/
inductive LookupError where
  /-- `ErrNotExist` of package `database` (database.go:59): the query selects no row. -/
  | errNotExist
  /-- `networkmanager.ErrEntryNotExist`. -/
  | networkmanagerErrEntryNotExist
  /-- `layermanager.ErrNotExist`. -/
  | layermanagerErrNotExist
  /-- `storagestate.ErrNotExist`. -/
  | storagestateErrNotExist
  /-- The wrapped error of `db.sql.Prepare`: SQLite's `unrecognized token`. -/
  | unrecognizedToken
deriving Repr, DecidableEq

/-! ### What SQLite reads -/

/-- SQLite's tokenizer on a double-quoted token, from the character after the opening quote
(`sqlite3GetToken`, case `CC_QUOTE`, and `sqlite3Dequote`): a doubled quote stands for one
quote and the next single one closes the token; a NUL or the end of the text leaves it
unterminated. The name, and the text after the token. -/
def lexQuoted : List Char → Option (List Char × List Char)
  | [] => none
  | '"' :: '"' :: rest => (lexQuoted rest).map fun (name, after) => ('"' :: name, after)
  | '"' :: rest => some ([], rest)
  | '\x00' :: _ => none
  | c :: rest => (lexQuoted rest).map fun (name, after) => (c :: name, after)

/-- The names SQLite resolves to the rowid when no column has them. -/
def rowidNames : List String := ["rowid", "oid", "_rowid_"]

/-- `sqlite3StrICmp`: equal up to ASCII case. -/
def sameIgnoringCase (a b : List Char) : Bool :=
  a.map Char.toLower == b.map Char.toLower

/-- The column, or rowid alias, that a quoted name resolves to. -/
def resolveName {Row : Type} (schema : Schema Row) (name : List Char) : Option String :=
  (schema.columns ++ rowidNames).find? fun column => sameIgnoringCase column.data name

/-- `QueryRow` on a `WHERE` condition: the first row in rowid order for which it holds, and
`ErrNotExist` from `getDataFromQuery` for none. -/
def firstRow {Row : Type} (holds : Row → Bool) (rows : List Row) : Except LookupError Row :=
  match rows.find? holds with
  | some row => .ok row
  | none => .error .errNotExist

/-- `getDataFromQuery` (database.go:690-706) on `SELECT ... WHERE <key> = "k"`: the `Prepare`
error for an unterminated token; for a name that resolves, a comparison of the key column with
that column; for any other name, a comparison with the name as a text. `none` when the text goes
on after the quoted token. -/
def spliceQuery {Row : Type} (schema : Schema Row) (equality : ColumnEquality schema)
    (rows : List Row) (k : String) : Option (Except LookupError Row) :=
  match lexQuoted (k.data ++ ['"']) with
  | none => some (.error .unrecognizedToken)
  | some (name, []) =>
    match resolveName schema name with
    | some column => some (firstRow (equality.val · column) rows)
    | none => some (firstRow (schema.key · = ⟨name⟩) rows)
  | some (_, _ :: _) => none

/-- The parameterized lookup `WHERE <key> = ?` with `k` bound, as `getInstanceInfoFromQuery`
(database.go:640-660) runs it: the first row whose key is `k`. -/
def keyedLookup {Row : Type} (schema : Schema Row) (rows : List Row) (k : String) :
    Except LookupError Row :=
  firstRow (schema.key · = k) rows

/-- `errors.Is(err, ErrNotExist)` answered with the package's own error. -/
def notExistAs {α : Type} (err : LookupError) : Except LookupError α → Except LookupError α
  | .error .errNotExist => .error err
  | result => result

/-- The body the three lookups share: splice the key, run `getDataFromQuery`, turn its
`ErrNotExist` into the package's error and scan the selected columns. -/
def lookupBySplice {Row α : Type} (schema : Schema Row) (notExist : LookupError)
    (scan : Row → α) (equality : ColumnEquality schema) (rows : List Row) (k : String) :
    Option (Except LookupError α) :=
  (spliceQuery schema equality rows k).map fun result => notExistAs notExist (result.map scan)

/-- The same body on the parameterized lookup. -/
def lookupByKey {Row α : Type} (schema : Schema Row) (notExist : LookupError)
    (scan : Row → α) (rows : List Row) (k : String) : Except LookupError α :=
  notExistAs notExist ((keyedLookup schema rows k).map scan)

/-- `GetTrafficMonitorData` (database.go:175-187): `SELECT time, value FROM trafficmonitor`. -/
def getTrafficMonitorData (equality : ColumnEquality trafficMonitorSchema)
    (rows : List TrafficMonitorRow) (chain : String) : Option (Except LookupError (Int × Nat)) :=
  lookupBySplice trafficMonitorSchema .networkmanagerErrEntryNotExist
    (fun row => (row.time, row.value)) equality rows chain

/-- `GetLayerInfoByDigest` (database.go:279-292): `SELECT * FROM layers`. -/
def getLayerInfoByDigest (equality : ColumnEquality layersSchema) (rows : List LayerInfo)
    (digest : String) : Option (Except LookupError LayerInfo) :=
  lookupBySplice layersSchema .layermanagerErrNotExist id equality rows digest

/-- `GetStorageStateInfoByID` (database.go:357-369): `SELECT * FROM storagestate`, the instance
ID scanned back into the argument. -/
def getStorageStateInfoByID (equality : ColumnEquality storageStateSchema)
    (rows : List StorageStateRow) (instanceID : String) :
    Option (Except LookupError StorageStateInstanceInfo) :=
  lookupBySplice storageStateSchema .storagestateErrNotExist StorageStateRow.info equality rows
    instanceID

/-! ### The quoted token -/

/-- A name written between double quotes: each quote doubled. -/
def escapeQuotes : List Char → List Char
  | [] => []
  | c :: rest => if c = '"' then '"' :: '"' :: escapeQuotes rest else c :: escapeQuotes rest

/-- The tokenizer reads back every name without a NUL that is written with its quotes doubled
and closed by one quote. -/
theorem lexQuoted_escapeQuotes : ∀ name : List Char, '\x00' ∉ name →
    lexQuoted (escapeQuotes name ++ ['"']) = some (name, [])
  | [], _ => rfl
  | c :: name, noNul => by
    have rest := lexQuoted_escapeQuotes name fun member => noNul (List.mem_cons_of_mem c member)
    have notNul : c ≠ '\x00' := fun same => noNul (same ▸ List.mem_cons_self c name)
    by_cases quote : c = '"'
    · subst quote
      simp [escapeQuotes, lexQuoted, rest]
    · simp [escapeQuotes, lexQuoted, quote, notNul, rest]

theorem escapeQuotes_of_not_mem : ∀ name : List Char, '"' ∉ name → escapeQuotes name = name
  | [], _ => rfl
  | c :: name, noQuote => by
    rw [List.mem_cons, not_or] at noQuote
    rw [escapeQuotes, if_neg (Ne.symm noQuote.1), escapeQuotes_of_not_mem name noQuote.2]

/-- A key without a quote or a NUL is read as one token, the key itself, that ends the text. -/
theorem lexQuoted_key {k : String} (noQuote : '"' ∉ k.data) (noNul : '\x00' ∉ k.data) :
    lexQuoted (k.data ++ ['"']) = some (k.data, []) := by
  have read := lexQuoted_escapeQuotes k.data noNul
  rwa [escapeQuotes_of_not_mem k.data noQuote] at read

/-! ### The splice against the parameterized lookup -/

section Splice

variable {Row : Type} (schema : Schema Row) (equality : ColumnEquality schema) (rows : List Row)

/-- A key without a quote or a NUL that names no column is compared as a text: the splice
selects what the parameterized lookup does. -/
theorem spliceQuery_of_literal {k : String} (noQuote : '"' ∉ k.data) (noNul : '\x00' ∉ k.data)
    (unresolved : resolveName schema k.data = none) :
    spliceQuery schema equality rows k = some (keyedLookup schema rows k) := by
  simp only [spliceQuery, lexQuoted_key noQuote noNul, unresolved]
  rfl

/-- A key that names the key column compares that column with itself, which holds on every row:
the splice selects the first row of the table. -/
theorem spliceQuery_of_keyColumn {k : String} (noQuote : '"' ∉ k.data)
    (noNul : '\x00' ∉ k.data) (resolved : resolveName schema k.data = some schema.keyColumn) :
    spliceQuery schema equality rows k = some (firstRow (fun _ => true) rows) := by
  simp only [spliceQuery, lexQuoted_key noQuote noNul, resolved, equality.property]

/-- Hence each of the three lookups returns what its parameterized form does for such a key. -/
theorem lookupBySplice_of_literal {α : Type} (notExist : LookupError) (scan : Row → α)
    {k : String} (noQuote : '"' ∉ k.data) (noNul : '\x00' ∉ k.data)
    (unresolved : resolveName schema k.data = none) :
    lookupBySplice schema notExist scan equality rows k =
      some (lookupByKey schema notExist scan rows k) := by
  rw [lookupBySplice, spliceQuery_of_literal schema equality rows noQuote noNul unresolved]
  rfl

end Splice

/-- The three lookups against their parameterized forms: a layer digest `digest` selects the
first layer, a chain `a""b` selects the chain `a"b`, and an instance ID `"` fails to prepare. -/
theorem spliced_lookups_differ_from_keyed (layersEquality : ColumnEquality layersSchema)
    (monitorEquality : ColumnEquality trafficMonitorSchema)
    (storageEquality : ColumnEquality storageStateSchema) :
    let layer : LayerInfo := ⟨"sha256:1", "layer1", "/layers/1", "1.0", "1", "base layer", 1⟩
    let chain : TrafficMonitorRow := ⟨"a\"b", 0, 7⟩
    getLayerInfoByDigest layersEquality [layer] "digest" = some (.ok layer) ∧
      lookupByKey layersSchema .layermanagerErrNotExist id [layer] "digest" =
        .error .layermanagerErrNotExist ∧
      getTrafficMonitorData monitorEquality [chain] "a\"\"b" = some (.ok (0, 7)) ∧
      lookupByKey trafficMonitorSchema .networkmanagerErrEntryNotExist
        (fun row => (row.time, row.value)) [chain] "a\"\"b" =
        .error .networkmanagerErrEntryNotExist ∧
      getStorageStateInfoByID storageEquality [] "\"" = some (.error .unrecognizedToken) ∧
      lookupByKey storageStateSchema .storagestateErrNotExist StorageStateRow.info [] "\"" =
        .error .storagestateErrNotExist := by
  refine ⟨?_, rfl, rfl, rfl, rfl, rfl⟩
  rw [getLayerInfoByDigest, lookupBySplice,
    @spliceQuery_of_keyColumn _ layersSchema layersEquality _ "digest" (by decide) (by decide) rfl]
  rfl

end AosServiceManager.Database
