import Mathlib
import VantageNet.Sql.Statements
import VantageNet.Storage.EntityFilter
import VantageNet.Subnets.Types

/-!
`GenericPostgresStorage` on one table: `shared/storage/traits.rs` and the statements of `shared/storage/generic.rs`, with the unique
and check constraints of the table (`migrations/`). What `serde` makes of a value is a library's.
-/

namespace VantageNet.Storage

open Inventory Sql
open Scanning (IpCidr)

/-- A serialization that is read back. -/
structure Codec (α β : Type) where
  encode : α → β
  decode : β → Except String α
  decode_encode : ∀ a, decode (encode a) = .ok a

structure Serde (J : Type) where
  entitySource : Codec EntitySource J
  hostVirtualization : Codec (Option HostVirtualization) J
  serviceVirtualization : Codec (Option DockerVirtualization) J
  ipCidr : Codec IpCidr String
  string : Codec String String
  /-- `->>` -/
  field : J → String → Option String

/-- What a column holds. -/
inductive Cell (J : Type) where
  | datum (d : Datum)
  | int4 (n : ℤ)
  | inet (ip : IpAddr)
  | macaddr (mac : MacAddress)
  | uuids (ids : List Uuid)
  | json (j : J)
  deriving DecidableEq

/-- The values of `SqlValue` that the entities of an inventory are stored as. -/
inductive RowValue where
  | uuid (v : Uuid)
  | optionalUuid (v : Option Uuid)
  | string (v : String)
  | optionalString (v : Option String)
  | i32 (v : ℤ)
  | bool (v : Bool)
  | timestamp (v : Instant)
  | uuidArray (v : List Uuid)
  | ipCidr (v : IpCidr)
  | ipAddr (v : IpAddr)
  | entitySource (v : EntitySource)
  | serviceDefinition (v : ServiceDefinition)
  | optionalServiceVirtualization (v : Option DockerVirtualization)
  | optionalHostVirtualization (v : Option HostVirtualization)
  | optionalMacAddress (v : Option MacAddress)

/-- The first second of the year 2000. -/
def postgresEpoch : Instant := 946684800 * 1000000000

/-- `TIMESTAMPTZ` keeps whole microseconds. -/
def wholeMicros (t : Instant) : Instant := postgresEpoch + (t - postgresEpoch).tdiv 1000 * 1000

section values

variable {J : Type} (serde : Serde J)

/-- `bind_value`, where `none` is `NULL`. -/
def RowValue.bindValue : RowValue → Option (Cell J)
  | uuid v => some (.datum (.uuid v))
  | optionalUuid v => v.map (fun v => .datum (.uuid v))
  | string v => some (.datum (.text v))
  | optionalString v => v.map (fun v => .datum (.text v))
  | i32 v => some (.int4 v)
  | bool v => some (.datum (.boolean v))
  | timestamp v => some (.datum (.timestamptz (wholeMicros v)))
  | uuidArray v => some (.uuids v)
  | ipCidr v => some (.datum (.text (serde.ipCidr.encode v)))
  | ipAddr v => some (.inet v)
  | entitySource v => some (.json (serde.entitySource.encode v))
  | serviceDefinition v => some (.datum (.text (serde.string.encode v.id)))
  | optionalServiceVirtualization v => some (.json (serde.serviceVirtualization.encode v))
  | optionalHostVirtualization v => some (.json (serde.hostVirtualization.encode v))
  | optionalMacAddress v => v.map .macaddr

end values

section reading

variable {J α : Type}

namespace Cell

def asUuid : Cell J → Option Uuid
  | datum (.uuid v) => some v
  | _ => none

def asText : Cell J → Option String
  | datum (.text v) => some v
  | _ => none

def asBool : Cell J → Option Bool
  | datum (.boolean v) => some v
  | _ => none

def asTimestamp : Cell J → Option Instant
  | datum (.timestamptz v) => some v
  | _ => none

def asInt : Cell J → Option ℤ
  | int4 v => some v
  | _ => none

def asInet : Cell J → Option IpAddr
  | inet v => some v
  | _ => none

def asMacaddr : Cell J → Option MacAddress
  | macaddr v => some v
  | _ => none

def asUuids : Cell J → Option (List Uuid)
  | uuids v => some v
  | _ => none

def asJson : Cell J → Option J
  | json v => some v
  | _ => none

end Cell

/-- A column of another type, which `row.get` panics at, or an error of `from_row`. -/
inductive RowError where
  | column (name : String)
  | message (text : String)
  deriving DecidableEq

def column (row : Record (Cell J)) (name : String) (view : Cell J → Option α) : Except RowError α :=
  match (row name).bind view with
  | some v => .ok v
  | none => .error (.column name)

def optionalColumn (row : Record (Cell J)) (name : String) (view : Cell J → Option α) : Except RowError (Option α) :=
  match row name with
  | none => .ok none
  | some cell =>
    match view cell with
    | some v => .ok (some v)
    | none => .error (.column name)

def deserialized {β : Type} (codec : Codec α β) (name : String) (v : β) : Except RowError α :=
  (codec.decode v).mapError (fun e => .message ("Failed to deserialize " ++ name ++ ": " ++ e))

end reading

/-- `columns` and `values` are what `to_params` gives; `uniques` and `check` are those of the table. -/
structure StorableEntity (J E : Type) where
  tableName : String
  columns : List String
  uniques : List (List String)
  check : Record (Cell J) → Bool
  id : E → Uuid
  setUpdatedAt : E → Instant → E
  values : E → List RowValue
  fromRow : Record (Cell J) → Except RowError E

def buildInsertQuery (tableName : String) (columns : List String) : String :=
  "INSERT INTO " ++ tableName ++ " (" ++ String.intercalate ", " columns ++ ") VALUES (" ++
    String.intercalate ", " ((List.range' 1 columns.length).map (fun i => "$" ++ toString i)) ++ ")"

/-- All columns but the first, which is the id. -/
def buildUpdateQuery (tableName : String) (columns : List String) : String :=
  "UPDATE " ++ tableName ++ " SET " ++
    String.intercalate ", " ((columns.zipIdx.drop 1).map (fun e => e.1 ++ " = $" ++ toString (e.2 + 1))) ++ " " ++ "WHERE id = $1"

def getByIdQuery (tableName : String) : String :=
  "SELECT * FROM " ++ tableName ++ " " ++ (EntityFilter.unfiltered.entityId 0).toWhereClause

def deleteQuery (tableName : String) : String := "DELETE FROM " ++ tableName ++ " " ++ "WHERE id = $1"

section executing

variable {J E : Type} [DecidableEq J] (serde : Serde J)

def cells : Domain (Cell J) where
  text := fun s => .datum (.text s)
  bool := fun b => .datum (.boolean b)
  field := fun cell key =>
    match cell with
    | .datum d => (d.field key).map .datum
    | .json j => (serde.field j key).map (fun s => .datum (.text s))
    | _ => none
  asBool := fun cell =>
    match cell with
    | .datum d => d.asBool
    | _ => none
  lt := fun a b =>
    match a, b with
    | .datum d, .datum e => d.lt e
    | _, _ => false
  bool_injective := fun _ _ h => Datum.boolean.inj (Cell.datum.inj h)

/-- Equal and not `NULL` in all of these columns. -/
def agree (a b : Record (Cell J)) (columns : List String) : Bool := columns.all (fun c => (a c).isSome && a c = b c)

inductive StorageError where
  | refused
  | constraint
  | row (e : RowError)
  deriving DecidableEq

namespace StorableEntity

variable (T : StorableEntity J E)

def accepts (rows : List (Record (Cell J))) : Prop :=
  rows.Pairwise (fun a b => T.uniques.any (agree a b) = false) ∧ ∀ row ∈ rows, T.check row = true

instance instDecidableAccepts (rows : List (Record (Cell J))) : Decidable (T.accepts rows) :=
  inferInstanceAs (Decidable (_ ∧ _))

/-- A statement is carried out where the table then meets its constraints. -/
def execute (text : String) (params : List (Option (Cell J))) (store : Contents (Cell J)) :
    Option (Except StorageError (List (Record (Cell J))) × Contents (Cell J)) :=
  (statement (lex text)).map (fun stmt =>
    let (rows, after) := stmt.exec (cells serde) params store
    if T.accepts (after T.tableName) then (.ok rows, after) else (.error .constraint, store))

def params (e : E) : List (Option (Cell J)) := (T.values e).map (RowValue.bindValue serde)

/-- An operation of `Storage`. -/
inductive Op (E : Type) where
  | create (entity : E)
  | update (entity : E) (now : Instant)
  | getById (id : Uuid)
  | delete (id : Uuid)

def firstRow (rows : List (Record (Cell J))) : Except StorageError (Option E) :=
  match rows.head? with
  | none => .ok none
  | some row => (T.fromRow row).mapError .row |>.map some

/-- An operation, which the database may refuse: what it returns and the tables afterwards, unless its text is no statement. -/
def perform (store : Contents (Cell J)) (op : Op E) (granted : Bool) : Option (Except StorageError (Option E) × Contents (Cell J)) :=
  if granted then
    match op with
    | .create entity =>
      (T.execute serde (buildInsertQuery T.tableName T.columns) (T.params serde entity) store).map (fun e =>
        (e.1.map (fun _ => some entity), e.2))
    | .update entity now =>
      let entity := T.setUpdatedAt entity now
      (T.execute serde (buildUpdateQuery T.tableName T.columns) (T.params serde entity) store).map (fun e =>
        (e.1.map (fun _ => some entity), e.2))
    | .getById id =>
      (T.execute serde (getByIdQuery T.tableName) [some (.datum (.uuid id))] store).map (fun e => (e.1.bind T.firstRow, e.2))
    | .delete id =>
      (T.execute serde (deleteQuery T.tableName) [some (.datum (.uuid id))] store).map (fun e => (e.1.map (fun _ => none), e.2))
  else some (.error .refused, store)

def performAll (store : Contents (Cell J)) :
    List (Op E × Bool) → Option (List (Except StorageError (Option E)) × Contents (Cell J))
  | [] => some ([], store)
  | (op, granted) :: ops =>
    (T.perform serde store op granted).bind (fun e => (performAll e.2 ops).map (fun rest => (e.1 :: rest.1, rest.2)))

end StorableEntity

end executing

section keyed

/-- What a table is for: entities that are apart, found by their ids. What is read of one is `stored`. -/
structure Keyed (E : Type) where
  id : E → Uuid
  setUpdatedAt : E → Instant → E
  stored : E → E
  clash : E → E → Bool

namespace Keyed

open StorableEntity (Op)

variable {E : Type} (K : Keyed E)

def Separate (rows : List E) : Prop := rows.Pairwise (fun a b => K.clash a b = false)

instance instDecidableSeparate (rows : List E) : Decidable (K.Separate rows) :=
  inferInstanceAs (Decidable (List.Pairwise _ _))

/-- The rows become these, if they are apart. -/
def commit (rows after : List E) (answer : Option E) : Except StorageError (Option E) × List E :=
  if K.Separate after then (.ok answer, after) else (.error .constraint, rows)

def replaced (rows : List E) (entity : E) : List E := rows.map (fun r => if K.id r = K.id entity then entity else r)

def perform (rows : List E) (op : Op E) (granted : Bool) : Except StorageError (Option E) × List E :=
  if granted then
    match op with
    | .create entity => K.commit rows (rows ++ [entity]) (some entity)
    | .update entity now => K.commit rows (K.replaced rows (K.setUpdatedAt entity now)) (some (K.setUpdatedAt entity now))
    | .getById id => (.ok ((rows.find? (fun r => K.id r = id)).map K.stored), rows)
    | .delete id => (.ok none, rows.filter (fun r => K.id r ≠ id))
  else (.error .refused, rows)

def performAll (rows : List E) : List (Op E × Bool) → List (Except StorageError (Option E)) × List E
  | [] => ([], rows)
  | (op, granted) :: ops =>
    let (answer, after) := K.perform rows op granted
    (answer :: (performAll after ops).1, (performAll after ops).2)

end Keyed

end keyed

end VantageNet.Storage
