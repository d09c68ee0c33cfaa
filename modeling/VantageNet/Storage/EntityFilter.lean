import VantageNet.Accounts.Permissions
import VantageNet.Sql.Clause

/-!
`shared/storage/filter.rs`: the builder of the `WHERE` clauses of `GenericPostgresStorage`, and
how `get_one` and `get_all_ordered` bind its values.
-/

namespace VantageNet.Storage

open Sql
open Events (UserOrgPermissions)

inductive SqlValue where
  | uuid (id : Uuid)
  | string (s : String)
  | bool (b : Bool)
  | timestamp (t : Instant)
  | email (address : String)
  | userOrgPermissions (permissions : UserOrgPermissions)
  deriving DecidableEq

/-- The value of a column, where the fields of a JSON object are what `->>` gives. -/
inductive Datum where
  | uuid (id : Uuid)
  | text (s : String)
  | boolean (b : Bool)
  | timestamptz (t : Instant)
  | jsonb (fields : List (String × String))
  deriving DecidableEq

/-- `bind_value`. -/
def SqlValue.bindValue : SqlValue → Datum
  | uuid id => .uuid id
  | string s => .text s
  | bool b => .boolean b
  | timestamp t => .timestamptz t
  | email address => .text address
  | userOrgPermissions permissions => .text permissions.asStr

def Datum.field : Datum → String → Option Datum
  | jsonb fields, key => (fields.lookup key).map .text
  | _, _ => none

def Datum.asBool : Datum → Option Bool
  | boolean b => some b
  | text s =>
    if ["true", "t", "yes", "y", "on", "1"].contains s then some true
    else if ["false", "f", "no", "n", "off", "0"].contains s then some false
    else none
  | _ => none

def Datum.lt : Datum → Datum → Bool
  | timestamptz a, timestamptz b => a < b
  | _, _ => false

def postgres : Domain Datum where
  text := .text
  bool := .boolean
  field := Datum.field
  asBool := Datum.asBool
  lt := Datum.lt
  bool_injective := fun _ _ h => Datum.boolean.inj h

structure EntityFilter where
  conditions : List String
  values : List SqlValue

namespace EntityFilter

def unfiltered : EntityFilter := ⟨[], []⟩

/-- A condition on one column with one value. -/
def compared (f : EntityFilter) (column operator : String) (value : SqlValue) : EntityFilter :=
  ⟨f.conditions ++ [column ++ " " ++ operator ++ " $" ++ toString (f.values.length + 1)], f.values ++ [value]⟩

/-- A condition that lists the ids a column may have. -/
def listed (f : EntityFilter) (column : String) (ids : List Uuid) : EntityFilter :=
  if ids.isEmpty then { f with conditions := f.conditions ++ ["FALSE"] }
  else
    let placeholders := ids.zipIdx.map (fun e => "$" ++ toString (f.values.length + e.2 + 1))
    ⟨f.conditions ++ [column ++ " IN (" ++ String.intercalate ", " placeholders ++ ")"], f.values ++ ids.map .uuid⟩

def entityId (f : EntityFilter) (id : Uuid) := f.compared "id" "=" (.uuid id)
def entityIds (f : EntityFilter) (ids : List Uuid) := f.listed "id" ids
def networkIds (f : EntityFilter) (ids : List Uuid) := f.listed "network_id" ids
def userId (f : EntityFilter) (id : Uuid) := f.compared "user_id" "=" (.uuid id)
def hiddenIs (f : EntityFilter) (hidden : Bool) := f.compared "hidden" "=" (.bool hidden)
def hostId (f : EntityFilter) (id : Uuid) := f.compared "host_id" "=" (.uuid id)
def subnetId (f : EntityFilter) (id : Uuid) := f.compared "subnet_id" "=" (.uuid id)
def name (f : EntityFilter) (name : String) := f.compared "name" "=" (.string name)
def groupId (f : EntityFilter) (id : Uuid) := f.compared "group_id" "=" (.uuid id)
def groupIds (f : EntityFilter) (ids : List Uuid) := f.listed "group_id" ids
def bindingId (f : EntityFilter) (id : Uuid) := f.compared "binding_id" "=" (.uuid id)
def hostIds (f : EntityFilter) (ids : List Uuid) := f.listed "host_id" ids
def apiKey (f : EntityFilter) (apiKey : String) := f.compared "key" "=" (.string apiKey)

def scheduledDiscovery (f : EntityFilter) : EntityFilter :=
  { f with conditions := f.conditions ++ ["run_type->>'type' = 'Scheduled'"] ++ ["(run_type->>'enabled')::boolean = true"] }

def oidcSubject (f : EntityFilter) (subject : String) : EntityFilter :=
  let f := f.compared "oidc_subject" "=" (.string subject)
  { f with conditions := f.conditions ++ ["oidc_provider IS NOT NULL"] }

def email (f : EntityFilter) (email : String) := f.compared "email" "=" (.email email)
def organizationId (f : EntityFilter) (organizationId : Uuid) := f.compared "organization_id" "=" (.uuid organizationId)
def topologyId (f : EntityFilter) (topologyId : Uuid) := f.compared "topology_id" "=" (.uuid topologyId)

def userPermissions (f : EntityFilter) (permissions : UserOrgPermissions) :=
  f.compared "permissions" "=" (.userOrgPermissions permissions)

def expiresBefore (f : EntityFilter) (timestamp : Instant) := f.compared "expires_at" "<" (.timestamp timestamp)
def uuidColumn (f : EntityFilter) (column : String) (id : Uuid) := f.compared column "=" (.uuid id)
def uuidColumns (f : EntityFilter) (column : String) (ids : List Uuid) := f.listed column ids
def serviceId (f : EntityFilter) (id : Uuid) := f.compared "service_id" "=" (.uuid id)

def toWhereClause (f : EntityFilter) : String :=
  if f.conditions.isEmpty then "" else "WHERE " ++ String.intercalate " AND " f.conditions

end EntityFilter

/-- One call of a builder. -/
inductive Call where
  | entityId (id : Uuid)
  | entityIds (ids : List Uuid)
  | networkIds (ids : List Uuid)
  | userId (id : Uuid)
  | hiddenIs (hidden : Bool)
  | hostId (id : Uuid)
  | subnetId (id : Uuid)
  | name (s : String)
  | groupId (id : Uuid)
  | groupIds (ids : List Uuid)
  | bindingId (id : Uuid)
  | hostIds (ids : List Uuid)
  | apiKey (s : String)
  | scheduledDiscovery
  | oidcSubject (subject : String)
  | email (s : String)
  | organizationId (id : Uuid)
  | topologyId (id : Uuid)
  | userPermissions (permissions : UserOrgPermissions)
  | expiresBefore (timestamp : Instant)
  | uuidColumn (column : String) (id : Uuid)
  | uuidColumns (column : String) (ids : List Uuid)
  | serviceId (id : Uuid)

namespace Call

def apply (f : EntityFilter) : Call → EntityFilter
  | entityId id => f.entityId id
  | entityIds ids => f.entityIds ids
  | networkIds ids => f.networkIds ids
  | userId id => f.userId id
  | hiddenIs hidden => f.hiddenIs hidden
  | hostId id => f.hostId id
  | subnetId id => f.subnetId id
  | name s => f.name s
  | groupId id => f.groupId id
  | groupIds ids => f.groupIds ids
  | bindingId id => f.bindingId id
  | hostIds ids => f.hostIds ids
  | apiKey s => f.apiKey s
  | scheduledDiscovery => f.scheduledDiscovery
  | oidcSubject subject => f.oidcSubject subject
  | email s => f.email s
  | organizationId id => f.organizationId id
  | topologyId id => f.topologyId id
  | userPermissions permissions => f.userPermissions permissions
  | expiresBefore timestamp => f.expiresBefore timestamp
  | uuidColumn column id => f.uuidColumn column id
  | uuidColumns column ids => f.uuidColumns column ids
  | serviceId id => f.serviceId id

/-- The values a call pushes, each with the column it is meant for. -/
def pushed : Call → List (String × SqlValue)
  | entityId id => [("id", .uuid id)]
  | entityIds ids => ids.map (fun id => ("id", .uuid id))
  | networkIds ids => ids.map (fun id => ("network_id", .uuid id))
  | userId id => [("user_id", .uuid id)]
  | hiddenIs hidden => [("hidden", .bool hidden)]
  | hostId id => [("host_id", .uuid id)]
  | subnetId id => [("subnet_id", .uuid id)]
  | name s => [("name", .string s)]
  | groupId id => [("group_id", .uuid id)]
  | groupIds ids => ids.map (fun id => ("group_id", .uuid id))
  | bindingId id => [("binding_id", .uuid id)]
  | hostIds ids => ids.map (fun id => ("host_id", .uuid id))
  | apiKey s => [("key", .string s)]
  | scheduledDiscovery => []
  | oidcSubject subject => [("oidc_subject", .string subject)]
  | email s => [("email", .email s)]
  | organizationId id => [("organization_id", .uuid id)]
  | topologyId id => [("topology_id", .uuid id)]
  | userPermissions permissions => [("permissions", .userOrgPermissions permissions)]
  | expiresBefore timestamp => [("expires_at", .timestamp timestamp)]
  | uuidColumn column id => [(column, .uuid id)]
  | uuidColumns column ids => ids.map (fun id => (column, .uuid id))
  | serviceId id => [("service_id", .uuid id)]

end Call

/-- The columns of a row, where `none` is `NULL`. -/
abbrev Columns := String → Option Datum

namespace Columns

def isId (row : Columns) (column : String) (id : Uuid) : Prop := row column = some (.uuid id)

def isText (row : Columns) (column : String) (s : String) : Prop := row column = some (.text s)

end Columns

/-- What the caller of a builder asks of a row. -/
def Call.satisfied (row : Columns) : Call → Prop
  | entityId id => row.isId "id" id
  | entityIds ids => ∃ id ∈ ids, row.isId "id" id
  | networkIds ids => ∃ id ∈ ids, row.isId "network_id" id
  | userId id => row.isId "user_id" id
  | hiddenIs hidden => row "hidden" = some (.boolean hidden)
  | hostId id => row.isId "host_id" id
  | subnetId id => row.isId "subnet_id" id
  | name s => row.isText "name" s
  | groupId id => row.isId "group_id" id
  | groupIds ids => ∃ id ∈ ids, row.isId "group_id" id
  | bindingId id => row.isId "binding_id" id
  | hostIds ids => ∃ id ∈ ids, row.isId "host_id" id
  | apiKey s => row.isText "key" s
  | scheduledDiscovery => ∃ runType, row "run_type" = some runType ∧ runType.field "type" = some (.text "Scheduled") ∧
      ∃ enabled, runType.field "enabled" = some enabled ∧ enabled.asBool = some true
  | oidcSubject subject => row.isText "oidc_subject" subject ∧ row "oidc_provider" ≠ none
  | email s => row.isText "email" s
  | organizationId id => row.isId "organization_id" id
  | topologyId id => row.isId "topology_id" id
  | userPermissions permissions => row.isText "permissions" permissions.asStr
  | expiresBefore timestamp => ∃ t, row "expires_at" = some (.timestamptz t) ∧ t < timestamp
  | uuidColumn column id => row.isId column id
  | uuidColumns column ids => ∃ id ∈ ids, row.isId column id
  | serviceId id => row.isId "service_id" id

/-- The column that a caller names is the name of a column. -/
def Call.named : Call → Prop
  | uuidColumn column _ | uuidColumns column _ => isColumn column
  | _ => True

instance (call : Call) : Decidable call.named := by
  unfold Call.named
  split <;> infer_instance

end VantageNet.Storage
