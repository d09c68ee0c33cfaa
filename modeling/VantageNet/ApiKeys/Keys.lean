import Mathlib.Tactic.Common
import VantageNet.Accounts.Permissions
import VantageNet.Interaction.Program
import VantageNet.Interaction.Table
import VantageNet.Inventory.Types

/-!
API keys of users and of daemons, and the tables that hold them: `shared/api_key_common.rs`,
`user_api_keys/impl` and `daemon_api_keys/impl`.
-/

namespace VantageNet.ApiKeys

open Interaction
open Events (UserOrgPermissions)

inductive ApiKeyType where
  | daemon
  | user
  deriving DecidableEq

/-- Legacy keys without one of the prefixes are daemons' keys. -/
def ApiKeyType.fromKey (key : String) : ApiKeyType := if key.startsWith "scp_u_" then .user else .daemon

structure UserApiKeyBase where
  key : String
  name : String
  userId : Uuid
  organizationId : Uuid
  permissions : UserOrgPermissions
  lastUsed : Option Instant
  expiresAt : Option Instant
  isEnabled : Bool
  tags : List Uuid
  networkIds : List Uuid
  deriving DecidableEq

structure DaemonApiKeyBase where
  key : String
  name : String
  lastUsed : Option Instant
  expiresAt : Option Instant
  networkId : Uuid
  isEnabled : Bool
  tags : List Uuid
  deriving DecidableEq

abbrev UserApiKey := Inventory.Entity UserApiKeyBase

abbrev DaemonApiKey := Inventory.Entity DaemonApiKeyBase

/-- What the keys of both types have in common. -/
class ApiKeyCommon (κ : Type) where
  id : κ → Uuid
  key : κ → String
  isEnabled : κ → Bool
  expiresAt : κ → Option Instant
  setKey : κ → String → κ
  setIsEnabled : κ → Bool → κ
  setLastUsed : κ → Option Instant → κ
  setUpdatedAt : κ → Instant → κ
  /-- The row of the table, without what is stored elsewhere. -/
  row : κ → κ
  id_setKey : ∀ k s, id (setKey k s) = id k
  id_setIsEnabled : ∀ k b, id (setIsEnabled k b) = id k
  id_setLastUsed : ∀ k t, id (setLastUsed k t) = id k
  id_setUpdatedAt : ∀ k t, id (setUpdatedAt k t) = id k
  id_row : ∀ k, id (row k) = id k
  key_setKey : ∀ k s, key (setKey k s) = s
  key_setIsEnabled : ∀ k b, key (setIsEnabled k b) = key k
  key_setLastUsed : ∀ k t, key (setLastUsed k t) = key k
  key_setUpdatedAt : ∀ k t, key (setUpdatedAt k t) = key k
  key_row : ∀ k, key (row k) = key k
  isEnabled_setKey : ∀ k s, isEnabled (setKey k s) = isEnabled k
  isEnabled_setIsEnabled : ∀ k b, isEnabled (setIsEnabled k b) = b
  isEnabled_setLastUsed : ∀ k t, isEnabled (setLastUsed k t) = isEnabled k
  isEnabled_setUpdatedAt : ∀ k t, isEnabled (setUpdatedAt k t) = isEnabled k
  isEnabled_row : ∀ k, isEnabled (row k) = isEnabled k

attribute [simp] ApiKeyCommon.id_setKey ApiKeyCommon.id_setIsEnabled ApiKeyCommon.id_setLastUsed
  ApiKeyCommon.id_setUpdatedAt ApiKeyCommon.id_row ApiKeyCommon.key_setKey ApiKeyCommon.key_setIsEnabled
  ApiKeyCommon.key_setLastUsed ApiKeyCommon.key_setUpdatedAt ApiKeyCommon.key_row ApiKeyCommon.isEnabled_setKey
  ApiKeyCommon.isEnabled_setIsEnabled ApiKeyCommon.isEnabled_setLastUsed ApiKeyCommon.isEnabled_setUpdatedAt
  ApiKeyCommon.isEnabled_row

instance : ApiKeyCommon UserApiKey where
  id k := k.id
  key k := k.base.key
  isEnabled k := k.base.isEnabled
  expiresAt k := k.base.expiresAt
  setKey k s := { k with base := { k.base with key := s } }
  setIsEnabled k b := { k with base := { k.base with isEnabled := b } }
  setLastUsed k t := { k with base := { k.base with lastUsed := t } }
  setUpdatedAt k t := { k with updatedAt := t }
  row k := { k with base := { k.base with networkIds := [] } }
  id_setKey _ _ := rfl
  id_setIsEnabled _ _ := rfl
  id_setLastUsed _ _ := rfl
  id_setUpdatedAt _ _ := rfl
  id_row _ := rfl
  key_setKey _ _ := rfl
  key_setIsEnabled _ _ := rfl
  key_setLastUsed _ _ := rfl
  key_setUpdatedAt _ _ := rfl
  key_row _ := rfl
  isEnabled_setKey _ _ := rfl
  isEnabled_setIsEnabled _ _ := rfl
  isEnabled_setLastUsed _ _ := rfl
  isEnabled_setUpdatedAt _ _ := rfl
  isEnabled_row _ := rfl

instance : ApiKeyCommon DaemonApiKey where
  id k := k.id
  key k := k.base.key
  isEnabled k := k.base.isEnabled
  expiresAt k := k.base.expiresAt
  setKey k s := { k with base := { k.base with key := s } }
  setIsEnabled k b := { k with base := { k.base with isEnabled := b } }
  setLastUsed k t := { k with base := { k.base with lastUsed := t } }
  setUpdatedAt k t := { k with updatedAt := t }
  row k := k
  id_setKey _ _ := rfl
  id_setIsEnabled _ _ := rfl
  id_setLastUsed _ _ := rfl
  id_setUpdatedAt _ _ := rfl
  id_row _ := rfl
  key_setKey _ _ := rfl
  key_setIsEnabled _ _ := rfl
  key_setLastUsed _ _ := rfl
  key_setUpdatedAt _ _ := rfl
  key_row _ := rfl
  isEnabled_setKey _ _ := rfl
  isEnabled_setIsEnabled _ _ := rfl
  isEnabled_setLastUsed _ _ := rfl
  isEnabled_setUpdatedAt _ _ := rfl
  isEnabled_row _ := rfl

/-- `is_expired`. -/
def isExpired {κ : Type} [ApiKeyCommon κ] (key : κ) (now : Instant) : Bool :=
  (ApiKeyCommon.expiresAt key).any (fun expiresAt => expiresAt < now)

def checkKeyValidity {κ : Type} [ApiKeyCommon κ] (key : κ) (now : Instant) : Except String Unit :=
  if isExpired key now then .error "API key has expired"
  else if !ApiKeyCommon.isEnabled key then .error "API key is not enabled"
  else .ok ()

/-- A key of the given type. -/
@[reducible]
def ApiKey : ApiKeyType → Type
  | .daemon => DaemonApiKey
  | .user => UserApiKey

instance : (t : ApiKeyType) → ApiKeyCommon (ApiKey t)
  | .daemon => inferInstanceAs (ApiKeyCommon DaemonApiKey)
  | .user => inferInstanceAs (ApiKeyCommon UserApiKey)

section tables

variable {κ : Type} [ApiKeyCommon κ]

/-- The primary key, and `key TEXT NOT NULL UNIQUE`. -/
def Apart (a b : κ) : Prop := ApiKeyCommon.id a ≠ ApiKeyCommon.id b ∧ ApiKeyCommon.key a ≠ ApiKeyCommon.key b

instance (a b : κ) : Decidable (Apart a b) := inferInstanceAs (Decidable (_ ∧ _))

instance : Std.Symm (Apart (κ := κ)) := ⟨fun _ _ h => ⟨h.1.symm, h.2.symm⟩⟩

abbrev KeyTable (κ : Type) [ApiKeyCommon κ] := Table κ Apart

namespace KeyTable

def find (t : KeyTable κ) (id : Uuid) : Option κ := t.rows.find? (fun k => ApiKeyCommon.id k = id)

def findKey (t : KeyTable κ) (key : String) : Option κ := t.rows.find? (fun k => ApiKeyCommon.key k = key)

/-- No other row has the key of this one. -/
def Admits (t : KeyTable κ) (row : κ) : Prop :=
  ∀ k ∈ t.rows, ApiKeyCommon.id k ≠ ApiKeyCommon.id row → ApiKeyCommon.key k ≠ ApiKeyCommon.key row

instance (t : KeyTable κ) (row : κ) : Decidable (t.Admits row) :=
  inferInstanceAs (Decidable (∀ k ∈ t.rows, _ → _))

/-- The row in the place of the one with its id. -/
def put (t : KeyTable κ) (row : κ) (h : t.Admits row) : KeyTable κ where
  rows := t.rows.map (fun k => if ApiKeyCommon.id k = ApiKeyCommon.id row then row else k)
  pairwise := List.pairwise_map.mpr (t.pairwise.imp_of_mem (fun {a b} ha hb hab => by
    split_ifs with h₁ h₂ h₂
    · exact absurd (h₁.trans h₂.symm) hab.1
    · exact ⟨Ne.symm h₂, Ne.symm (h b hb h₂)⟩
    · exact ⟨h₁, h a ha h₁⟩
    · exact hab))

theorem eq_of_id_eq {t : KeyTable κ} {a b : κ} (ha : a ∈ t.rows) (hb : b ∈ t.rows)
    (h : ApiKeyCommon.id a = ApiKeyCommon.id b) : a = b := t.eq_of_key_eq (fun _ _ hapart => hapart.1) ha hb h

theorem mem_put {t : KeyTable κ} {row : κ} {h : t.Admits row} {k : κ} (hk : k ∈ (t.put row h).rows) :
    k = row ∧ (∃ existing ∈ t.rows, ApiKeyCommon.id existing = ApiKeyCommon.id row) ∨
      k ∈ t.rows ∧ ApiKeyCommon.id k ≠ ApiKeyCommon.id row := by
  obtain ⟨existing, hmem, rfl⟩ := List.mem_map.mp hk
  split_ifs with hid
  · exact .inl ⟨rfl, existing, hmem, hid⟩
  · exact .inr ⟨hmem, hid⟩

end KeyTable

end tables

end VantageNet.ApiKeys
