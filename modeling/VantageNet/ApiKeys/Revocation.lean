import Mathlib.Tactic.Common
import VantageNet.ApiKeys.Requests
import VantageNet.Interaction.Pool

/-!
A revoked key stays revoked, as long as nothing is stored from a row that was read before the revocation.
-/

namespace VantageNet.ApiKeys

open Interaction Interaction.Program
open Events (AuthenticatedEntity)

section revoked

/-- What a revocation leaves to a row. -/
def Revocation.Allows (t : ApiKeyType) (key : ApiKey t) : Revocation → Prop
  | .disabled t' id => t' = t → ApiKeyCommon.id key = id → ApiKeyCommon.isEnabled key = false
  | .rotated t' value => t' = t → ApiKeyCommon.key key ≠ value

def Revoked (s : Db) : Prop := ∀ r ∈ s.revoked, ∀ t, ∀ key ∈ (s.keys t).rows, r.Allows t key

/-- What is stored is made from what has been read. -/
def MadeFrom : KeyOp → Prop
  | .update _ .used read key =>
    ApiKeyCommon.key key = ApiKeyCommon.key read ∧ ApiKeyCommon.isEnabled key = ApiKeyCommon.isEnabled read
  | .update _ .expired read key => ApiKeyCommon.key key = ApiKeyCommon.key read ∧ ApiKeyCommon.isEnabled key = false
  | .update _ .requested read key => ApiKeyCommon.key key = ApiKeyCommon.key read
  | .update _ .rotated read key => ApiKeyCommon.isEnabled key = ApiKeyCommon.isEnabled read
  | .create _ => False
  | _ => True

/-- The row that was read has not been revoked since. An explicit update asks for a key to be enabled or not, a rotation
for another value. -/
def Current (s : Db) : KeyOp → Prop
  | .update t purpose read key => ∀ existing ∈ (s.keys t).rows, ApiKeyCommon.id existing = ApiKeyCommon.id key →
      (purpose ≠ .rotated → ApiKeyCommon.key existing = ApiKeyCommon.key read) ∧
      (purpose = .used ∨ purpose = .rotated → ApiKeyCommon.isEnabled read = true → ApiKeyCommon.isEnabled existing = true)
  | _ => True

instance (s : Db) : DecidablePred (Current s)
  | .update t purpose read key => inferInstanceAs (Decidable (∀ existing ∈ (s.keys t).rows,
      ApiKeyCommon.id existing = ApiKeyCommon.id key →
        (purpose ≠ .rotated → ApiKeyCommon.key existing = ApiKeyCommon.key read) ∧
        (purpose = .used ∨ purpose = .rotated → ApiKeyCommon.isEnabled read = true →
          ApiKeyCommon.isEnabled existing = true)))
  | .newV4 | .utcNow | .generateApiKey _ | .getByKey _ _ | .getById _ _ | .create _ | .networkAccess _ | .deleteAccess _
  | .createAccess _ _ | .apiAccess _ | .validateTags _ _ => .isTrue trivial

theorem key_ne_of_id_ne {t : ApiKeyType} {keys : KeyTable (ApiKey t)} {a b : ApiKey t} (ha : a ∈ keys.rows)
    (hb : b ∈ keys.rows) (h : ApiKeyCommon.id a ≠ ApiKeyCommon.id b) : ApiKeyCommon.key a ≠ ApiKeyCommon.key b :=
  (keys.pairwise.forall ha hb (fun heq => h (congrArg _ heq))).2

variable {s : Db} {t : ApiKeyType} {purpose : Purpose} {read key existing : ApiKey t}

theorem mem_note {r : Revocation} (hr : r ∈ s.note existing key purpose) :
    (r ∈ s.revoked ∨ purpose = .requested ∧ ApiKeyCommon.isEnabled key = false ∧ r = .disabled t (ApiKeyCommon.id key) ∨
      purpose = .rotated ∧ r = .rotated t (ApiKeyCommon.key existing)) ∧
    (purpose = .requested → r = .disabled t (ApiKeyCommon.id key) → ApiKeyCommon.isEnabled key = false) ∧
    (purpose = .rotated → r ≠ .rotated t (ApiKeyCommon.key key)) := by
  cases purpose with
  | used | expired => exact ⟨.inl hr, nofun, nofun⟩
  | requested =>
    unfold Db.note at hr
    split_ifs at hr with henabled
    · obtain ⟨hmem, hne⟩ := List.mem_filter.mp hr
      exact ⟨.inl hmem, fun _ heq => absurd heq (of_decide_eq_true hne), nofun⟩
    · have hdisabled := Bool.eq_false_iff.mpr henabled
      refine ⟨?_, fun _ _ => hdisabled, nofun⟩
      rcases List.mem_cons.mp hr with heq | hmem
      · exact .inr (.inl ⟨rfl, hdisabled, heq⟩)
      · exact .inl hmem
  | rotated =>
    obtain ⟨hmem, hne⟩ := List.mem_filter.mp hr
    refine ⟨?_, nofun, fun _ => of_decide_eq_true hne⟩
    rcases List.mem_cons.mp hmem with heq | hmem
    · exact .inr (.inr ⟨rfl, heq⟩)
    · exact .inl hmem

/-- The row that is stored is let by every revocation that stands. -/
theorem allows_stored (h : Revoked s) (hm : MadeFrom (.update t purpose read key)) (hc : Current s (.update t purpose read key))
    (hexisting : existing ∈ (s.keys t).rows) (hid : ApiKeyCommon.id existing = ApiKeyCommon.id key) {r : Revocation}
    (hr : r ∈ s.note existing key purpose) : r.Allows t key := by
  obtain ⟨hold, hrequested, hrotated⟩ := mem_note hr
  obtain ⟨hkey, henabled⟩ := hc existing hexisting hid
  cases r with
  | disabled t' id =>
    rintro rfl rfl
    rcases hold with hmem | ⟨-, hdisabled, -⟩ | ⟨-, heq⟩
    · have hbefore : ApiKeyCommon.isEnabled existing = false := h _ hmem _ existing hexisting rfl hid
      have hread : (purpose = .used ∨ purpose = .rotated) → ApiKeyCommon.isEnabled read = false := fun hp =>
        Bool.eq_false_iff.mpr (fun hread => absurd (henabled hp hread) (Bool.eq_false_iff.mp hbefore))
      cases purpose with
      | used => exact hm.2.trans (hread (.inl rfl))
      | expired => exact hm.2
      | requested => exact hrequested rfl rfl
      | rotated => exact hm.trans (hread (.inr rfl))
    · exact hdisabled
    · exact nomatch heq
  | rotated t' value =>
    rintro rfl heq
    rcases hold with hmem | ⟨-, -, heq'⟩ | ⟨hp, -⟩
    · have hbefore : ApiKeyCommon.key existing ≠ value := h _ hmem _ existing hexisting rfl
      cases purpose with
      | used | expired => exact hbefore ((hkey nofun).trans (hm.1.symm.trans heq))
      | requested => exact hbefore ((hkey nofun).trans (hm.symm.trans heq))
      | rotated => exact hrotated rfl (heq ▸ rfl)
    · exact nomatch heq'
    · exact hrotated hp (heq ▸ rfl)

/-- And so are the other rows. -/
theorem allows_other (h : Revoked s) (hexisting : existing ∈ (s.keys t).rows)
    (hid : ApiKeyCommon.id existing = ApiKeyCommon.id key) {r : Revocation} (hr : r ∈ s.note existing key purpose)
    {t' : ApiKeyType} {other : ApiKey t'} (hother : other ∈ (s.keys t').rows)
    (hne : ∀ heq : t' = t, ApiKeyCommon.id (heq ▸ other) ≠ ApiKeyCommon.id key) : r.Allows t' other := by
  rcases (mem_note hr).1 with hmem | ⟨-, -, rfl⟩ | ⟨-, rfl⟩
  · exact h r hmem t' other hother
  · rintro rfl hsame
    exact absurd hsame (hne rfl)
  · rintro rfl
    exact key_ne_of_id_ne hother hexisting (hid ▸ hne rfl)

theorem revoked_step {o : KeyOp} (h : Revoked s) (hm : MadeFrom o) (hc : Current s o) (answer : o.Reply) :
    Revoked (keyStep o answer s).2 := by
  cases o with
  | create => exact hm.elim
  | update t purpose read key =>
    cases answer with
    | error e => exact h
    | ok u =>
      unfold keyStep
      dsimp only
      split
      · exact h
      · next existing hfind =>
        have hexisting := List.mem_of_find?_eq_some hfind
        have hid : ApiKeyCommon.id existing = ApiKeyCommon.id key := by simpa using List.find?_some hfind
        split_ifs with hadmits
        · intro r hr t' k hk
          by_cases ht : t' = t
          · subst ht
            change k ∈ (Function.update s.keys t' _ t').rows at hk
            rw [Function.update_self] at hk
            rcases KeyTable.mem_put hk with ⟨rfl, -⟩ | ⟨hk, hne⟩
            · have hallows := allows_stored h hm hc hexisting hid hr
              cases r with
              | disabled => simpa [Revocation.Allows] using hallows
              | rotated => simpa [Revocation.Allows] using hallows
            · exact allows_other h hexisting hid hr hk (fun _ => by simpa using hne)
          · change k ∈ (Function.update s.keys t _ t').rows at hk
            rw [Function.update_of_ne ht] at hk
            exact allows_other h hexisting hid hr hk (fun heq => absurd heq ht)
        · exact h
  | deleteAccess | createAccess =>
    cases answer with
    | error e => exact h
    | ok u =>
      unfold keyStep
      dsimp only
      try split_ifs
      all_goals exact h
  | _ => exact h

end revoked

section programs

theorem only_update {t : ApiKeyType} {purpose : Purpose} {read key : ApiKey t}
    (h : ∀ now, MadeFrom (.update t purpose read (ApiKeyCommon.setUpdatedAt key now))) :
    Only MadeFrom (update t purpose read key) := by
  refine ⟨trivial, fun r => .bind (.orFail r) (fun current => ?_)⟩
  cases current with
  | none => trivial
  | some current => exact ⟨trivial, fun now => ⟨h now, fun r => .bind (.orFail r) (fun _ => trivial)⟩⟩

theorem only_writeBack {t : ApiKeyType} {purpose : Purpose} {read key : ApiKey t}
    (h : ∀ now, MadeFrom (.update t purpose read (ApiKeyCommon.setUpdatedAt key now))) :
    Only MadeFrom (writeBack t purpose read key) := .bind (only_update h).attempt (fun _ => trivial)

theorem only_found {α : Type} (missing : Failure) (a : Option α) : Only MadeFrom (found missing a) := by
  cases a <;> trivial

theorem only_getById (t : ApiKeyType) (id : Uuid) : Only MadeFrom (getById t id) := ⟨trivial, .orFail⟩

theorem only_getForKey (apiKeyId : Uuid) : Only MadeFrom (getForKey apiKeyId) := ⟨trivial, .orFail⟩

theorem only_createAccess (apiKeyId networkId : Uuid) :
    Only MadeFrom (.op (.createAccess apiKeyId networkId) orFail : Task Unit) := ⟨trivial, .orFail⟩

theorem only_saveForKey (apiKeyId : Uuid) (networkIds : List Uuid) : Only MadeFrom (saveForKey apiKeyId networkIds) :=
  ⟨trivial, fun r => .bind (.orFail r) (fun _ => .forEach (only_createAccess apiKeyId) networkIds)⟩

theorem only_utcNow_bind {α : Type} {f : Instant → Task α} (h : ∀ now, Only (S := keySig) MadeFrom (f now)) :
    Only MadeFrom (utcNow.bind f) := ⟨trivial, h⟩

theorem only_validated (t : ApiKeyType) (key : ApiKey t) : Only MadeFrom (validated t key) := by
  refine only_utcNow_bind (fun now => ?_)
  cases checkKeyValidity key now with
  | ok u => trivial
  | error e =>
    refine only_utcNow_bind (fun later => .bind (.when _ (only_writeBack (fun now => ?_))) (fun _ => trivial))
    exact ⟨by simp, by simp⟩

theorem only_touch (t : ApiKeyType) (key : ApiKey t) : Only MadeFrom (touch t key) := by
  refine only_utcNow_bind (fun now => only_writeBack (fun later => ?_))
  exact ⟨by simp, by simp⟩

theorem only_requireApiAccess (organizationId : Uuid) : Only (S := keySig) MadeFrom (requireApiAccess organizationId) := by
  refine ⟨trivial, fun r => ?_⟩
  rcases r with _ | _ | _ | _ | _ <;> trivial

theorem only_acceptUserKey (key : UserApiKey) : Only MadeFrom (acceptUserKey key) :=
  .bind (only_validated .user key) (fun _ => .bind (only_requireApiAccess _) (fun _ =>
    .bind (only_getForKey key.id).attempt (fun _ => .bind (only_touch .user key) (fun _ => trivial))))

theorem only_acceptDaemonKey (daemonId : Uuid) (key : DaemonApiKey) : Only MadeFrom (acceptDaemonKey daemonId key) :=
  .bind (only_validated .daemon key) (fun _ => .bind (only_touch .daemon key) (fun _ => trivial))

theorem only_accepted {κ : Type} {accept : κ → Task AuthenticatedEntity}
    (h : ∀ key, Only (S := keySig) MadeFrom (accept key))
    (r : Except Failure (Option κ)) : Only MadeFrom (accepted accept r) := by
  rcases r with e | _ | key
  · trivial
  · trivial
  · exact h key

theorem only_getByKey (hashedKey : String) : Only MadeFrom (getByKey hashedKey) := by
  refine ⟨trivial, fun r => .bind (.orFail r) (fun key => ?_)⟩
  cases key with
  | none => trivial
  | some key => exact .bind (only_getForKey _) (fun _ => trivial)

theorem only_authenticate (hashApiKey : String → String) (apiKeyRaw : String) (daemonId : Option Uuid) :
    Only MadeFrom (authenticate hashApiKey apiKeyRaw daemonId) := by
  unfold authenticate
  cases ApiKeyType.fromKey apiKeyRaw with
  | user => exact .bind (only_getByKey _).attempt (only_accepted only_acceptUserKey)
  | daemon =>
    cases daemonId with
    | none => trivial
    | some daemonId =>
      exact .bind (Only.attempt ⟨trivial, .orFail⟩) (only_accepted (only_acceptDaemonKey daemonId))

theorem only_authorizedFor (auth : AuthenticatedEntity) (t : ApiKeyType) : Only MadeFrom (authorizedFor auth t) := by
  cases t with
  | user =>
    change Only MadeFrom (authorizedUser auth)
    unfold authorizedUser
    split_ifs <;> trivial
  | daemon =>
    change Only MadeFrom (authorizedMember auth)
    unfold authorizedMember
    split_ifs <;> trivial

theorem only_updateUserApiKey (auth : AuthenticatedEntity) (id : Uuid) (request : UserApiKey) :
    Only MadeFrom (updateUserApiKey auth id request) :=
  .bind (only_authorizedFor auth .user) (fun _ => .bind (only_found _ _) (fun _ => .bind (only_found _ _) (fun _ =>
    .bind (only_getById .user id) (fun _ => .bind (only_found _ _) (fun _ => .bind (.orFail _) (fun _ =>
      .bind (.orFail _) (fun _ => .bind (.orFail _) (fun _ => .bind (only_saveForKey _ _) (fun _ =>
        .bind (only_update (fun _ => rfl)) (fun _ => trivial))))))))))

theorem only_updateHandler (auth : AuthenticatedEntity) (id : Uuid) (request : DaemonApiKey) :
    Only MadeFrom (updateHandler auth id request) :=
  .bind (only_found _ _) (fun _ => .bind (only_getById .daemon id) (fun _ => .bind (only_found _ _) (fun _ =>
    .bind (.orFail _) (fun _ => ⟨trivial, fun r => .bind (.orFail r) (fun _ => only_update (fun _ => rfl))⟩))))

theorem only_updateDaemonApiKey (auth : AuthenticatedEntity) (id : Uuid) (request : DaemonApiKey) :
    Only MadeFrom (updateDaemonApiKey auth id request) :=
  .bind (only_authorizedFor auth .daemon) (fun _ => .bind (only_getById .daemon id) (fun _ => .bind (only_found _ _)
    (fun _ => .bind (.orFail _) (fun _ => only_updateHandler auth id _))))

theorem only_rotated {t : ApiKeyType} (existing : ApiKey t) (generated : String × String) :
    Only MadeFrom ((update t .rotated existing (ApiKeyCommon.setKey existing generated.2)).bind (fun _ =>
      (ret generated.1 : Task String))) :=
  .bind (only_update (fun _ => by simp [MadeFrom])) (fun _ => trivial)

theorem only_rotateKey (auth : AuthenticatedEntity) (t : ApiKeyType) (apiKeyId : Uuid) :
    Only MadeFrom (rotateKey auth t apiKeyId) :=
  .bind (only_getById t apiKeyId) (fun _ => .bind (only_found _ _) (fun existing => .bind (.orFail _) (fun _ =>
    ⟨trivial, fun generated => only_rotated existing generated⟩)))

end programs

section runs

/-- A request that an API key authenticates, an explicit update, or a rotation. -/
inductive KeyCall where
  | authenticate (apiKeyRaw : String) (daemonId : Option Uuid)
  | updateUserApiKey (auth : AuthenticatedEntity) (id : Uuid) (request : UserApiKey)
  | updateDaemonApiKey (auth : AuthenticatedEntity) (id : Uuid) (request : DaemonApiKey)
  | rotateKey (auth : AuthenticatedEntity) (t : ApiKeyType) (apiKeyId : Uuid)

def KeyCall.program (hashApiKey : String → String) : KeyCall → Task Unit
  | .authenticate apiKeyRaw daemonId => (ApiKeys.authenticate hashApiKey apiKeyRaw daemonId).bind (fun _ => ret ())
  | .updateUserApiKey auth id request => (ApiKeys.updateUserApiKey auth id request).bind (fun _ => ret ())
  | .updateDaemonApiKey auth id request => (ApiKeys.updateDaemonApiKey auth id request).bind (fun _ => ret ())
  | .rotateKey auth t apiKeyId => (rotateKeyHandler auth t apiKeyId).bind (fun _ => ret ())

def keyScheme (hashApiKey : String → String) : Scheme keySig Failure Empty KeyCall Db :=
  ⟨KeyCall.program hashApiKey, fun _ => .none, keyStep⟩

abbrev KeyPool := Pool keySig Failure Empty KeyCall Db

abbrev KeyTick := Tick keySig KeyCall

def nextOp (P : KeyPool) (i : ℕ) : Option KeyOp :=
  P.threads[i]?.bind (fun t =>
    match t.prog with
    | .op o _ => some o
    | _ => none)

/-- The call that takes its next step stores nothing from a row that has been revoked. -/
def UpToDate (P : KeyPool) : KeyTick → Prop
  | .spawn _ => True
  | .run i _ => ∀ o ∈ nextOp P i, Current P.state o

instance (P : KeyPool) : DecidablePred (UpToDate P)
  | .spawn _ => .isTrue trivial
  | .run i _ => inferInstanceAs (Decidable (∀ o ∈ nextOp P i, Current P.state o))

variable (hashApiKey : String → String)

theorem only_program (call : KeyCall) : Only MadeFrom (call.program hashApiKey) := by
  cases call with
  | authenticate apiKeyRaw daemonId => exact .bind (only_authenticate hashApiKey apiKeyRaw daemonId) (fun _ => trivial)
  | updateUserApiKey auth id request => exact .bind (only_updateUserApiKey auth id request) (fun _ => trivial)
  | updateDaemonApiKey auth id request => exact .bind (only_updateDaemonApiKey auth id request) (fun _ => trivial)
  | rotateKey auth t apiKeyId =>
    exact .bind (.bind (only_authorizedFor auth t) (fun _ => .bind (only_rotateKey auth t apiKeyId).attempt
      (fun _ => .orFail _))) (fun _ => trivial)

structure Revoking (P : KeyPool) : Prop where
  revoked : Revoked P.state
  madeFrom : ∀ (i : ℕ) t, P.threads[i]? = some t → Only MadeFrom t.prog

theorem Revoking.step {P : KeyPool} (h : Revoking P) (tick : KeyTick) (hc : UpToDate P tick) :
    Revoking (P.step (keyScheme hashApiKey) tick) where
  revoked := by
    rcases Pool.state_step (W := keyScheme hashApiKey) P tick with hstate | ⟨i, answers, t, o, k, rfl, hran⟩
    · rw [hstate]
      exact h.revoked
    · have honly := h.madeFrom i t hran.thread
      rw [hran.prog] at honly
      have hcurrent : Current P.state o := hc o (by simp only [nextOp, hran.thread, hran.prog, Option.bind_some, Option.mem_def])
      rw [hran.state_eq]
      exact revoked_step h.revoked honly.1 hcurrent (answers o)
  madeFrom := Pool.threads_step (T := fun _ t => Only (S := keySig) MadeFrom (Thread.prog t)) tick h.madeFrom (only_program hashApiKey)
    (fun _ ht _ => ht)
    (fun i answers t o k _ hran ht => by
      rw [hran.prog] at ht
      exact ht.2 _)
    (fun _ _ _ _ _ _ _ _ _ _ _ hu => hu)

/-- Nothing has been revoked when a run begins. -/
def KeyPool.at (keys : (t : ApiKeyType) → KeyTable (ApiKey t)) (access : List (Uuid × Uuid)) : KeyPool := ⟨[], ⟨keys, access, []⟩⟩

theorem revoking_at (keys : (t : ApiKeyType) → KeyTable (ApiKey t)) (access : List (Uuid × Uuid)) :
    Revoking (KeyPool.at keys access) :=
  ⟨fun _ hr => absurd hr List.not_mem_nil, fun _ _ ht => nomatch (List.getElem?_nil.symm.trans ht)⟩

theorem revocation_stands (keys : (t : ApiKeyType) → KeyTable (ApiKey t)) (access : List (Uuid × Uuid))
    (ticks : List KeyTick) (h : Meets (Pool.step (keyScheme hashApiKey)) UpToDate (KeyPool.at keys access) ticks) :
    Revoked (ticks.foldl (Pool.step (keyScheme hashApiKey)) (KeyPool.at keys access)).state :=
  (Meets.invariant Revoking (fun _ tick h hc => h.step hashApiKey tick hc) (revoking_at keys access) h).revoked

section calls

def granted : (i : KeyOp) → i.Reply
  | .newV4 | .utcNow => 0
  | .generateApiKey _ => ("scp_d_new", "scp_d_new")
  | .getByKey _ _ | .getById _ _ => .ok none
  | .create _ | .update _ _ _ _ | .deleteAccess _ | .createAccess _ _ => .ok ()
  | .networkAccess _ | .validateTags _ _ => .ok []
  | .apiAccess _ => .ok (some (some true))

def daemonKey (isEnabled : Bool) (lastUsed : Option Instant) : DaemonApiKey :=
  ⟨1, 0, 0, ⟨"scp_d_old", "office", lastUsed, none, 9, isEnabled, []⟩⟩

def oneKey : (t : ApiKeyType) → KeyTable (ApiKey t)
  | .daemon => ⟨[daemonKey true none], List.pairwise_singleton _ _⟩
  | .user => .empty

def member : AuthenticatedEntity := .user 3 4 .member [9] "anna"

/-- The daemon's requests, the key disabled, and the key rotated. -/
def polls : KeyCall := .authenticate "scp_d_old" (some 7)

def disables : KeyCall := .updateDaemonApiKey member 1 (daemonKey false none)

def rotates : KeyCall := .rotateKey member .daemon 1

def runs (i times : ℕ) : List KeyTick := List.replicate times (.run i granted)

theorem revocation_stands_in_turn : Revoked ((.spawn polls :: runs 0 6 ++ .spawn rotates :: runs 1 5 ++
    .spawn disables :: runs 2 6 ++ .spawn polls :: runs 3 6).foldl (Pool.step (keyScheme id)) (KeyPool.at oneKey [])).state :=
  revocation_stands id oneKey [] _ (by decide +kernel)

/-- The key is disabled between the read of a request and its last write. -/
theorem disabled_key_enabled_again : ¬ ∀ (hashApiKey : String → String) (keys : (t : ApiKeyType) → KeyTable (ApiKey t))
    (access : List (Uuid × Uuid)) (ticks : List KeyTick),
    Revoked (ticks.foldl (Pool.step (keyScheme hashApiKey)) (KeyPool.at keys access)).state := by
  intro h
  have hdisabled := h id oneKey [] (.spawn polls :: runs 0 5 ++ .spawn disables :: runs 1 6 ++ runs 0 1)
    (.disabled .daemon 1) (by decide +kernel) .daemon (daemonKey true (some 0)) (by decide +kernel) rfl rfl
  exact absurd hdisabled (by decide)

end calls

end runs

end VantageNet.ApiKeys
