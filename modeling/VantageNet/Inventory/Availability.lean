import VantageNet.Inventory.Exclusivity

/-!
The two checks of claims against the other services of a host: the one that sorts out the bindings of
discovered services, and the one that refuses those of a user.
-/

namespace VantageNet.Inventory

open Interaction Interaction.Program

/-- The storage carries out every query. -/
def Answers (ω : Oracle dbSig) : Prop := ∀ n k p order, ∃ rows, ω n (.list k p order) = .ok rows

section answered

variable {ω : Oracle dbSig} {hostId serviceId : Uuid} {bindings : List Binding}

theorem run_getAllOrdered_answered (hω : Answers ω) (n : ℕ) (db : Db) (k : Kind) (filter : Row k → Bool) (order : Row k → ℤ) :
    ∃ rows, run dbStep ω n (Storage.getAllOrdered k filter order) db = ⟨.ok rows, n + 1, db⟩ := by
  obtain ⟨rows, hrows⟩ := hω n k filter order
  refine ⟨arrange order ((db.table k).rows.filter filter) rows, ?_⟩
  rw [Storage.getAllOrdered, run_op]
  simp only [dbStep, hrows]
  rfl

theorem run_serviceGetAll_answered (hω : Answers ω) (n : ℕ) (db : Db) (filter : Service → Bool) :
    ∃ services m, run dbStep ω n (ServiceService.getAll filter) db = ⟨.ok services, m, db⟩ ∧ Loaded db filter services := by
  have hensures : Ensures dbStep (fun _ _ _ => True)
      (fun r t => t = db ∧ ∀ services, r = .ok services → Loaded db filter services) (ServiceService.getAll filter) db :=
    ensures_serviceGetAll (fun _ => ⟨rfl, nofun⟩) (fun services h => ⟨rfl, fun _ heq => Except.ok.inj heq ▸ h⟩)
  have hloaded := hensures.run_any ω n
  have hok : ∃ services m, run dbStep ω n (ServiceService.getAll filter) db = ⟨.ok services, m, db⟩ := by
    obtain ⟨rows, hrows⟩ := run_getAllOrdered_answered hω n db .service filter (fun r => r.createdAt)
    unfold ServiceService.getAll
    rw [bind_eq, run_bind, Storage.getAll, hrows]
    dsimp only
    split_ifs
    · exact ⟨rows, _, rfl⟩
    · obtain ⟨bs, hbs⟩ := run_getAllOrdered_answered hω (n + 1) db .binding
        (fun b : Binding => (rows.map Entity.id).contains b.base.serviceId) (fun r => r.createdAt)
      rw [bind_eq, run_bind, Storage.getAll, hbs]
      exact ⟨_, _, rfl⟩
  obtain ⟨services, m, hrun⟩ := hok
  rw [hrun] at hloaded
  exact ⟨services, m, hrun, hloaded.2 services rfl⟩

theorem firstClaimed_eq_none_iff {others : List Service} {bindings : List Binding} :
    ServiceService.firstClaimed others bindings = none ↔
      ∀ b ∈ bindings, claimed (others.map (fun s => claims s.base.bindings)).flatten b = false := by
  induction bindings with
  | nil => exact iff_of_true rfl (fun _ hb => absurd hb List.not_mem_nil)
  | cons b rest ih =>
    rw [ServiceService.firstClaimed, List.forall_mem_cons, claimed]
    cases b.base.bindingType.claim with
    | none => simpa using ih
    | some claim =>
      dsimp only
      rw [List.any_flatten, List.any_map]
      cases hfind : others.find? (fun s => (claims s.base.bindings).any (overlaps claim)) with
      | none =>
        have hnone : others.any ((fun l => l.any (overlaps claim)) ∘ fun s => claims s.base.bindings) = false := by
          rw [List.any_eq_false]
          exact List.find?_eq_none.mp hfind
        simpa [hnone] using ih
      | some owner =>
        have hsome : others.any ((fun l => l.any (overlaps claim)) ∘ fun s => claims s.base.bindings) = true :=
          List.any_eq_true.mpr ⟨owner, List.mem_of_find?_eq_some hfind, List.find?_some hfind⟩
        simp [hsome]

theorem run_validateBindingsAvailable (hω : Answers ω) (n : ℕ) (db : Db) :
    (run dbStep ω n (ServiceService.validateBindingsAvailable hostId serviceId bindings) db).result = .ok () ↔
      ∀ b ∈ bindings, claimed (claims (db.othersOn hostId serviceId)) b = false := by
  unfold ServiceService.validateBindingsAvailable
  cases bindings with
  | nil => exact iff_of_true rfl (fun _ hb => absurd hb List.not_mem_nil)
  | cons b rest =>
    obtain ⟨services, m, hrun, hloaded⟩ := run_serviceGetAll_answered hω n db (fun s => s.base.hostId = hostId)
    have hclaimed := claimed_congr (fun c => hloaded.mem_claims serviceId c)
    rw [List.isEmpty_cons, if_neg Bool.false_ne_true, bind_eq, run_bind, ServiceService.getForHost, hrun]
    dsimp only
    simp only [← hclaimed]
    rw [← firstClaimed_eq_none_iff]
    cases ServiceService.firstClaimed (services.filter (fun s => s.id ≠ serviceId)) (b :: rest) with
    | none => exact iff_of_true rfl rfl
    | some taken =>
      obtain ⟨ports, hports⟩ := run_getAllOrdered_answered hω m db .port
        (fun p : Port => p.base.hostId = hostId) (fun r => r.createdAt)
      refine iff_of_false (fun h => ?_) nofun
      dsimp only at h
      rw [bind_eq, run_bind, ServiceService.portsForHost, Storage.getAll, hports] at h
      cases h

theorem run_partitionConflictingBindings {n : ℕ} {db : Db} {batchClaimed : List Claim} {valid conflicting : List Binding}
    (h : (run dbStep ω n (ServiceService.partitionConflictingBindings hostId serviceId bindings batchClaimed) db).result =
      .ok (valid, conflicting)) :
    valid = bindings.filter (fun b => !claimed (claims (db.othersOn hostId serviceId) ++ batchClaimed) b) ∧
      conflicting = bindings.filter (claimed (claims (db.othersOn hostId serviceId) ++ batchClaimed)) := by
  have hensures : Ensures dbStep (fun _ _ _ => True)
      (fun r _ => ∀ valid conflicting, r = .ok (valid, conflicting) →
        valid = bindings.filter (fun b => !claimed (claims (db.othersOn hostId serviceId) ++ batchClaimed) b) ∧
          conflicting = bindings.filter (claimed (claims (db.othersOn hostId serviceId) ++ batchClaimed)))
      (ServiceService.partitionConflictingBindings hostId serviceId bindings batchClaimed) db :=
    ensures_partitionConflictingBindings (fun _ _ _ h => (nomatch h)) (fun _ _ h => by cases h; exact ⟨rfl, rfl⟩)
  exact hensures.run_any ω n valid conflicting h

end answered

/-- What discovery sorts out as conflicting is what a user is refused, and nothing else is: where both are carried out on
one store. -/
theorem conflict_checks_agree (db : Db) (hostId serviceId : Uuid) (bindings : List Binding) (batchClaimed : List Claim)
    (ω ω' : Oracle dbSig) (n n' : ℕ) (hω' : Answers ω') {valid conflicting : List Binding}
    (h : (run dbStep ω n (ServiceService.partitionConflictingBindings hostId serviceId bindings batchClaimed) db).result =
      .ok (valid, conflicting)) :
    (batchClaimed = [] → (conflicting = [] ↔
      (run dbStep ω' n' (ServiceService.validateBindingsAvailable hostId serviceId bindings) db).result = .ok ())) ∧
      (valid.Sublist bindings ∧ conflicting.Sublist bindings ∧ (valid ++ conflicting).Perm bindings) ∧
      (run dbStep ω' n' (ServiceService.validateBindingsAvailable hostId serviceId valid) db).result = .ok () := by
  obtain ⟨rfl, rfl⟩ := run_partitionConflictingBindings h
  refine ⟨?_, ⟨List.filter_sublist, List.filter_sublist, ?_⟩, ?_⟩
  · rintro rfl
    rw [run_validateBindingsAvailable hω', List.append_nil, List.filter_eq_nil_iff]
    simp only [Bool.not_eq_true]
  · exact List.perm_append_comm.trans (List.filter_append_perm _ bindings)
  · rw [run_validateBindingsAvailable hω']
    intro b hb
    have hfree : claimed (claims (db.othersOn hostId serviceId) ++ batchClaimed) b = false := by
      simpa using (List.mem_filter.mp hb).2
    rw [Bool.eq_false_iff] at hfree ⊢
    intro hclaimed
    obtain ⟨c, hc, hoverlaps⟩ := claimed_iff.mp hclaimed
    exact hfree (claimed_iff.mpr ⟨c, List.mem_append_left _ hc, hoverlaps⟩)

/-- Another service asks for port 80, which the stored one has on all interfaces, and for an interface. -/
theorem conflict_checks_agree_taken :
    let bindings := [webBinding 30 (.port 4 (some 2)), webBinding 31 (.interface 3)]
    let validate := fun bindings =>
      (run dbStep (granted 0) 0 (ServiceService.validateBindingsAvailable 1 20 bindings) webOn80).result
    (run dbStep (granted 0) 0 (ServiceService.partitionConflictingBindings 1 20 bindings []) webOn80).result =
        .ok ([webBinding 31 (.interface 3)], [webBinding 30 (.port 4 (some 2))]) ∧
      validate bindings ≠ .ok () ∧ validate [webBinding 31 (.interface 3)] = .ok () := by
  intro bindings validate
  have hpartition : (run dbStep (granted 0) 0 (ServiceService.partitionConflictingBindings 1 20 bindings []) webOn80).result =
      .ok ([webBinding 31 (.interface 3)], [webBinding 30 (.port 4 (some 2))]) := by decide +kernel
  have hanswers : Answers (granted 0) := fun _ _ _ _ => ⟨[], rfl⟩
  obtain ⟨hagree, -, hkept⟩ := conflict_checks_agree webOn80 1 20 bindings [] (granted 0) (granted 0) 0 0 hanswers hpartition
  exact ⟨hpartition, fun hok => absurd ((hagree rfl).mpr hok) nofun, hkept⟩

end VantageNet.Inventory
