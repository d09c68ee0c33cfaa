import VantageNet.Scanning.Paths

/-!
The window of futures of `batch_scan` and the items that `scan_endpoints` hands to it (`daemon/utils/scanner.rs`), with
a token that is never cancelled.
-/

namespace VantageNet.Scanning

open Interaction Inventory

/-- `started` are the items that `scan_fn` has been called with. -/
structure Batch (τ β : Type) where
  itemIter : List τ
  futures : List τ
  started : List τ
  results : List β

namespace Batch

variable {τ β : Type}

def push (b : Batch τ β) (item : τ) (itemIter : List τ) : Batch τ β :=
  { b with itemIter, futures := b.futures ++ [item], started := b.started ++ [item] }

/-- The loop `for _ in 0..batch_size`. -/
def fill : ℕ → Batch τ β → Batch τ β
  | 0, b => b
  | n + 1, b =>
    match b.itemIter with
    | item :: rest => fill n (b.push item rest)
    | [] => b

/-- The loop `while futures.len() < batch_size`. -/
def refill (batchSize : ℕ) : List τ → Batch τ β → Batch τ β
  | [], b => b
  | item :: rest, b => if b.futures.length < batchSize then refill batchSize rest (b.push item rest) else b

def begin (items : List τ) (batchSize : ℕ) : Batch τ β := fill batchSize ⟨items, [], [], []⟩

/-- What follows when `futures.next()` answers for the future at `i`. -/
def complete (batchSize : ℕ) (b : Batch τ β) (i : ℕ) (result : Option β) : Batch τ β :=
  refill batchSize b.itemIter { b with futures := b.futures.eraseIdx i, results := b.results ++ result.toList }

/-- Any of the futures is the next one to complete, with an outcome that its item may have. -/
inductive Step (batchSize : ℕ) (outcome : τ → Option β → Prop) : Batch τ β → Batch τ β → Prop
  | completes {b : Batch τ β} {i : ℕ} {item : τ} {result : Option β} (hitem : b.futures[i]? = some item)
      (hresult : outcome item result) : Step batchSize outcome b (b.complete batchSize i result)

abbrev Reaches (batchSize : ℕ) (outcome : τ → Option β → Prop) : Batch τ β → Batch τ β → Prop :=
  Relation.ReflTransGen (Step batchSize outcome)

/-- The next `n` items are taken at once. -/
def take (n : ℕ) (b : Batch τ β) : Batch τ β :=
  ⟨b.itemIter.drop n, b.futures ++ b.itemIter.take n, b.started ++ b.itemIter.take n, b.results⟩

theorem fill_eq (n : ℕ) (b : Batch τ β) : fill n b = b.take n := by
  induction n generalizing b with
  | zero => simp [fill, take]
  | succ n ih =>
    rw [fill]
    split
    · rename_i item rest hiter
      simp only [ih, take, push, hiter, List.drop_succ_cons, List.take_succ_cons, List.append_assoc, List.singleton_append]
    · rename_i hiter
      simp only [take, hiter, List.drop_nil, List.take_nil, List.append_nil]
      rw [← hiter]

theorem refill_eq {batchSize : ℕ} (b : Batch τ β) : refill batchSize b.itemIter b = b.take (batchSize - b.futures.length) := by
  have hfrom (iter : List τ) (b : Batch τ β) (hiter : b.itemIter = iter) :
      refill batchSize iter b = b.take (batchSize - b.futures.length) := by
    induction iter generalizing b with
    | nil =>
      simp only [refill, take, hiter, List.drop_nil, List.take_nil, List.append_nil]
      rw [← hiter]
    | cons item rest ih =>
      rw [refill]
      split_ifs with hroom
      · obtain ⟨n, hn⟩ : ∃ n, batchSize - b.futures.length = n + 1 := ⟨batchSize - b.futures.length - 1, by omega⟩
        have hless : batchSize - (b.push item rest).futures.length = n := by
          simp only [push, List.length_append, List.length_singleton]
          omega
        rw [ih (b.push item rest) rfl, hless, hn]
        simp only [take, push, hiter, List.drop_succ_cons, List.take_succ_cons, List.append_assoc, List.singleton_append]
      · rw [Nat.sub_eq_zero_of_le (Nat.le_of_not_lt hroom)]
        simp only [take, List.drop_zero, List.take_zero, List.append_nil]
  exact hfrom b.itemIter b rfl

theorem complete_eq (batchSize : ℕ) (b : Batch τ β) (i : ℕ) (result : Option β) :
    b.complete batchSize i result = take (batchSize - (b.futures.eraseIdx i).length)
      { b with futures := b.futures.eraseIdx i, results := b.results ++ result.toList } :=
  refill_eq { b with futures := b.futures.eraseIdx i, results := b.results ++ result.toList }

/-- Every item waits, is in flight or has completed. -/
structure Accounts (items : List τ) (batchSize : ℕ) (outcome : τ → Option β → Prop) (b : Batch τ β) : Prop where
  items : b.started ++ b.itemIter = items
  inFlight : b.futures.length ≤ batchSize
  completed : ∃ completed : List (τ × Option β), (completed.map Prod.fst ++ b.futures).Perm b.started ∧
    b.results = completed.flatMap (fun c => c.2.toList) ∧ ∀ c ∈ completed, outcome c.1 c.2

variable {items : List τ} {batchSize : ℕ} {outcome : τ → Option β → Prop} {b b' : Batch τ β}

theorem Accounts.take (h : Accounts items batchSize outcome b) :
    Accounts items batchSize outcome (b.take (batchSize - b.futures.length)) := by
  refine ⟨?_, ?_, ?_⟩
  · rw [Batch.take, List.append_assoc, List.take_append_drop, h.items]
  · have hinFlight := h.inFlight
    simp only [Batch.take, List.length_append, List.length_take]
    omega
  · obtain ⟨completed, hperm, hresults, houtcome⟩ := h.completed
    refine ⟨completed, ?_, hresults, houtcome⟩
    rw [Batch.take, ← List.append_assoc]
    exact hperm.append_right _

theorem itemIter_take (hbatch : 0 < batchSize) (h : (b.take (batchSize - b.futures.length)).futures = []) :
    (b.take (batchSize - b.futures.length)).itemIter = [] := by
  obtain ⟨hfutures, hitems⟩ := List.append_eq_nil_iff.mp h
  rw [hfutures, List.length_nil, Nat.sub_zero] at hitems ⊢
  rcases List.take_eq_nil_iff.mp hitems with hzero | hitems
  · omega
  · rw [Batch.take, hitems, List.drop_nil]

theorem accounts_begin (items : List τ) (batchSize : ℕ) (outcome : τ → Option β → Prop) :
    Accounts items batchSize outcome (begin items batchSize) := by
  rw [begin, fill_eq]
  exact Accounts.take (b := ⟨items, [], [], []⟩) ⟨List.nil_append items, Nat.zero_le batchSize, [], .refl _, rfl, nofun⟩

theorem Step.accounts (hstep : Step batchSize outcome b b') (h : Accounts items batchSize outcome b) :
    Accounts items batchSize outcome b' := by
  obtain ⟨hitem, hresult⟩ := hstep
  rename_i i item result
  obtain ⟨hi, rfl⟩ := List.getElem?_eq_some_iff.mp hitem
  obtain ⟨completed, hperm, hresults, houtcome⟩ := h.completed
  rw [complete_eq]
  apply Accounts.take (b := { b with futures := b.futures.eraseIdx i, results := b.results ++ result.toList })
  refine ⟨h.items, (List.length_eraseIdx_le _ _).trans h.inFlight, completed ++ [(b.futures[i], result)], ?_, ?_, ?_⟩
  · rw [List.map_append, List.append_assoc]
    exact ((List.getElem_cons_eraseIdx_perm hi).append_left _).trans hperm
  · rw [List.flatMap_append, hresults]
    simp
  · intro c hc
    rcases List.mem_append.mp hc with hc | hc
    · exact houtcome c hc
    · rw [List.mem_singleton.mp hc]
      exact hresult

/-- Nothing waits while nothing is in flight. -/
def Filled (b : Batch τ β) : Prop := b.futures = [] → b.itemIter = []

theorem filled_begin (hbatch : 0 < batchSize) : Filled (begin items batchSize : Batch τ β) := by
  rw [begin, fill_eq]
  exact itemIter_take (b := ⟨items, [], [], []⟩) hbatch

theorem Step.filled (hbatch : 0 < batchSize) (hstep : Step batchSize outcome b b') : Filled b' := by
  obtain ⟨hitem, hresult⟩ := hstep
  rename_i i item result
  rw [complete_eq]
  exact itemIter_take hbatch

theorem Reaches.accounts (h : Reaches batchSize outcome (begin items batchSize) b) : Accounts items batchSize outcome b := by
  induction h with
  | refl => exact accounts_begin items batchSize outcome
  | tail _ hstep ih => exact hstep.accounts ih

theorem Reaches.filled (hbatch : 0 < batchSize) (h : Reaches batchSize outcome (begin items batchSize) b) : Filled b := by
  rcases Relation.ReflTransGen.cases_tail h with rfl | ⟨c, -, hstep⟩
  · exact filled_begin hbatch
  · exact hstep.filled hbatch

/-- The items that have not completed. -/
def pending (b : Batch τ β) : ℕ := b.itemIter.length + b.futures.length

theorem Step.pending_eq (hstep : Step batchSize outcome b b') : b'.pending + 1 = b.pending := by
  obtain ⟨hitem, hresult⟩ := hstep
  rename_i i item result
  obtain ⟨hi, -⟩ := List.getElem?_eq_some_iff.mp hitem
  have hlength := List.length_eraseIdx_of_lt hi
  rw [complete_eq]
  simp only [pending, Batch.take, List.length_drop, List.length_append, List.length_take, hlength]
  omega

/-- The batch and the window that it is complete their items in step. -/
theorem exists_drained {scanFn : τ → Option β} (pick : ℕ → ℕ) (hbatch : 0 < batchSize) {n : ℕ} {w : Window τ} {b : Batch τ β}
    (hlimit : w.limit = batchSize) (hwaiting : w.waiting = b.itemIter) (hrunning : w.running = b.futures) (hfilled : Filled b)
    (hpending : b.pending ≤ n) : ∃ b', Reaches batchSize (fun item result => result = scanFn item) b b' ∧ b'.futures = [] ∧
      b'.results = b.results ++ Window.drain scanFn pick n w := by
  induction n generalizing w b with
  | zero => exact ⟨b, .refl, List.length_eq_zero_iff.mp (Nat.add_eq_zero_iff.mp (Nat.le_zero.mp hpending)).2, (List.append_nil _).symm⟩
  | succ n ih =>
    rw [Window.drain]
    cases hitem : w.running[pick n % w.running.length]? with
    | none =>
      have hnil : w.running = [] := by
        by_contra hne
        have hlt := Nat.mod_lt (pick n) (List.length_pos_iff.mpr hne)
        rw [List.getElem?_eq_none_iff] at hitem
        omega
      exact ⟨b, .refl, hrunning ▸ hnil, (List.append_nil _).symm⟩
    | some item =>
      generalize hi : pick n % w.running.length = i at hitem
      have hstep : Step batchSize (fun item result => result = scanFn item) b (b.complete batchSize i (scanFn item)) :=
        .completes (hrunning ▸ hitem) rfl
      obtain ⟨b', hreaches, hended, hresults⟩ := ih (w := w.finish i) (b := b.complete batchSize i (scanFn item)) hlimit
        (by simp only [complete_eq, take, Window.finish, Window.refill, hlimit, hwaiting, hrunning])
        (by simp only [complete_eq, take, Window.finish, Window.refill, hlimit, hwaiting, hrunning])
        (hstep.filled hbatch) (by have := hstep.pending_eq; omega)
      refine ⟨b', .head hstep hreaches, hended, ?_⟩
      rw [hresults, complete_eq]
      exact List.append_assoc _ _ _

/-- What `batchScan` returns is the result of a run. -/
theorem exists_batchScan (items : List τ) (hbatch : 0 < batchSize) (pick : ℕ → ℕ) (scanFn : τ → Option β) :
    ∃ b, Reaches batchSize (fun item result => result = scanFn item) (begin items batchSize) b ∧ b.futures = [] ∧
      b.results = batchScan items batchSize pick scanFn := by
  have hbegin : (begin items batchSize : Batch τ β) = ⟨items.drop batchSize, items.take batchSize, items.take batchSize, []⟩ := by
    rw [begin, fill_eq, take, List.nil_append]
  have hpending : (begin items batchSize : Batch τ β).pending ≤ items.length := by
    rw [hbegin, pending, List.length_drop, List.length_take]
    omega
  obtain ⟨b, hreaches, hended, hresults⟩ : ∃ b,
      Reaches batchSize (fun item result => result = scanFn item) (begin items batchSize) b ∧ b.futures = [] ∧
        b.results = (begin items batchSize).results ++ Window.drain scanFn pick items.length (Window.start batchSize items) :=
    exists_drained pick hbatch rfl (by rw [hbegin]; rfl) (by rw [hbegin]; rfl) (filled_begin hbatch) hpending
  refine ⟨b, hreaches, hended, ?_⟩
  rw [hresults, hbegin]
  rfl

end Batch

section endpoints

variable {ρ : Type}

def passesFilter (filterPorts : Option (List PortConfig)) (e : Endpoint) : Bool :=
  match filterPorts with
  | some filterPorts => e.portType ∈ filterPorts
  | none => true

/-- The values of `unique_endpoints`, in the order in which they were put in. -/
def endpointsToScan (definitions : ServiceDefinitions) (filterPorts : Option (List PortConfig)) : List Endpoint :=
  uniqueEndpoints (definitions.allDiscoveryEndpoints.filter (passesFilter filterPorts))

def endpointBatchSize (batchSize : ℕ) : ℕ := min (batchSize / 2) 50

/-- What is done for an endpoint, where `get` is what the requests are answered with. -/
def requestEndpoint (ip : IpAddr) (useHttpsPorts : Option (HashMap UInt16 Bool)) (get : Url → Option ρ) (endpoint : Endpoint) :
    Option (Endpoint × ρ) :=
  let httpsPorts := useHttpsPorts.getD ∅
  let useHttps := (httpsPorts.get endpoint.portType.number).getD false
  let urls := if useHttpsPorts.isNone then endpoint.urls ip false else endpoint.urls ip useHttps
  (urls.findSome? get).map (fun response => (endpoint, response))

/-- The scan of `scanEndpoints` goes through these endpoints in this way. -/
theorem responses_scanEndpoints (host : HostBehaviour ρ) (definitions : ServiceDefinitions) (σ : Schedule) (ip : IpAddr)
    (filterPorts : List PortConfig) (httpsPorts : HashMap UInt16 Bool) (batchSize : ℕ) :
    (scanEndpoints host definitions σ ip filterPorts httpsPorts batchSize).responses =
      batchScan (σ.values (endpointsToScan definitions (some filterPorts))) (endpointBatchSize batchSize) σ.endpoints
        (requestEndpoint ip (some httpsPorts) host.get) := rfl

end endpoints

end VantageNet.Scanning
