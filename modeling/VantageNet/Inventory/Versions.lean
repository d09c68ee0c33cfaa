import VantageNet.Interaction.Tracking
import VantageNet.Inventory.Atomicity

/-!
Calls of `update_from_request` beside each other: which of them succeed when they expect one
version of their host.
-/

namespace VantageNet.Inventory

open Interaction Interaction.Program

inductive UpdateStage where
  | reading
  | checked
  | written
  deriving DecidableEq

/-- How far a call has come. -/
structure Updater where
  hostId : Uuid
  expected : Option Instant
  stage : UpdateStage
  deriving DecidableEq

def Updater.start (request : UpdateHostRequest) : Updater := ⟨request.id, request.expectedUpdatedAt, .reading⟩

def Updater.sameVersion (a b : Updater) : Prop := a.hostId = b.hostId ∧ a.expected = b.expected

instance (a b : Updater) : Decidable (a.sameVersion b) :=
  inferInstanceAs (Decidable (a.hostId = b.hostId ∧ a.expected = b.expected))

def Updater.ok (a : Updater) : DbOp → Prop
  | .update .host (row : Host) => a.stage = .checked ∧ row.id = a.hostId
  | .create .host _ | .delete .host _ => False
  | _ => True

def Updater.next (a : Updater) : (o : DbOp) → o.Reply → Updater
  | .get .host id, .ok (some (host : Host)) =>
    if a.stage = .reading ∧ id = a.hostId ∧ HostService.modifiedSince a.expected host.updatedAt = false then
      { a with stage := .checked }
    else a
  | .update .host _, .ok _ => { a with stage := .written }
  | _, _ => a

def updating : Tracking dbSig Error Lock UpdateHostRequest Db Updater where
  scheme := ⟨fun request => (HostService.updateFromRequest request).bind (fun _ => .ret ()), DbOp.lockAction, dbStep⟩
  monitor := ⟨Updater.ok, fun _ _ => True, Updater.next⟩
  start := Updater.start

abbrev UpdateRun := Tracked dbSig Error Lock UpdateHostRequest Db Updater

abbrev UpdateTick := Tick dbSig UpdateHostRequest

section programs

variable {α : Type} {K : List Kind} {a : Updater}

theorem Updater.ok_of_not_writes {o : DbOp} (ho : .host ∉ o.writes) : a.ok o := by
  cases o with
  | create k row | update k row | delete k row =>
    cases k with
    | host => exact absurd (by simp [DbOp.writes, Kind.cascade]) ho
    | _ => trivial
  | _ => trivial

theorem Updater.next_written (ha : a.stage = .written) (o : DbOp) (r : o.Reply) : (a.next o r).stage = .written := by
  cases o with
  | get k id =>
    rcases r with e | _ | host
    · cases k <;> exact ha
    · cases k <;> exact ha
    · cases k with
      | host =>
        change (if a.stage = .reading ∧ _ then _ else a).stage = .written
        rw [if_neg (by simp [ha])]
        exact ha
      | _ => exact ha
  | update k row =>
    rcases r with e | ⟨⟩
    · cases k <;> exact ha
    · cases k with
      | host => rfl
      | _ => exact ha
  | create k row => cases k <;> exact ha
  | _ => exact ha

theorem follows_written {p : Query α} (hp : Touches K p) (hhost : .host ∉ K) (ha : a.stage = .written) :
    Follows updating.monitor (fun _ b => b.stage = .written) a p := by
  induction p generalizing a with
  | ret x => exact ha
  | fail e => trivial
  | op o k ih =>
    exact ⟨a.ok_of_not_writes (fun h => hhost (hp.1 h)), fun r _ => ih r (hp.2 r trivial) (a.next_written ha o r)⟩

theorem follows_hostUpdate (host : Host) (hid : host.id = a.hostId) (ha : a.stage = .checked) :
    Follows updating.monitor (fun _ b => b.stage = .written) a (HostService.update host) := by
  have hget (r : Except Error (Option (Row .host))) : a.next (.get .host host.id) r = a := by
    rcases r with e | _ | existing
    · rfl
    · rfl
    · exact if_neg (by simp [ha])
  refine ⟨trivial, fun _ _ => ⟨trivial, fun r _ => ?_⟩⟩
  change Follows updating.monitor _ (a.next (.get .host host.id) r) _
  rw [hget]
  rcases r with e | _ | existing
  · trivial
  · trivial
  · refine ⟨trivial, fun now _ => ⟨⟨ha, hid⟩, fun r _ => ?_⟩⟩
    rcases r with e | ⟨⟩
    · trivial
    · exact ⟨trivial, fun _ _ => rfl⟩

theorem follows_updateFromRequest (request : UpdateHostRequest) :
    Follows updating.monitor (fun _ a => a.stage = .written) (Updater.start request)
      ((HostService.updateFromRequest request).bind (fun _ => .ret ())) := by
  apply Follows.bind
  refine ⟨trivial, fun r hr => ?_⟩
  rcases r with e | _ | existing
  · trivial
  · trivial
  · change Follows updating.monitor _ ((Updater.start request).next (.get .host request.id) (.ok (some existing)))
      (if _ then fail _ else _)
    split_ifs with hmodified
    · trivial
    · have hchecked : (Updater.start request).next (.get .host request.id) (.ok (some existing)) =
          ⟨request.id, request.expectedUpdatedAt, .checked⟩ := 
        if_pos ⟨rfl, rfl, Bool.not_eq_true _ ▸ hmodified⟩
      rw [hchecked]
      apply Follows.bind
      apply (follows_hostUpdate (HostService.requestedHost request existing) rfl rfl).imp
      intro updated b hb
      apply Follows.bind
      apply (follows_written (HostService.touches_syncChildren _ _ _) (by simp [childKinds]) hb).imp
      rintro ⟨interfaces, ports, services⟩ c hc
      exact hc

end programs

/-- Having written its host, or about to. -/
def Engaged (w : UpdateRun) (j : ℕ) : Prop :=
  (w.points j).stage = .written ∨ (w.points j).stage = .checked ∧ w.running j = true

structure Versioned (w : UpdateRun) : Prop where
  follows : ∀ j p, w.prog j = some p → Follows updating.monitor (fun _ a => a.stage = .written) (w.points j) p
  call : ∀ (j : ℕ) t, w.pool.threads[j]? = some t →
    (w.points j).hostId = t.call.id ∧ (w.points j).expected = t.call.expectedUpdatedAt
  written : ∀ j < w.pool.threads.length, (w.points j).stage = .written → ∀ host ∈ w.pool.state.hosts.rows,
    host.id = (w.points j).hostId → HostService.modifiedSince (w.points j).expected host.updatedAt = true
  apart : ∀ i < w.pool.threads.length, ∀ j < w.pool.threads.length, i ≠ j →
    (w.points i).sameVersion (w.points j) → Engaged w i → ¬ Engaged w j

/-- A check comes upon no other call between its check and its write, and a write is seen by whoever has written. -/
def Orderly (w : UpdateRun) (i : ℕ) : DbOp → Bool
  | .get .host _ => decide ((w.points i).stage = .reading → ∀ j < w.pool.threads.length, j ≠ i →
      (w.points i).sameVersion (w.points j) → ¬ ((w.points j).stage = .checked ∧ w.running j = true))
  | .update .host (row : Host) => decide (∀ j < w.pool.threads.length, (w.points j).stage = .written ∨ j = i →
      (w.points j).hostId = row.id → HostService.modifiedSince (w.points j).expected row.updatedAt = true)
  | _ => true

def OrderlyTick (w : UpdateRun) : UpdateTick → Bool
  | .spawn _ => true
  | .run i _ =>
    match w.prog i with
    | some (.op o _) => Orderly w i o
    | _ => true

theorem Versioned.passes {w w' : UpdateRun} (h : Versioned w) (hpass : Tracking.Passes w w') : Versioned w' := by
  have hrunning (j : ℕ) : w'.running j = w.running j := by
    unfold Tracked.running
    rw [hpass.prog j]
  have hengaged {j : ℕ} (hj : Engaged w' j) : Engaged w j := by
    unfold Engaged at hj ⊢
    rwa [hpass.points, hrunning] at hj
  constructor
  · intro j p hp
    rw [hpass.points]
    exact h.follows j p (hpass.prog j ▸ hp)
  · intro j t ht
    rw [hpass.points]
    have hcall := hpass.call j
    rw [ht] at hcall
    obtain ⟨u, hu, huc⟩ := Option.map_eq_some_iff.mp hcall.symm
    rw [← huc]
    exact h.call j u hu
  · rw [hpass.points, hpass.state, hpass.length]
    exact h.written
  · rw [hpass.points, hpass.length]
    exact fun i hi j hj hij hsame hei hej => h.apart i hi j hj hij hsame (hengaged hei) (hengaged hej)

theorem Versioned.spawn {w : UpdateRun} (h : Versioned w) (request : UpdateHostRequest) :
    Versioned (updating.step w (.spawn request)) := by
  have hlength : (updating.step w (.spawn request)).pool.threads.length = w.pool.threads.length + 1 := by
    simp [Tracking.step, Pool.step]
  have hnew : ((updating.step w (.spawn request)).points w.pool.threads.length).stage = .reading := by
    rw [Tracking.points_spawn_self]
    rfl
  have hnot : ¬ Engaged (updating.step w (.spawn request)) w.pool.threads.length := by
    unfold Engaged
    rw [hnew]
    simp
  have hold {j : ℕ} (hj : j < w.pool.threads.length + 1) (hne : j ≠ w.pool.threads.length) :
      j < w.pool.threads.length ∧ (updating.step w (.spawn request)).points j = w.points j ∧
        (Engaged (updating.step w (.spawn request)) j → Engaged w j) := by
    refine ⟨by omega, Tracking.points_spawn_of_ne request hne, fun hengaged => ?_⟩
    unfold Engaged at hengaged
    rwa [Tracking.points_spawn_of_ne request hne, Tracking.running_spawn_of_ne request hne] at hengaged
  constructor
  · intro j p hp
    rw [Tracking.prog_spawn] at hp
    split_ifs at hp with hj
    · cases hp
      rw [hj, Tracking.points_spawn_self]
      exact follows_updateFromRequest request
    · rw [Tracking.points_spawn_of_ne request hj]
      exact h.follows j p hp
  · intro j t ht
    change (w.pool.threads ++ [_])[j]? = some t at ht
    by_cases hj : j = w.pool.threads.length
    · rw [hj, List.getElem?_concat_length] at ht
      cases ht
      rw [hj, Tracking.points_spawn_self]
      exact ⟨rfl, rfl⟩
    · have hlt : j < (w.pool.threads ++ [_]).length := (List.getElem?_eq_some_iff.mp ht).1
      rw [List.length_append, List.length_singleton] at hlt
      rw [List.getElem?_append_left (by omega)] at ht
      rw [Tracking.points_spawn_of_ne request hj]
      exact h.call j t ht
  · intro j hj hwritten
    rw [hlength] at hj
    by_cases hne : j = w.pool.threads.length
    · rw [hne, hnew] at hwritten
      cases hwritten
    · obtain ⟨hlt, hpoint, -⟩ := hold hj hne
      rw [hpoint] at hwritten ⊢
      exact h.written j hlt hwritten
  · intro i hi j hj hij hsame hei hej
    rw [hlength] at hi hj
    by_cases hni : i = w.pool.threads.length
    · exact hnot (hni ▸ hei)
    · by_cases hnj : j = w.pool.threads.length
      · exact hnot (hnj ▸ hej)
      · obtain ⟨hilt, hipoint, hiold⟩ := hold hi hni
        obtain ⟨hjlt, hjpoint, hjold⟩ := hold hj hnj
        rw [hipoint, hjpoint] at hsame
        exact h.apart i hilt j hjlt hij hsame (hiold hei) (hjold hej)

/-- What an operation may mean for the version of the host. -/
theorem Updater.next_cases {a : Updater} {o : DbOp} (hok : a.ok o) (db : Db) (answer : o.Reply) :
    (a.next o (dbStep o answer db).1 = a ∧ ∀ host ∈ (dbStep o answer db).2.hosts.rows, host ∈ db.hosts.rows) ∨
    (∃ id, o = .get .host id ∧ a.next o (dbStep o answer db).1 = { a with stage := .checked } ∧
      a.stage = .reading ∧ (dbStep o answer db).2 = db ∧ ∃ host ∈ db.hosts.rows, host.id = a.hostId ∧
        HostService.modifiedSince a.expected host.updatedAt = false) ∨
    ∃ row : Host, o = .update .host row ∧ a.next o (dbStep o answer db).1 = { a with stage := .written } ∧
      a.stage = .checked ∧ row.id = a.hostId ∧
      ∀ host ∈ (dbStep o answer db).2.hosts.rows, host = row ∨ host ∈ db.hosts.rows ∧ host.id ≠ row.id := by
  have hhosts (hnot : ∀ row : Host, o ≠ .create .host row ∧ o ≠ .update .host row) :
      ∀ host ∈ (dbStep o answer db).2.hosts.rows, host ∈ db.hosts.rows := by
    intro host hhost
    rcases mem_dbStep (k := .host) hhost with hhost | ⟨row, ho, -⟩ | ⟨row, ho, -⟩
    · exact hhost
    · exact absurd ho (hnot row).1
    · exact absurd ho (hnot row).2
  cases o with
  | get k id =>
    have hsame := hhosts (by simp)
    rcases answer with e | found
    · exact .inl ⟨by cases k <;> rfl, hsame⟩
    · cases k with
      | host =>
        change (a.next (.get .host id) (.ok (db.hosts.rows.find? (fun r => r.id = id))) = a ∧ _) ∨ _ ∨ _
        cases hfind : db.hosts.rows.find? (fun r => r.id = id) with
        | none => exact .inl ⟨rfl, hsame⟩
        | some host =>
          obtain ⟨hmem, hid⟩ := find_id_eq_some_iff.mp hfind
          by_cases hcheck : a.stage = .reading ∧ id = a.hostId ∧
              HostService.modifiedSince a.expected host.updatedAt = false
          · refine .inr (.inl ⟨id, rfl, ?_, hcheck.1, rfl, host, hmem, hid.trans hcheck.2.1, hcheck.2.2⟩)
            change a.next (.get .host id) (.ok (db.hosts.rows.find? (fun r => r.id = id))) = _
            rw [hfind]
            exact if_pos hcheck
          · exact .inl ⟨if_neg hcheck, hsame⟩
      | _ =>
        refine .inl ⟨?_, hsame⟩
        rfl
  | update k row =>
    cases k with
    | host =>
      change (a.next (.update .host row) (db.update .host row answer).1 = a ∧
        ∀ host ∈ (db.update .host row answer).2.hosts.rows, _) ∨ _ ∨ _
      rcases update_cases db .host row answer with ⟨e, heq⟩ | ⟨hhas, heq⟩ | ⟨hapart, -, -, heq⟩
      · rw [heq]
        exact .inl ⟨rfl, fun host hhost => hhost⟩
      · refine .inr (.inr ⟨row, rfl, ?_, hok.1, hok.2, fun host hhost => .inr ?_⟩)
        · change a.next (.update .host row) (db.update .host row answer).1 = _
          rw [heq]
          rfl
        · change host ∈ (db.update .host row answer).2.hosts.rows at hhost
          rw [heq] at hhost
          refine ⟨hhost, fun hid => ?_⟩
          rw [(has_iff db .host row.id).mpr ⟨host, hhost, hid⟩] at hhas
          cases hhas
      · refine .inr (.inr ⟨row, rfl, ?_, hok.1, hok.2, fun host hhost => ?_⟩)
        · change a.next (.update .host row) (db.update .host row answer).1 = _
          rw [heq]
          rfl
        · change host ∈ (db.update .host row answer).2.hosts.rows at hhost
          rw [heq] at hhost
          exact (mem_updated (h := hapart)).mp hhost
    | _ => exact .inl ⟨rfl, hhosts (by simp)⟩
  | create k row =>
    cases k with
    | host => exact hok.elim
    | _ => exact .inl ⟨rfl, hhosts (by simp)⟩
  | _ => exact .inl ⟨rfl, hhosts (by simp)⟩

section act

variable {w w' : UpdateRun} {i : ℕ} {o : DbOp} {k : o.Reply → Program dbSig Error Unit} {answer : o.Reply}
  {t : Thread dbSig Error Lock UpdateHostRequest}

/-- What the call that goes on has done: nothing to the hosts, its check, or its write. -/
theorem Versioned.cases_of_acts (h : Versioned w) (hacts : updating.Acts w w' i o k answer t) :
    (w'.points i = w.points i ∧ ∀ host ∈ w'.pool.state.hosts.rows, host ∈ w.pool.state.hosts.rows) ∨
    (∃ id, o = .get .host id ∧ w'.points i = { w.points i with stage := .checked } ∧ (w.points i).stage = .reading ∧
      w'.pool.state = w.pool.state ∧ ∃ host ∈ w.pool.state.hosts.rows, host.id = (w.points i).hostId ∧
        HostService.modifiedSince (w.points i).expected host.updatedAt = false) ∨
    ∃ row : Host, o = .update .host row ∧ w'.points i = { w.points i with stage := .written } ∧
      (w.points i).stage = .checked ∧ row.id = (w.points i).hostId ∧
      ∀ host ∈ w'.pool.state.hosts.rows, host = row ∨ host ∈ w.pool.state.hosts.rows ∧ host.id ≠ row.id := by
  have hcases := Updater.next_cases (h.follows i _ hacts.thread).1 w.pool.state answer
  have hown : w'.points i = (w.points i).next o (dbStep o answer w.pool.state).1 := hacts.own
  have hstate : w'.pool.state = (dbStep o answer w.pool.state).2 := hacts.state
  rwa [← hown, ← hstate] at hcases

theorem Versioned.version_of_acts (h : Versioned w) (hacts : updating.Acts w w' i o k answer t) (j : ℕ) :
    (w'.points j).hostId = (w.points j).hostId ∧ (w'.points j).expected = (w.points j).expected := by
  by_cases hj : j = i
  · subst hj
    rcases h.cases_of_acts hacts with ⟨hpoint, -⟩ | ⟨id, -, hpoint, -⟩ | ⟨row, -, hpoint, -⟩ <;> rw [hpoint] <;> exact ⟨rfl, rfl⟩
  · rw [hacts.other hj]
    exact ⟨rfl, rfl⟩

theorem engaged_of_acts (hacts : updating.Acts w w' i o k answer t) {j : ℕ} (hj : j ≠ i) (he : Engaged w' j) : Engaged w j := by
  unfold Engaged at he ⊢
  rwa [hacts.other hj, hacts.running_of_ne hj] at he

theorem Versioned.written_of_acts (h : Versioned w) (hacts : updating.Acts w w' i o k answer t)
    (horderly : Orderly w i o = true) (j : ℕ) (hj : j < w'.pool.threads.length) (hwritten : (w'.points j).stage = .written)
    (host : Host) (hhost : host ∈ w'.pool.state.hosts.rows) (hid : host.id = (w'.points j).hostId) :
    HostService.modifiedSince (w'.points j).expected host.updatedAt = true := by
  rw [hacts.length] at hj
  rw [(h.version_of_acts hacts j).1] at hid
  rw [(h.version_of_acts hacts j).2]
  rcases h.cases_of_acts hacts with ⟨hpoint, hrows⟩ | ⟨id, -, hpoint, -, hsame, -⟩ | ⟨row, ho, hpoint, -, hrow, hrows⟩
  · have hstage : (w'.points j).stage = (w.points j).stage := by
      by_cases hji : j = i
      · rw [hji, hpoint]
      · rw [hacts.other hji]
    exact h.written j hj (hstage ▸ hwritten) host (hrows host hhost) hid
  · have hji : j ≠ i := by
      rintro rfl
      rw [hpoint] at hwritten
      cases hwritten
    rw [hacts.other hji] at hwritten
    exact h.written j hj hwritten host (hsame ▸ hhost) hid
  · subst ho
    have hseen := of_decide_eq_true horderly
    have hstage : (w.points j).stage = .written ∨ j = i := by
      by_cases hji : j = i
      · exact .inr hji
      · exact .inl (hacts.other hji ▸ hwritten)
    rcases hrows host hhost with rfl | ⟨hhost, hne⟩
    · exact hseen j hj hstage hid.symm
    · rcases hstage with hstage | rfl
      · exact h.written j hj hstage host hhost hid
      · exact absurd (hid.trans hrow.symm) hne

/-- A call that checks a version that is still current is the only one engaged in it. -/
theorem Versioned.not_engaged_of_current (h : Versioned w) (horderly : Orderly w i o = true) {l : ℕ}
    (hl : l < w.pool.threads.length) (hli : l ≠ i) (hsame : (w.points i).sameVersion (w.points l)) {id : Uuid}
    (ho : o = .get .host id) (hreading : (w.points i).stage = .reading)
    (hfound : ∃ host ∈ w.pool.state.hosts.rows, host.id = (w.points i).hostId ∧
      HostService.modifiedSince (w.points i).expected host.updatedAt = false) : ¬ Engaged w l := by
  obtain ⟨host, hhost, hid, hcurrent⟩ := hfound
  subst ho
  have halone := of_decide_eq_true horderly hreading l hl hli hsame
  rintro (hwritten | hchecked)
  · have hmodified := h.written l hl hwritten host hhost (hid.trans hsame.1)
    rw [← hsame.2, hcurrent] at hmodified
    cases hmodified
  · exact halone hchecked

theorem Versioned.apart_of_acts (h : Versioned w) (hacts : updating.Acts w w' i o k answer t) (horderly : Orderly w i o = true)
    (j : ℕ) (hj : j < w'.pool.threads.length) (l : ℕ) (hl : l < w'.pool.threads.length) (hjl : j ≠ l)
    (hsame : (w'.points j).sameVersion (w'.points l)) (hej : Engaged w' j) : ¬ Engaged w' l := by
  intro hel
  rw [hacts.length] at hj hl
  have hversion := h.version_of_acts hacts
  have hsame : (w.points j).sameVersion (w.points l) :=
    ⟨(hversion j).1.symm.trans (hsame.1.trans (hversion l).1), (hversion j).2.symm.trans (hsame.2.trans (hversion l).2)⟩
  have hkept (hnot : (w'.points i).stage = (w.points i).stage ∨ (w.points i).stage = .checked) {j : ℕ}
      (he : Engaged w' j) : Engaged w j := by
    by_cases hji : j = i
    · subst hji
      rcases hnot with hstage | hchecked
      · rcases he with he | ⟨he, -⟩
        · exact .inl (hstage ▸ he)
        · exact .inr ⟨hstage ▸ he, hacts.running⟩
      · exact .inr ⟨hchecked, hacts.running⟩
    · exact engaged_of_acts hacts hji he
  rcases h.cases_of_acts hacts with ⟨hpoint, -⟩ | ⟨id, ho, -, hreading, -, hfound⟩ | ⟨row, -, -, hchecked, -⟩
  · exact h.apart j hj l hl hjl hsame (hkept (.inl (by rw [hpoint])) hej) (hkept (.inl (by rw [hpoint])) hel)
  · by_cases hji : j = i
    · subst hji
      exact h.not_engaged_of_current horderly hl (Ne.symm hjl) hsame ho hreading hfound (engaged_of_acts hacts (Ne.symm hjl) hel)
    · by_cases hli : l = i
      · subst hli
        exact h.not_engaged_of_current horderly hj hjl ⟨hsame.1.symm, hsame.2.symm⟩ ho hreading hfound
          (engaged_of_acts hacts hjl hej)
      · exact h.apart j hj l hl hjl hsame (engaged_of_acts hacts hji hej) (engaged_of_acts hacts hli hel)
  · exact h.apart j hj l hl hjl hsame (hkept (.inr hchecked) hej) (hkept (.inr hchecked) hel)

theorem Versioned.act (h : Versioned w) (hacts : updating.Acts w w' i o k answer t) (horderly : Orderly w i o = true) :
    Versioned w' := by
  refine ⟨fun j p hp => ?_, fun j u hu => ?_, h.written_of_acts hacts horderly, h.apart_of_acts hacts horderly⟩
  · rw [hacts.prog] at hp
    split_ifs at hp with hj
    · cases hp
      rw [hj, hacts.own]
      exact (h.follows i _ hacts.thread).2 _ trivial
    · rw [hacts.other hj]
      exact h.follows j p hp
  · rw [(h.version_of_acts hacts j).1, (h.version_of_acts hacts j).2]
    rw [hacts.get] at hu
    split_ifs at hu with hj
    · cases hu
      rw [hj]
      exact h.call i t hacts.get_self
    · exact h.call j u hu

end act

theorem Versioned.step {w : UpdateRun} (h : Versioned w) {tick : UpdateTick} (horderly : OrderlyTick w tick = true) :
    Versioned (updating.step w tick) := by
  cases tick with
  | spawn request => exact h.spawn request
  | run i answers =>
    rcases Tracking.step_run_cases (T := updating) (w := w) i answers with ⟨hpass, -⟩ | ⟨o, k, t, hacts⟩
    · exact h.passes hpass
    · have hprog := hacts.thread
      simp only [OrderlyTick, hprog] at horderly
      exact h.act hacts horderly

/-- Nothing runs yet. -/
def UpdateRun.at (db : Db) : UpdateRun := ⟨⟨[], db⟩, fun _ => ⟨Uuid.nil, none, .reading⟩⟩

theorem versioned_start (db : Db) : Versioned (UpdateRun.at db) :=
  ⟨fun _ _ hp => (nomatch hp), fun _ _ ht => (nomatch ht), fun _ hj => (nomatch hj), fun _ hi => (nomatch hi)⟩

/-- The host and the version that the `i`-th call names. -/
def versionAsked (w : UpdateRun) (i : ℕ) : Option (Uuid × Option Instant) :=
  (w.pool.threads[i]?).map (fun t => (t.call.id, t.call.expectedUpdatedAt))

def succeeded (w : UpdateRun) (i : ℕ) : Bool :=
  match w.prog i with
  | some (.ret _) => true
  | _ => false

theorem Versioned.of_succeeded {w : UpdateRun} (h : Versioned w) {i : ℕ} (hok : succeeded w i = true) :
    i < w.pool.threads.length ∧ (w.points i).stage = .written ∧
      versionAsked w i = some ((w.points i).hostId, (w.points i).expected) := by
  unfold succeeded at hok
  rcases hprog : w.prog i with _ | ⟨⟩ | _ | _
  · simp [hprog] at hok
  · have hprog' := hprog
    obtain ⟨t, ht, -⟩ := Option.map_eq_some_iff.mp hprog
    obtain ⟨hid, hexpected⟩ := h.call i t ht
    exact ⟨(List.getElem?_eq_some_iff.mp ht).1, h.follows i _ hprog, by simp [versionAsked, ht, hid, hexpected]⟩
  · simp [hprog] at hok
  · simp [hprog] at hok

theorem one_update_succeeds (db : Db) (ticks : List UpdateTick) {i j : ℕ} (hij : i ≠ j)
    (horderly : Meets updating.step (fun w tick => OrderlyTick w tick = true) (UpdateRun.at db) ticks)
    (hversion : versionAsked (ticks.foldl updating.step (UpdateRun.at db)) i =
      versionAsked (ticks.foldl updating.step (UpdateRun.at db)) j) :
    ¬ (succeeded (ticks.foldl updating.step (UpdateRun.at db)) i = true ∧
      succeeded (ticks.foldl updating.step (UpdateRun.at db)) j = true) := by
  have h := horderly.invariant Versioned (fun _ _ hw htick => hw.step htick) (versioned_start db)
  rintro ⟨hi, hj⟩
  obtain ⟨hilt, hiwritten, hiasked⟩ := h.of_succeeded hi
  obtain ⟨hjlt, hjwritten, hjasked⟩ := h.of_succeeded hj
  rw [hiasked, hjasked] at hversion
  have hsame := Prod.mk.inj (Option.some.inj hversion)
  exact h.apart i hilt j hjlt hij hsame (.inl hiwritten) (.inl hjwritten)

def loneHost : Db := { Db.empty with
  hosts := .singleton ⟨1, 0, 0, ⟨"web", 9, none, none, .manual, none, false, []⟩⟩ }

/-- Two requests that expect the version of time 0, whose threads go on in the order of `schedule` at time 5000. -/
def twoUpdates (schedule : List ℕ) : List UpdateTick :=
  .spawn (renamed [] (some 0)) :: .spawn (renamed [] (some 0)) ::
    schedule.map (fun i => .run i (granted 5000 0))

def oneUpdateFirst : List ℕ := List.replicate 12 0 ++ List.replicate 12 1

def updatesInTurn : List ℕ := (List.replicate 17 [0, 1]).flatten

theorem one_update_succeeds_sequential :
    ¬ (succeeded ((twoUpdates oneUpdateFirst).foldl updating.step (UpdateRun.at loneHost)) 0 = true ∧
      succeeded ((twoUpdates oneUpdateFirst).foldl updating.step (UpdateRun.at loneHost)) 1 = true) :=
  one_update_succeeds loneHost (twoUpdates oneUpdateFirst) (by decide) (by decide) (by decide)

/-- Both calls read the host before either writes it. -/
theorem both_updates_succeed : ¬ ∀ (db : Db) (ticks : List UpdateTick) (i j : ℕ), i ≠ j →
    versionAsked (ticks.foldl updating.step (UpdateRun.at db)) i =
      versionAsked (ticks.foldl updating.step (UpdateRun.at db)) j →
    ¬ (succeeded (ticks.foldl updating.step (UpdateRun.at db)) i = true ∧
      succeeded (ticks.foldl updating.step (UpdateRun.at db)) j = true) := by
  intro h
  exact h loneHost (twoUpdates updatesInTurn) 0 1 (by decide) (by decide) (by decide)

end VantageNet.Inventory
