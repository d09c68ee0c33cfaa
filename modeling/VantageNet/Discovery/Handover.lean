import VantageNet.Discovery.SessionStore

/-!
Whether the head of a push daemon's queue has been sent to it. Only a terminal update
sends the session that moves up; a cancelled pending session and the sessions removed by
the cleanups leave whoever stood behind them waiting for nothing.
-/

namespace VantageNet

open Interaction Interaction.Program

variable (push : Uuid → Prop)

structure Serving (ω : Oracle serviceSig) : Prop where
  daemons : ∀ d, push d → PushDaemon ω d
  requests : RequestsOk ω
  bus : BusOk ω

/-- If the sessions in `gone` left the queue of `d`, its head would be one of them and the first
one to stay would not have been sent yet. -/
def Store.Strands (σ : Store) (d : Uuid) (gone : Uuid → Bool) : Prop :=
  ∃ first next, (σ.queue d).head? = some first ∧ gone first = true ∧
    ((σ.queue d).filter (fun s => !gone s)).head? = some next ∧ (d, next) ∉ σ.posted

def Store.isOldIn (σ : Store) (cutoff : Instant) (s : Uuid) : Bool := (σ.sessions.get s).any (isOld cutoff)

def Store.stallsIn (σ : Store) (now : Instant) (s : Uuid) : Bool :=
  (σ.sessions.get s).any (fun p => !p.phase.isTerminal && isStalled now (σ.sessionLastUpdated.get s) p)

/-- The calls after which no push daemon has a head it was not sent. -/
def Orderly (σ : Store) (e : Served) : Prop :=
  Serving push e.answers ∧ Legal σ e ∧
  match e.call with
  | .updateSession update => push update.daemonId → update.phase.isTerminal = false →
      σ.owner update.sessionId = none → σ.queue update.daemonId = [] →
      (update.daemonId, update.sessionId) ∈ σ.posted
  | .cancelSession s => ∀ p, σ.sessions.get s = some p → p.phase = .pending → push p.daemonId →
      ¬ σ.Strands p.daemonId (fun k => k = s)
  | .cleanupOldSessions maxAgeHours => ∀ d, push d →
      ¬ σ.Strands d (σ.isOldIn (e.answers 0 .utcNow - hours maxAgeHours))
  | .cleanupStalledSessions => ∀ d, push d → ¬ σ.Strands d (σ.stallsIn (e.answers 0 .utcNow))
  | _ => True

def HeadsSent (σ : Store) : Prop :=
  ∀ d, push d → ∀ s, (σ.queue d).head? = some s → (d, s) ∈ σ.posted

variable {push}

theorem HeadsSent.congr {σ τ : Store} (h : HeadsSent push σ) (hqueue : τ.daemonSessions = σ.daemonSessions)
    (hposted : τ.posted = σ.posted) : HeadsSent push τ := by
  intro d hd s hs
  rw [hposted]
  exact h d hd s (by rwa [Store.queue, ← hqueue])

theorem HeadsSent.removed {σ τ : Store} {R : Registry Uuid Uuid} (h : HeadsSent push σ) (hR : σ.Represents R)
    {done : List Uuid} (hremoved : Removed σ τ done) (gone : Uuid → Bool) (hgone : ∀ k, k ∈ done ↔ gone k = true)
    (hstrands : ∀ d, push d → (∃ k, gone k = true ∧ σ.owner k = some d) → ¬ σ.Strands d gone) :
    HeadsSent push τ := by
  intro d hd s hs
  have hqueue : τ.queue d = (σ.queue d).filter (fun k => !gone k) := by
    rw [hremoved.queue]
    apply List.filter_congr
    intro k hk
    rw [hR.queue, R.mem_queue, ← hR.owner] at hk
    simp [hk, hgone]
  rw [hremoved.posted]
  rw [hqueue] at hs
  cases hfront : (σ.queue d).head? with
  | none =>
    rw [List.head?_eq_none_iff] at hfront
    simp [hfront] at hs
  | some front =>
    cases hleaves : gone front with
    | false =>
      rw [head?_filter hfront (by simp [hleaves])] at hs
      cases hs
      exact h d hd _ hfront
    | true =>
      have hmem : front ∈ σ.queue d := List.mem_of_head? hfront
      rw [hR.queue, R.mem_queue, ← hR.owner] at hmem
      by_contra hunsent
      exact hstrands d hd ⟨front, hleaves, hmem⟩ ⟨front, s, hfront, hleaves, hs, hunsent⟩

theorem HeadsSent.joined {σ τ : Store} (h : HeadsSent push σ) {d k : Uuid}
    (hqueue : τ.daemonSessions = σ.daemonSessions.insert d (σ.queue d ++ [k]))
    (hposted : σ.posted ⊆ τ.posted) (hidle : push d → σ.queue d = [] → (d, k) ∈ τ.posted) : HeadsSent push τ := by
  intro e he s hs
  rw [Store.queue, hqueue, queue_insert] at hs
  split_ifs at hs with hed
  · subst hed
    cases hq : σ.queue e with
    | nil =>
      rw [hq] at hs
      obtain rfl : k = s := by simpa using hs
      exact hidle he hq
    | cons front rest =>
      have hfront : (σ.queue e).head? = some front := by rw [hq]; rfl
      rw [head?_push hfront] at hs
      cases hs
      exact hposted (h e he _ hfront)
  · exact hposted (h e he s hs)

theorem storedDaemon_eq {σ : Store} {update : DiscoveryUpdatePayload}
    (hlegal : σ.owner update.sessionId = none ∨ σ.owner update.sessionId = some update.daemonId) :
    σ.storedDaemon update = update.daemonId := by
  unfold Store.storedDaemon
  cases hp : σ.sessions.get update.sessionId with
  | none => rfl
  | some p => simpa [Store.owner, hp] using hlegal

theorem queue_receive_of_ne (σ : Store) (update : DiscoveryUpdatePayload) (now : Instant) {d : Uuid}
    (hd : d ≠ update.daemonId) : (σ.receive update now).queue d = σ.queue d := by
  simp only [Store.queue, Store.receive]
  split_ifs
  · rfl
  · rw [queue_insert, if_neg hd]

theorem nextRequest_of_next {σ : Store} {R : Registry Uuid Uuid} (hR : σ.Represents R) {d s k : Uuid}
    (hnext : σ.next d s = some k) : ∃ request, σ.nextRequest d s = some request ∧ request.sessionId = k := by
  have hmem : k ∈ σ.queue d := by
    have hk := List.mem_of_head? hnext
    exact (List.mem_filter.mp hk).1
  rw [hR.queue, R.mem_queue, ← hR.owner] at hmem
  obtain ⟨p, hp, -⟩ := Option.map_eq_some_iff.mp hmem
  refine ⟨⟨p.sessionId, p.discoveryType⟩, ?_, hR.keyed k p hp⟩
  simp [Store.nextRequest, hnext, hp]

theorem queue_handOver (σ : Store) (d s e : Uuid) :
    (σ.handOver d s).queue e = if e = d then (σ.queue d).filter (fun k => k ≠ s) else σ.queue e :=
  queue_retain σ.daemonSessions d e s

theorem HeadsSent.finished {σ : Store} {R : Registry Uuid Uuid} (h : HeadsSent push σ) (hR : σ.Represents R)
    {ω : Oracle serviceSig} (hserving : Serving push ω) {update : DiscoveryUpdatePayload} (now : Instant)
    (hlegal : σ.owner update.sessionId = none ∨ σ.owner update.sessionId = some update.daemonId)
    (discoveries : HashMap Uuid Discovery) {posted : List (Uuid × Uuid)}
    (hposted : posted = σ.posted ∧ (PushDaemon ω (σ.storedDaemon update) →
        (σ.receive update now).nextRequest update.daemonId update.sessionId = none) ∨
      ∃ request, (σ.receive update now).nextRequest update.daemonId update.sessionId = some request ∧
        posted = (σ.storedDaemon update, request.sessionId) :: σ.posted) :
    HeadsSent push { ((σ.receive update now).record update.daemonId discoveries).handOver
      update.daemonId update.sessionId with posted } := by
  obtain ⟨-, R', -, hR'⟩ := hR.receive now hlegal
  intro d hd s hs
  change (Store.queue (Store.handOver (Store.record (σ.receive update now) _ _) _ _) d).head? = some s at hs
  rw [storedDaemon_eq hlegal] at hposted
  rw [queue_handOver] at hs
  change (d, s) ∈ posted
  split_ifs at hs with he
  · subst he
    obtain ⟨request, hrequest, hid⟩ := nextRequest_of_next hR' hs
    rw [hrequest] at hposted
    rcases hposted with ⟨-, hnone⟩ | ⟨request', hsome, rfl⟩
    · cases hnone (hserving.daemons _ hd)
    · cases hsome
      simp [hid]
  · have hsent : (d, s) ∈ σ.posted := h d hd s ((queue_receive_of_ne σ update now he) ▸ hs)
    rcases hposted with ⟨rfl, -⟩ | ⟨request, -, rfl⟩
    · exact hsent
    · exact List.mem_cons_of_mem _ hsent

theorem serve_headsSent {σ : Store} {R : Registry Uuid Uuid} (hR : σ.Represents R) (h : HeadsSent push σ)
    {e : Served} (horderly : Orderly push σ e) : HeadsSent push (σ.serve e) := by
  rcases e with ⟨call, ω⟩
  obtain ⟨hserving, hlegal, hcall⟩ := horderly
  have heffect := serve_effect σ hR.keyed ⟨call, ω⟩
  generalize σ.serve ⟨call, ω⟩ = τ at heffect ⊢
  simp only at heffect hserving
  cases heffect with
  | started discovery updateTx posted hposted =>
    refine h.joined rfl ?_ (fun hd hidle => ?_)
    · rcases hposted with ⟨rfl, -⟩ | ⟨-, rfl⟩ <;> simp
    · rcases hposted with ⟨-, hpull⟩ | ⟨-, rfl⟩
      · exact absurd (hserving.daemons _ hd) (hpull hidle)
      · simp
  | progressed update now hphase =>
    by_cases hlive : update.sessionId ∈ σ.sessions
    · exact h.congr (by simp only [Store.receive, hlive, ↓reduceIte]) rfl
    · have hqueue : (σ.receive update now).daemonSessions = σ.daemonSessions.insert update.daemonId
          (σ.queue update.daemonId ++ [update.sessionId]) := by
        simp only [Store.receive, hlive, ↓reduceIte]
      refine h.joined hqueue (fun _ hx => hx) (fun hd hidle => ?_)
      exact hcall hd hphase (by simp [Store.owner, (get_eq_none _ _).mpr hlive]) hidle
  | recorded update now discoveries hphase hbus hsaved => exact absurd hserving.bus hbus
  | finished update now discoveries posted hphase hsaved hposted =>
    exact h.finished hR hserving now hlegal discoveries hposted
  | cancelled k τ hcancelled =>
    cases hcancelled with
    | unchanged => exact h
    | pending p updateTx hp hphase =>
      have hremoved : Removed σ { σ.drop p.daemonId k with updateTx } ([] ++ [k]) :=
        (Removed.refl σ).drop hp rfl rfl rfl
      refine h.removed hR hremoved (fun j => j = k) (by simp) (fun d hd hleaves => ?_)
      obtain ⟨j, hj, hown⟩ := hleaves
      obtain rfl : p.daemonId = d := by
        rw [decide_eq_true_eq] at hj
        simpa [hj, Store.owner, hp] using hown
      exact hcall p hp hphase hd
    | flagged p hp hphase hpull => exact h.congr rfl rfl
    | unreachable p results updateTx discoveries hp hphase hbad hid hsaved =>
      exact absurd ⟨hserving.requests, hserving.bus⟩ hbad
  | aged maxAgeHours done τ hdone haged =>
    refine h.removed hR haged.toRemoved _ (fun k => ?_) (fun d hd _ => hcall d hd)
    rw [hdone, Store.isOldIn, Option.any_eq_true]
  | stalled done τ hdone hfailed =>
    refine h.removed hR hfailed.toRemoved _ (fun k => ?_) (fun d hd _ => hcall d hd)
    rw [hdone, Store.stallsIn, Option.any_eq_true]
    simp [Store.Stalls]
  | listed d => exact h
  | polled d => exact h.congr rfl rfl

def Store.restarted (before : List (Uuid × Uuid)) : Store := { Store.empty with posted := before }

theorem push_head_sent (push : Uuid → Prop) (before : List (Uuid × Uuid)) (es : List Served)
    (h : Meets Store.serve (Orderly push) (.restarted before) es) (d : Uuid) (hd : push d) (s : Uuid)
    (hs : ((es.foldl Store.serve (.restarted before)).queue d).head? = some s) :
    (d, s) ∈ (es.foldl Store.serve (.restarted before)).posted := by
  have hstart : (Store.restarted before).Represents .empty := empty_represents.congr rfl rfl
  have hrun : (∃ R, (es.foldl Store.serve (.restarted before)).Represents R) ∧
      HeadsSent push (es.foldl Store.serve (.restarted before)) := by
    refine h.invariant (fun σ => (∃ R, σ.Represents R) ∧ HeadsSent push σ) ?_
      ⟨⟨.empty, hstart⟩, fun d _ s hs => nomatch hs⟩
    rintro σ e ⟨⟨R, hR⟩, hsent⟩ horderly
    obtain ⟨R', -, hR'⟩ := serve_simulates hR horderly.2.1
    exact ⟨⟨R', hR'⟩, serve_headsSent hR hsent horderly⟩
  exact hrun.2 d hd s hs

theorem calm_serving (id : Uuid) (now : Instant) : Serving push (calm id now .push) :=
  ⟨fun _ _ _ => ⟨_, rfl, rfl⟩, ⟨fun _ _ _ => rfl, fun _ _ _ => rfl⟩, fun _ _ _ => rfl⟩

theorem push_head_sent_handover :
    (7, 2) ∈ ([⟨.startSession (adHocFor 7), calm 1 0 .push⟩, ⟨.startSession (adHocFor 7), calm 2 0 .push⟩,
      ⟨.updateSession (reportOf 1 7 .complete), calm 3 0 .push⟩].foldl Store.serve (.restarted [])).posted := by
  refine push_head_sent (fun d => d = 7) [] _ ?_ 7 rfl 2 (by decide)
  exact ⟨⟨calm_serving 1 0, by decide, trivial⟩, ⟨calm_serving 2 0, by decide, trivial⟩,
    ⟨calm_serving 3 0, by decide, fun _ h => nomatch h⟩, trivial⟩

theorem cancelled_head_strands_next :
    Serving (fun d => d = 7) (calm 1 0 .push) ∧ Serving (fun d => d = 7) (calm 2 0 .push) ∧
    Serving (fun d => d = 7) (calm 3 0 .push) ∧
    (([⟨.startSession (adHocFor 7), calm 1 0 .push⟩, ⟨.startSession (adHocFor 7), calm 2 0 .push⟩,
      ⟨.cancelSession 1, calm 3 0 .push⟩].foldl Store.serve .empty).queue 7).head? = some 2 ∧
    (7, 2) ∉ ([⟨.startSession (adHocFor 7), calm 1 0 .push⟩, ⟨.startSession (adHocFor 7), calm 2 0 .push⟩,
      ⟨.cancelSession 1, calm 3 0 .push⟩].foldl Store.serve .empty).posted :=
  ⟨calm_serving 1 0, calm_serving 2 0, calm_serving 3 0, by decide, by decide⟩

end VantageNet
