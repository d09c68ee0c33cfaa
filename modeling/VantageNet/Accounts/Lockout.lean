import Mathlib.Tactic.Common
import VantageNet.Accounts.Login
import VantageNet.Interaction.Program

/-!
At most five passwords are verified before an account is locked, and none while it is locked, as long as no more
calls are let past the check than failed attempts are left.
-/

namespace VantageNet.Accounts

open Interaction

section in_flight

/-- The call has passed the check and has not brought the table up to date. -/
def LoginCall.inFlight : LoginCall → Bool
  | .trying _ | .succeeded _ | .failed _ => true
  | _ => false

/-- The attempt has been made and is not in the table. -/
def LoginCall.tried : LoginCall → Bool
  | .succeeded _ | .failed _ => true
  | _ => false

namespace LoginState

variable {σ : LoginState} {i : ℕ} {x : LoginCall}

def inFlight (σ : LoginState) : ℕ := σ.calls.countP LoginCall.inFlight

def tried (σ : LoginState) : ℕ := σ.calls.countP LoginCall.tried

theorem countP_set_call {p : LoginCall → Bool} {calls : List LoginCall} (hx : calls[i]? = some x) (y : LoginCall) :
    (calls.set i y).countP p + (p x).toNat = calls.countP p + (p y).toNat := by
  obtain ⟨hi, rfl⟩ := List.getElem?_eq_some_iff.mp hx
  have hpos : p calls[i] = true → 0 < calls.countP p := fun h => List.countP_pos_iff.mpr ⟨_, List.getElem_mem hi, h⟩
  rw [List.countP_set hi]
  cases hp : p calls[i] <;> cases p y <;> simp_all

theorem inFlight_set (hx : σ.calls[i]? = some x) (y : LoginCall) :
    (σ.set i y).inFlight + x.inFlight.toNat = σ.inFlight + y.inFlight.toNat := countP_set_call hx y

theorem tried_set (hx : σ.calls[i]? = some x) (y : LoginCall) :
    (σ.set i y).tried + x.tried.toNat = σ.tried + y.tried.toNat := countP_set_call hx y

theorem tried_le_inFlight (σ : LoginState) : σ.tried ≤ σ.inFlight :=
  List.countP_mono_left (fun call _ h => by cases call <;> first | rfl | exact nomatch h)

end LoginState

end in_flight

section locked

variable {attempts : LoginAttempts} {now : ℕ}

theorem locked_some {count lastAttempt : ℕ} :
    LoginAttempts.locked (some (count, lastAttempt)) now = true ↔
      maxLoginAttempts ≤ count ∧ LoginAttempts.elapsedSecs now lastAttempt < lockoutDurationSecs := by
  simp [LoginAttempts.locked]

theorem checkLoginLockout_ok (attempts : LoginAttempts) (now : ℕ) :
    (∃ u, checkLoginLockout attempts now = .ok u) ↔ attempts.locked now = false := by
  rcases attempts with _ | ⟨count, lastAttempt⟩
  · exact ⟨fun _ => rfl, fun _ => ⟨(), rfl⟩⟩
  · rw [← Bool.not_eq_true, locked_some]
    unfold checkLoginLockout
    dsimp only
    split_ifs with hcount helapsed
    · exact ⟨fun ⟨_, h⟩ => (nomatch h), fun h => absurd ⟨hcount, helapsed⟩ h⟩
    · exact ⟨fun _ h => helapsed h.2, fun _ => ⟨(), rfl⟩⟩
    · exact ⟨fun _ h => hcount h.1, fun _ => ⟨(), rfl⟩⟩

/-- Time only ends a lockout. -/
theorem locked_of_later {later : ℕ} (hle : now ≤ later) (h : attempts.locked later = true) : attempts.locked now = true := by
  rcases attempts with _ | ⟨count, lastAttempt⟩
  · exact nomatch h
  · obtain ⟨hcount, helapsed⟩ := locked_some.mp h
    exact locked_some.mpr ⟨hcount, lt_of_le_of_lt (Nat.div_le_div_right (Nat.sub_le_sub_right hle _)) helapsed⟩

theorem locked_recordFailure (attempts : LoginAttempts) (now : ℕ) :
    (attempts.recordFailure now).locked now = true ↔ 5 ≤ attempts.count + 1 := by
  rw [LoginAttempts.recordFailure, locked_some, LoginAttempts.elapsedSecs, Nat.sub_self]
  exact and_iff_left (by decide)

theorem cleanup_cases (attempts : LoginAttempts) (now : ℕ) :
    attempts.cleanup now = attempts ∨ attempts.cleanup now = none ∧ attempts.locked now = false := by
  rcases attempts with _ | ⟨count, lastAttempt⟩
  · exact .inl rfl
  · rw [← Bool.not_eq_true, locked_some, LoginAttempts.cleanup, Option.filter_some]
    split_ifs with h
    · exact .inl rfl
    · exact .inr ⟨rfl, fun hl => h (decide_eq_true hl.2)⟩

end locked

section guarded

/-- What a lockout is for. -/
def Guarded (σ : LoginState) : Prop := σ.verified ≤ 5 ∧ σ.verifiedWhileLocked = 0

/-- A call that is let past the check leaves a failed attempt for each one in flight, or is the only one; entries of
less than five attempts are not cleaned up. -/
def Calm (σ : LoginState) : LoginEvent → Prop
  | .check i => (∃ password, σ.calls[i]? = some (.started password)) → σ.locked = false →
      σ.inFlight = 0 ∨ σ.attempts.count + σ.inFlight < 5
  | .cleanup => σ.attempts.cleanup σ.now = none → σ.attempts = none ∨ 5 ≤ σ.attempts.count
  | _ => True

structure Guards (σ : LoginState) : Prop where
  few : σ.attempts.count < 5 → σ.attempts.count + σ.inFlight ≤ 5
  alone : 5 ≤ σ.attempts.count → σ.inFlight ≤ 1
  closed : σ.locked = true → σ.inFlight = 0
  counted : σ.attempts.count < 5 → σ.verified ≤ σ.attempts.count + σ.tried
  ended : 5 ≤ σ.attempts.count → σ.locked = false → σ.verified ≤ σ.tried
  guarded : Guarded σ

theorem guards_start (now : ℕ) : Guards (.start now) :=
  ⟨fun _ => Nat.zero_le 5, fun _ => Nat.zero_le 1, fun _ => rfl, fun _ => le_refl 0, fun _ _ => le_refl 0, Nat.zero_le 5, rfl⟩

variable {verifyPassword : String → String → Bool} {email : String} {σ : LoginState}

/-- Calls that pass the check, or stop at it. -/
theorem Guards.check (h : Guards σ) {i : ℕ} (hc : Calm σ (.check i)) : Guards (σ.check i) := by
  unfold LoginState.check
  split
  case h_2 => exact h
  case h_1 password hi =>
    split
    case h_2 e hlocked =>
      have hf : (σ.set i (.returned (.error e))).inFlight = σ.inFlight := LoginState.inFlight_set hi _
      have ht : (σ.set i (.returned (.error e))).tried = σ.tried := LoginState.tried_set hi _
      exact ⟨hf ▸ h.few, hf ▸ h.alone, hf ▸ h.closed, ht ▸ h.counted, ht ▸ h.ended, h.guarded⟩
    case h_1 hok =>
      have hopen : σ.locked = false := (checkLoginLockout_ok σ.attempts σ.now).mp ⟨_, hok⟩
      have hf : (σ.set i (.trying password)).inFlight = σ.inFlight + 1 := LoginState.inFlight_set hi _
      have ht : (σ.set i (.trying password)).tried = σ.tried := LoginState.tried_set hi _
      have hroom := hc ⟨password, hi⟩ hopen
      have hfew := h.few
      refine ⟨fun hcount => ?_, fun hcount => ?_, fun hl => ?_, ht ▸ h.counted, ht ▸ h.ended, h.guarded⟩
      · change σ.attempts.count < 5 at hcount
        change σ.attempts.count + _ ≤ 5
        omega
      · change 5 ≤ σ.attempts.count at hcount
        omega
      · change σ.locked = true at hl
        rw [hopen] at hl
        exact nomatch hl

/-- One more attempt, of a call that is in flight. No account is locked then. -/
theorem Guards.tried {i : ℕ} {password : String} (h : Guards σ) (hi : σ.calls[i]? = some (.trying password))
    {call : LoginCall} (hcall : call.tried = true) : Guards (σ.set i call) ∧ Guards (σ.verify.set i call) := by
  have hflight : call.inFlight = true := by cases call <;> first | rfl | exact nomatch hcall
  have hf : (σ.set i call).inFlight = σ.inFlight := by
    have := LoginState.inFlight_set hi call
    rw [hflight] at this
    exact Nat.add_right_cancel this
  have ht : (σ.set i call).tried = σ.tried + 1 := by
    have := LoginState.tried_set hi call
    rwa [hcall] at this
  have hpos : 0 < σ.inFlight := List.countP_pos_iff.mpr ⟨_, List.mem_of_getElem? hi, rfl⟩
  have hopen : σ.locked ≠ true := fun hl => absurd (h.closed hl) (by omega)
  have hopen' : σ.verify.verifiedWhileLocked = σ.verifiedWhileLocked := if_neg hopen
  have hle := (σ.set i call).tried_le_inFlight
  obtain ⟨few, alone, closed, counted, ended, hfive, hnone⟩ := h
  refine ⟨⟨hf ▸ few, hf ▸ alone, hf ▸ closed, fun hcount => ?_, fun hcount hl => ?_, hfive, hnone⟩,
    ⟨hf ▸ few, hf ▸ alone, hf ▸ closed, fun hcount => ?_, fun hcount hl => ?_, ?_, hopen'.trans hnone⟩⟩
  · rw [ht]
    exact Nat.le_succ_of_le (counted hcount)
  · rw [ht]
    exact Nat.le_succ_of_le (ended hcount hl)
  · have := counted hcount
    change σ.verified + 1 ≤ σ.attempts.count + (σ.set i call).tried
    omega
  · have := ended hcount hl
    change σ.verified + 1 ≤ (σ.set i call).tried
    omega
  · change σ.verified + 1 ≤ 5
    rcases Nat.lt_or_ge σ.attempts.count 5 with hcount | hcount
    · have := counted hcount
      have := few hcount
      omega
    · have := ended hcount (Bool.not_eq_true _ ▸ hopen)
      have := alone hcount
      omega

theorem Guards.tryLogin (h : Guards σ) (i : ℕ) (allUsers : Except String (List User)) :
    Guards (σ.tryLogin verifyPassword email i allUsers) := by
  unfold LoginState.tryLogin
  split
  case h_2 => exact h
  case h_1 password hi =>
    split
    · exact (h.tried hi rfl).1
    · split_ifs
      · exact (h.tried hi rfl).2
      · exact (h.tried hi rfl).2

theorem Guards.update (h : Guards σ) (i : ℕ) : Guards (σ.update i) := by
  obtain ⟨few, alone, closed, counted, ended, hfive, hnone⟩ := h
  unfold LoginState.update
  split
  case h_1 user hi =>
    have hf : (σ.set i (.returned (.ok user))).inFlight + 1 = σ.inFlight := LoginState.inFlight_set hi _
    refine ⟨fun _ => ?_, fun hcount => (nomatch hcount), fun hl => (nomatch hl), fun _ => Nat.zero_le _,
      fun hcount => (nomatch hcount), Nat.zero_le 5, hnone⟩
    change 0 + (σ.set i (.returned (.ok user))).inFlight ≤ 5
    rcases Nat.lt_or_ge σ.attempts.count 5 with hcount | hcount
    · have := few hcount
      omega
    · have := alone hcount
      omega
  case h_2 e hi =>
    have hf : (σ.set i (.returned (.error e))).inFlight + 1 = σ.inFlight := LoginState.inFlight_set hi _
    have ht : (σ.set i (.returned (.error e))).tried + 1 = σ.tried := LoginState.tried_set hi _
    have hlast : 5 ≤ σ.attempts.count + 1 → (σ.set i (.returned (.error e))).inFlight = 0 := fun hcount => by
      rcases Nat.lt_or_ge σ.attempts.count 5 with hc | hc
      · have := few hc
        omega
      · have := alone hc
        omega
    refine ⟨fun hcount => ?_, fun hcount => (hlast hcount).trans_le (Nat.zero_le 1),
      fun hl => hlast ((locked_recordFailure σ.attempts σ.now).mp hl), fun hcount => ?_, fun hcount hl => ?_, hfive, hnone⟩
    · change σ.attempts.count + 1 < 5 at hcount
      change σ.attempts.count + 1 + (σ.set i (.returned (.error e))).inFlight ≤ 5
      have := few (by omega)
      omega
    · change σ.attempts.count + 1 < 5 at hcount
      change σ.verified ≤ σ.attempts.count + 1 + (σ.set i (.returned (.error e))).tried
      have := counted (by omega)
      omega
    · exact absurd ((locked_recordFailure σ.attempts σ.now).mpr hcount) (Bool.eq_false_iff.mp hl)
  case h_3 => exact ⟨few, alone, closed, counted, ended, hfive, hnone⟩

theorem Guards.login (h : Guards σ) (password : String) : Guards (σ.login password) := by
  have hf : (σ.login password).inFlight = σ.inFlight := by
    unfold LoginState.login LoginState.inFlight
    cases validatePassword password <;> simp [LoginCall.inFlight]
  have ht : (σ.login password).tried = σ.tried := by
    unfold LoginState.login LoginState.tried
    cases validatePassword password <;> simp [LoginCall.tried]
  exact ⟨hf ▸ h.few, hf ▸ h.alone, hf ▸ h.closed, ht ▸ h.counted, ht ▸ h.ended, h.guarded⟩

theorem Guards.cleanup (h : Guards σ) (hc : Calm σ .cleanup) :
    Guards { σ with attempts := σ.attempts.cleanup σ.now } := by
  rcases cleanup_cases σ.attempts σ.now with heq | ⟨hnone, hopen⟩
  · rw [heq]
    exact h
  · rw [hnone]
    rcases hc hnone with hempty | hcount
    · rw [← hempty]
      exact h
    · exact ⟨fun _ => (Nat.zero_add _).trans_le ((h.alone hcount).trans (by decide)), fun hcount => (nomatch hcount),
        fun hl => (nomatch hl), fun _ => (h.ended hcount hopen).trans (Nat.le_add_left _ _), fun hcount => (nomatch hcount),
        h.guarded⟩

theorem Guards.tick (h : Guards σ) (duration : ℕ) : Guards (σ.tick duration) := by
  obtain ⟨few, alone, closed, counted, ended, hfive, hnone⟩ := h
  have hlater : (σ.tick duration).locked = true → σ.locked = true := locked_of_later (Nat.le_add_right _ _)
  have hle : (σ.tick duration).verified ≤ σ.verified := by
    unfold LoginState.tick
    dsimp only
    split_ifs
    · exact Nat.zero_le _
    · exact le_refl _
  refine ⟨few, alone, fun hl => closed (hlater hl), fun hcount => hle.trans (counted hcount), fun hcount hl => ?_,
    hle.trans hfive, hnone⟩
  cases hbefore : σ.locked with
  | false => exact hle.trans (ended hcount hbefore)
  | true =>
    have hended : (σ.locked && !σ.attempts.locked (σ.now + duration)) = true := by
      rw [hbefore, show σ.attempts.locked (σ.now + duration) = false from hl]
      rfl
    have hreset : (σ.tick duration).verified = 0 := if_pos hended
    exact hreset ▸ Nat.zero_le _

theorem Guards.step (h : Guards σ) (e : LoginEvent) (hc : Calm σ e) : Guards (σ.step verifyPassword email e) := by
  cases e with
  | login password => exact h.login password
  | check i => exact h.check hc
  | tryLogin i allUsers => exact h.tryLogin i allUsers
  | update i => exact h.update i
  | cleanup => exact h.cleanup hc
  | tick duration => exact h.tick duration

theorem lockout_guards_password (verifyPassword : String → String → Bool) (email : String) (now : ℕ)
    (events : List LoginEvent) (hcalm : Meets (LoginState.step verifyPassword email) Calm (.start now) events) :
    Guarded (events.foldl (LoginState.step verifyPassword email) (.start now)) :=
  (Meets.invariant Guards (fun _ e h hc => h.step e hc) (guards_start now) hcalm).guarded

section calls

def anna : User := ⟨1, 0, 0, ⟨"anna", 9, .owner, some "hash", none, none, none, [], none⟩⟩

/-- Calls with a wrong password, that all pass the check before the first of them tries. -/
def guesses (calls : ℕ) : List LoginEvent :=
  List.replicate calls (.login "0123456789") ++ (List.range calls).map .check ++
    (List.range calls).flatMap (fun i => [.tryLogin i (.ok [anna]), .update i])

theorem lockout_guards_password_two :
    Guarded ([.login "0123456789", .login "0123456789", .check 0, .check 1, .tryLogin 0 (.ok [anna]), .update 0,
      .tryLogin 1 (.ok [anna]), .update 1, .cleanup].foldl (LoginState.step (fun _ _ => false) "anna") (.start 0)) :=
  lockout_guards_password (fun _ _ => false) "anna" 0 _
    ⟨trivial, trivial, fun _ _ => .inl rfl, fun _ _ => .inr (by decide +kernel), trivial, trivial, trivial, trivial,
      fun h => (nomatch h), trivial⟩

theorem six_passwords_verified : ¬ ∀ (verifyPassword : String → String → Bool) (email : String) (now : ℕ)
    (events : List LoginEvent), Guarded (events.foldl (LoginState.step verifyPassword email) (.start now)) := by
  intro h
  have hfew := (h (fun _ _ => false) "anna" 0 (guesses 6)).1
  exact absurd hfew (by decide +kernel)

end calls

end guarded

end VantageNet.Accounts
