import VantageNet.Accounts.Types

/-!
Login with a password, and the table of failed attempts: `login`, `check_login_lockout`, `try_login` and
`cleanup_old_login_attempts` of `auth/service.rs`. Any number of calls for one email run at once. Each one
looks at the table, tries to log in, and looks at the table again; events are published without fail.
Times are nanoseconds.
-/

namespace VantageNet.Accounts

def maxLoginAttempts : ℕ := 5

def lockoutDurationSecs : ℕ := 15 * 60

/-- The entry of one email in `login_attempts`: the failed attempts and the time of the last one. -/
abbrev LoginAttempts := Option (ℕ × ℕ)

namespace LoginAttempts

def elapsedSecs (now lastAttempt : ℕ) : ℕ := (now - lastAttempt) / 1000000000

def count (attempts : LoginAttempts) : ℕ := attempts.elim 0 Prod.fst

def locked (attempts : LoginAttempts) (now : ℕ) : Bool :=
  attempts.any (fun (count, lastAttempt) => maxLoginAttempts ≤ count && elapsedSecs now lastAttempt < lockoutDurationSecs)

def recordFailure (attempts : LoginAttempts) (now : ℕ) : LoginAttempts := some (attempts.count + 1, now)

/-- `cleanup_old_login_attempts`. -/
def cleanup (attempts : LoginAttempts) (now : ℕ) : LoginAttempts :=
  attempts.filter (fun (_, lastAttempt) => elapsedSecs now lastAttempt < lockoutDurationSecs)

end LoginAttempts

def checkLoginLockout (attempts : LoginAttempts) (now : ℕ) : Except String Unit :=
  match attempts with
  | none => .ok ()
  | some (count, lastAttempt) =>
    if maxLoginAttempts ≤ count then
      let elapsed := LoginAttempts.elapsedSecs now lastAttempt
      if elapsed < lockoutDurationSecs then
        let remaining := (lockoutDurationSecs - elapsed) / 60
        .error ("Too many failed login attempts. Try again in " ++ toString (remaining + 1) ++ " minutes.")
      else .ok ()
    else .ok ()

/-- `LoginRequest::validate`, as `login` reports it. -/
def validatePassword (password : String) : Except String Unit :=
  if 10 ≤ password.length then .ok ()
  else .error "Validation failed: password: Password must be at least 10 characters"

/-- The part of `try_login` before a password is verified. -/
def credentials (email : String) (allUsers : List User) : Except String (User × String) :=
  match allUsers.find? (fun u => u.base.email = email) with
  | none => .error "Invalid email or password"
  | some user =>
    match user.base.passwordHash with
    | none => .error "User has no password set. Please register first."
    | some passwordHash => .ok (user, passwordHash)

/-- A call of `login`. After `try_login` the table is still to be brought up to date. -/
inductive LoginCall where
  | started (password : String)
  | trying (password : String)
  | succeeded (user : User)
  | failed (error : String)
  | returned (result : Except String User)

/-- The calls for one email. `verified` counts the passwords verified since the last success or the last end of a
lockout, `verifiedWhileLocked` those that were verified during a lockout. -/
structure LoginState where
  now : ℕ
  attempts : LoginAttempts
  calls : List LoginCall
  verified : ℕ
  verifiedWhileLocked : ℕ

inductive LoginEvent where
  | login (password : String)
  | check (i : ℕ)
  | tryLogin (i : ℕ) (allUsers : Except String (List User))
  | update (i : ℕ)
  | cleanup
  | tick (duration : ℕ)

namespace LoginState

def start (now : ℕ) : LoginState := ⟨now, none, [], 0, 0⟩

def locked (σ : LoginState) : Bool := σ.attempts.locked σ.now

def set (σ : LoginState) (i : ℕ) (call : LoginCall) : LoginState := { σ with calls := σ.calls.set i call }

def login (σ : LoginState) (password : String) : LoginState :=
  { σ with calls := σ.calls ++ [match validatePassword password with
    | .ok _ => .started password
    | .error e => .returned (.error e)] }

def check (σ : LoginState) (i : ℕ) : LoginState :=
  match σ.calls[i]? with
  | some (.started password) =>
    match checkLoginLockout σ.attempts σ.now with
    | .ok _ => σ.set i (.trying password)
    | .error e => σ.set i (.returned (.error e))
  | _ => σ

/-- A password is verified. -/
def verify (σ : LoginState) : LoginState :=
  { σ with
    verified := σ.verified + 1
    verifiedWhileLocked := if σ.locked then σ.verifiedWhileLocked + 1 else σ.verifiedWhileLocked }

def update (σ : LoginState) (i : ℕ) : LoginState :=
  match σ.calls[i]? with
  | some (.succeeded user) => { σ.set i (.returned (.ok user)) with attempts := none, verified := 0 }
  | some (.failed e) => { σ.set i (.returned (.error e)) with attempts := σ.attempts.recordFailure σ.now }
  | _ => σ

def tick (σ : LoginState) (duration : ℕ) : LoginState :=
  { σ with
    now := σ.now + duration
    verified := if σ.locked && !σ.attempts.locked (σ.now + duration) then 0 else σ.verified }

section trying

variable (verifyPassword : String → String → Bool) (email : String)

def tryLogin (σ : LoginState) (i : ℕ) (allUsers : Except String (List User)) : LoginState :=
  match σ.calls[i]? with
  | some (.trying password) =>
    match allUsers.bind (credentials email) with
    | .error e => σ.set i (.failed e)
    | .ok (user, passwordHash) =>
      if verifyPassword password passwordHash then σ.verify.set i (.succeeded user)
      else σ.verify.set i (.failed "Invalid username or password")
  | _ => σ

def step (σ : LoginState) : LoginEvent → LoginState
  | .login password => σ.login password
  | .check i => σ.check i
  | .tryLogin i allUsers => σ.tryLogin verifyPassword email i allUsers
  | .update i => σ.update i
  | .cleanup => { σ with attempts := σ.attempts.cleanup σ.now }
  | .tick duration => σ.tick duration

end trying

end LoginState

end VantageNet.Accounts
