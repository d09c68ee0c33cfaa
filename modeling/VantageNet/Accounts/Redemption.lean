import Mathlib
import VantageNet.Accounts.Resetting

/-! Each token of a forgotten password is used once, within an hour, and for the user whom it was sent to. -/

namespace VantageNet.Accounts

open Inventory Interaction Interaction.Program
open Events hiding Entity

section programs

variable {a : Resetter} {α : Type}

theorem follows_orInternal {r : Except String α} {post : α → Resetter → Prop} (h : ∀ x, r = .ok x → post x a) :
    Follows resetting.monitor post a (AuthService.orInternal r) := by
  cases r with
  | error e => trivial
  | ok x => exact h x rfl

theorem follows_account_statement {r : Except StorageError α} {post : α → Resetter → Prop} (h : ∀ x, r = .ok x → post x a) :
    Follows resetting.monitor post a (AuthService.account (Storage.statement r)) := by
  cases r with
  | error e => trivial
  | ok x => exact h x rfl

theorem follows_initiatePasswordReset (emailService : Bool) (email : String) :
    Follows resetting.monitor (fun _ _ => True) (Resetter.start (.forgotPassword emailService email))
      (AuthService.initiatePasswordReset emailService email) := by
  unfold AuthService.initiatePasswordReset
  cases emailService with
  | false => trivial
  | true =>
    rw [if_pos rfl]
    apply Follows.bind
    refine ⟨trivial, fun r _ => follows_account_statement ?_⟩
    rintro users rfl
    change Follows _ _ (⟨_, (users.find? (fun u : User => u.base.email = email)).elim .asking .addressed⟩ : Resetter) _
    cases users.find? (fun u : User => u.base.email = email) with
    | none => trivial
    | some user =>
      apply Follows.bind
      refine ⟨trivial, fun r _ => follows_orInternal ?_⟩
      rintro _ rfl
      refine ⟨trivial, fun id _ => ⟨trivial, fun _ _ => ⟨trivial, fun now _ => ⟨⟨user, rfl, rfl⟩, fun _ _ => ?_⟩⟩⟩⟩
      refine ⟨trivial, fun r _ => follows_orInternal ?_⟩
      intro _ _
      trivial

/-- The new password is written over the row that was read. -/
theorem follows_crudUpdate_reset {call : ResetCall} {entry : ResetToken} {now : ℕ} {passwordHash : String} (user row : User)
    (hsteady : row.steady = user.steady) (hhash : row.base.passwordHash = some passwordHash) :
    Follows resetting.monitor (fun updated b => (updated : User).id = row.id ∧ b = ⟨call, .changed entry now⟩)
      ⟨call, .hashed entry now user passwordHash⟩ (AuthService.account (Crud.update .user row)) := by
  refine ⟨fun _ _ h => (by cases h), fun r _ => ?_⟩
  cases r with
  | error e => trivial
  | ok found =>
    cases found with
    | none => trivial
    | some found =>
      refine ⟨trivial, fun updatedAt _ => ⟨⟨entry, now, user, passwordHash, rfl, hsteady, hhash⟩, fun r _ => ?_⟩⟩
      cases r with
      | error e => trivial
      | ok _ => exact ⟨rfl, rfl⟩

theorem follows_completePasswordReset (token password : String) (cookie : Uuid) :
    Follows resetting.monitor (fun user b => ∃ (entry : ResetToken) (now : ℕ), (user : User).id = entry.userId ∧
        entry.token = token ∧ b = ⟨.resetPassword token password cookie, .changed entry now⟩)
      (Resetter.start (.resetPassword token password cookie)) (AuthService.completePasswordReset token password) := by
  refine ⟨trivial, fun _ _ => ⟨⟨rfl, password, cookie, rfl⟩, fun found _ => ?_⟩⟩
  cases found with
  | none => trivial
  | some found =>
    obtain ⟨userId, createdAt⟩ := found
    refine ⟨trivial, fun now _ => ?_⟩
    change Follows _ _ (⟨_, if 3600 < AuthService.elapsedSecs createdAt now then _ else _⟩ : Resetter) (if _ then _ else _)
    split_ifs with hlate
    · trivial
    · refine ⟨?_, fun r hr => ?_⟩
      · rintro _ _ ⟨⟩
        rfl
      · cases r with
        | error e => trivial
        | ok found =>
          cases found with
          | none => trivial
          | some user =>
            obtain rfl : (user : User).id = userId := hr
            refine ⟨trivial, fun r _ => ?_⟩
            cases r with
            | error e => trivial
            | ok _ =>
              refine ⟨?_, fun r _ => ?_⟩
              · rintro _ _ _ ⟨⟩
                exact ⟨cookie, rfl⟩
              · cases r with
                | error e => trivial
                | ok passwordHash =>
                  refine ⟨trivial, fun now' _ => ?_⟩
                  change Follows _ _ (⟨.resetPassword token password cookie, .hashed ⟨token, (user : User).id, createdAt⟩ now user
                    passwordHash⟩ : Resetter) ((AuthService.account (Crud.update .user
                      (User.setPassword user passwordHash now'))).bind _)
                  apply Follows.bind
                  apply (follows_crudUpdate_reset user (User.setPassword user passwordHash now') rfl rfl).imp
                  rintro updated b ⟨hid, rfl⟩
                  exact ⟨trivial, fun _ _ => ⟨_, _, hid, rfl, rfl⟩⟩

theorem follows_resetCall (call : ResetCall) : Follows resetting.monitor (fun _ _ => True) (Resetter.start call) call.program := by
  cases call with
  | forgotPassword emailService email => exact follows_initiatePasswordReset emailService email
  | resetPassword token password cookie =>
    apply Follows.bind
    apply (follows_completePasswordReset token password cookie).imp
    rintro user b ⟨entry, now, hid, rfl, rfl⟩
    refine ⟨trivial, fun session _ => ⟨⟨entry, now, password, rfl, rfl, ?_⟩, fun _ _ => trivial⟩⟩
    rw [hid]

end programs

section steps

variable {s : ResetState} {a : Resetter} {o : ResetOp}

/-- There is still a row of the user, in which only the password may be another. -/
def Persists (s : ResetState) (user : User) : Prop := ∃ u ∈ s.db.users.rows, User.steady u = user.steady

namespace Resetter

def mails (a : Resetter) (email : String) : Prop := ∃ emailService, a.call = .forgotPassword emailService email

def presents (a : Resetter) (token : String) : Prop := ∃ password cookie, a.call = .resetPassword token password cookie

def informed (s : ResetState) (a : Resetter) : Prop :=
  match a.stage with
  | .asking => True
  | .addressed user => a.mails user.base.email ∧ Persists s user
  | .timed user now => a.mails user.base.email ∧ Persists s user ∧ now ≤ s.clock
  | .issued entry => ∃ user, a.mails user.base.email ∧ Persists s user ∧ user.id = entry.userId
  | .redeemed entry => a.presents entry.token ∧ entry.createdAt ≤ s.clock
  | .inTime entry now => a.presents entry.token ∧ entry.inTime now
  | .found entry now user | .hashed entry now user _ =>
    a.presents entry.token ∧ entry.inTime now ∧ user.id = entry.userId ∧ Persists s user
  | .changed entry now => a.presents entry.token ∧ entry.inTime now

theorem informed.mono {s' : ResetState} (h : a.informed s) (hkept : ∀ user, Persists s user → Persists s' user)
    (hclock : s.clock ≤ s'.clock) : a.informed s' := by
  obtain ⟨call, stage⟩ := a
  cases stage with
  | asking => trivial
  | addressed user => exact ⟨h.1, hkept user h.2⟩
  | timed user now => exact ⟨h.1, hkept user h.2.1, h.2.2.trans hclock⟩
  | issued entry =>
    obtain ⟨user, hmails, huser, hid⟩ := h
    exact ⟨user, hmails, hkept user huser, hid⟩
  | redeemed entry => exact ⟨h.1, h.2.trans hclock⟩
  | inTime entry now => exact h
  | found entry now user => exact ⟨h.1, h.2.1, h.2.2.1, hkept user h.2.2.2⟩
  | hashed entry now user passwordHash => exact ⟨h.1, h.2.1, h.2.2.1, hkept user h.2.2.2⟩
  | changed entry now => exact h

end Resetter

theorem clock_resetStep (o : ResetOp) (r : o.Reply) (s : ResetState) : s.clock ≤ (resetStep o r s).2.clock := by
  cases o with
  | instantNow => exact Nat.le_add_right _ _
  | _ => exact le_refl _

theorem steady_row (user : User) : user.row.steady = user.steady := rfl

theorem id_of_steady {u v : User} (h : u.steady = v.steady) : u.id = v.id := by
  have hid := congrArg Entity.id h
  exact hid

theorem email_of_steady {u v : User} (h : u.steady = v.steady) : u.base.email = v.base.email := by
  have hemail := congrArg (fun w : User => w.base.email) h
  exact hemail

/-- What an operation may do to the rows of `users`. -/
theorem users_resetStep (hok : a.ok o) (r : o.Reply) : (resetStep o r s).2.db.users.rows = s.db.users.rows ∨
    ∃ row : User, o = .account (.update .user row) ∧ s.db.has .user row.id = true ∧
      (resetStep o r s).2.db.users.rows = s.db.users.rows.filter (fun u => u.id ≠ row.id) ++ [row.row] := by
  cases o with
  | account o =>
    cases o with
    | create k row => cases hok
    | delete k f => cases hok
    | update k row =>
      cases k with
      | access => cases hok
      | invite => cases hok
      | user =>
        cases r with
        | error e => exact .inl rfl
        | ok x =>
          have hupdate : (resetStep (.account (.update .user row)) (.ok x) s).2.db = (s.db.update .user row (.ok x)).2 := rfl
          rw [hupdate]
          simp only [Db.update]
          split_ifs with hhas hapart
          · exact .inr ⟨row, rfl, hhas, rfl⟩
          · exact .inl rfl
          · exact .inl rfl
          · exact .inl rfl
    | _ => exact .inl rfl
  | _ => exact .inl rfl

theorem Resetter.informed.kept (h : a.informed s) (hok : a.ok o) (r : o.Reply) {user : User} (huser : Persists s user) :
    Persists (resetStep o r s).2 user := by
  obtain ⟨u, hu, hsteady⟩ := huser
  cases users_resetStep (s := s) hok r with
  | inl hsame => exact ⟨u, hsame ▸ hu, hsteady⟩
  | inr hupdated =>
    obtain ⟨row, rfl, -, hrows⟩ := hupdated
    obtain ⟨entry, now, read, passwordHash, hstage, hread, -⟩ := hok
    rw [Resetter.informed, hstage] at h
    obtain ⟨v, hv, hvread⟩ := h.2.2.2
    rw [Persists, hrows]
    by_cases hid : u.id = row.id
    · have heq : u = v := by
        apply eq_of_id_eq (k := .user) hu hv
        rw [hid, id_of_steady hread, id_of_steady hvread]
      refine ⟨row.row, List.mem_append_right _ List.mem_cons_self, ?_⟩
      rw [steady_row, hread, ← hvread, ← heq, hsteady]
    · exact ⟨u, List.mem_append_left _ (List.mem_filter.mpr ⟨hu, decide_eq_true hid⟩), hsteady⟩

theorem Resetter.informed.kept_iff (h : a.informed s) (hok : a.ok o) (r : o.Reply) (user : User) :
    Persists (resetStep o r s).2 user ↔ Persists s user := by
  constructor
  · rintro ⟨u, hu, hsteady⟩
    cases users_resetStep (s := s) hok r with
    | inl hsame => exact ⟨u, hsame ▸ hu, hsteady⟩
    | inr hupdated =>
      obtain ⟨row, rfl, -, hrows⟩ := hupdated
      rw [hrows] at hu
      cases List.mem_append.mp hu with
      | inl hold => exact ⟨u, List.mem_of_mem_filter hold, hsteady⟩
      | inr hnew =>
        obtain rfl := List.mem_singleton.mp hnew
        obtain ⟨entry, now, read, passwordHash, hstage, hread, -⟩ := hok
        rw [Resetter.informed, hstage] at h
        obtain ⟨v, hv, hvread⟩ := h.2.2.2
        exact ⟨v, hv, by rw [hvread, ← hread, ← hsteady, steady_row]⟩
  · exact h.kept hok r

theorem done_next {entry : ResetToken} {now : ℕ} {user : User} {passwordHash : String}
    (hstage : a.stage = .hashed entry now user passwordHash) (row : User) (r : Except StorageError Unit) :
    (a.next (.account (.update .user row)) r).done = true := by
  obtain ⟨call, stage⟩ := a
  cases hstage
  rfl

/-- A row that is another one afterwards has a new password, and nothing else. -/
theorem Resetter.informed.changes (h : a.informed s) (hok : a.ok o) (r : o.Reply) {u u' : User} (hu : u ∈ s.db.users.rows)
    (hu' : u' ∈ (resetStep o r s).2.db.users.rows) (hid : u'.id = u.id) (hne : u' ≠ u) : u'.steady = u.steady ∧
      ∃ entry now user passwordHash row, a.stage = .hashed entry now user passwordHash ∧ o = .account (.update .user row) ∧
        a.presents entry.token ∧ entry.inTime now ∧ entry.userId = u.id := by
  cases users_resetStep (s := s) hok r with
  | inl hsame =>
    rw [hsame] at hu'
    exact absurd (eq_of_id_eq (k := .user) hu' hu hid) hne
  | inr hupdated =>
    obtain ⟨row, rfl, -, hrows⟩ := hupdated
    rw [hrows] at hu'
    cases List.mem_append.mp hu' with
    | inl hold => exact absurd (eq_of_id_eq (k := .user) (List.mem_of_mem_filter hold) hu hid) hne
    | inr hnew =>
      obtain rfl := List.mem_singleton.mp hnew
      obtain ⟨entry, now, read, passwordHash, hstage, hread, -⟩ := hok
      rw [Resetter.informed, hstage] at h
      obtain ⟨hpresents, hinTime, huser, v, hv, hvread⟩ := h
      have hrow : row.id = u.id := hid
      have heq : v = u := eq_of_id_eq (k := .user) hv hu (by rw [id_of_steady hvread, ← id_of_steady hread, hrow])
      refine ⟨by rw [steady_row, hread, ← hvread, heq], entry, now, read, passwordHash, row, hstage, rfl, hpresents, hinTime, ?_⟩
      rw [← huser, ← id_of_steady hread, hrow]

theorem Resetter.informed.list {email : String} {emailService : Bool} {f : User → Bool} (r : Except StorageError (List User)) :
    (Resetter.next ⟨.forgotPassword emailService email, .asking⟩ (.account (.list .user f))
      (resetStep (.account (.list .user f)) r s).1).informed s := by
  cases r with
  | error e => trivial
  | ok proposed =>
    change Resetter.informed s ⟨_, ((arrange (fun u : User => u.createdAt) (s.db.users.rows.filter f) proposed).find?
      (fun u : User => u.base.email = email)).elim .asking .addressed⟩
    cases hfind : (arrange (fun u : User => u.createdAt) (s.db.users.rows.filter f) proposed).find?
      (fun u : User => u.base.email = email) with
    | none => trivial
    | some user =>
      have hmem := List.mem_filter.mp ((arrange_perm _ _ _).mem_iff.mp (List.mem_of_find?_eq_some hfind))
      have hemail : user.base.email = email := by simpa using List.find?_some hfind
      exact ⟨⟨emailService, by rw [hemail]⟩, user, hmem.1, rfl⟩

theorem Resetter.informed.removeToken {call : ResetCall} {token : String} (hok : Resetter.ok ⟨call, .asking⟩ (.removeToken token))
    (hpast : ∀ e ∈ s.tokens, e.createdAt ≤ s.clock) (r : Option (Uuid × ℕ)) :
    (Resetter.next ⟨call, .asking⟩ (.removeToken token) (resetStep (.removeToken token) r s).1).informed s := by
  obtain ⟨-, password, cookie, rfl⟩ := hok
  change (Resetter.next _ (.removeToken token) ((s.tokens.find? (fun e => e.token = token)).map
    (fun e => (e.userId, e.createdAt)))).informed s
  cases hfind : s.tokens.find? (fun e => e.token = token) with
  | none => trivial
  | some e => exact ⟨⟨password, cookie, rfl⟩, hpast e (List.mem_of_find?_eq_some hfind)⟩

theorem Resetter.informed.get {call : ResetCall} {entry : ResetToken} {now : ℕ} {id : Uuid}
    (h : Resetter.informed s ⟨call, .inTime entry now⟩) (hid : id = entry.userId) (r : Except StorageError (Option User)) :
    (Resetter.next ⟨call, .inTime entry now⟩ (.account (.get .user id)) (resetStep (.account (.get .user id)) r s).1).informed s := by
  cases r with
  | error e => exact h
  | ok found =>
    change (Resetter.next _ (.account (.get .user id)) (.ok (s.db.users.rows.find? (fun u : User => u.id = id)))).informed s
    cases hfind : s.db.users.rows.find? (fun u : User => u.id = id) with
    | none => exact h
    | some user =>
      have hmem : user.id = id := by simpa using List.find?_some hfind
      exact ⟨h.1, h.2, hmem.trans hid, user, List.mem_of_find?_eq_some hfind, rfl⟩

/-- The call that carries out an operation knows afterwards what it should. -/
theorem Resetter.informed.own (h : a.informed s) (hok : a.ok o) (hpast : ∀ e ∈ s.tokens, e.createdAt ≤ s.clock) (r : o.Reply) :
    (a.next o (resetStep o r s).1).informed (resetStep o r s).2 := by
  have hlater (b : Resetter) (hb : b.informed s) : b.informed (resetStep o r s).2 :=
    hb.mono (fun user huser => h.kept hok r huser) (clock_resetStep o r s)
  obtain ⟨call, stage⟩ := a
  cases stage with
  | asking =>
    cases o with
    | account o =>
      cases o with
      | list k f =>
        cases k with
        | user =>
          cases call with
          | forgotPassword emailService email => exact hlater _ (.list r)
          | resetPassword token password cookie => trivial
        | _ => cases call <;> trivial
      | _ => cases call <;> trivial
    | removeToken token => exact hlater _ (.removeToken hok hpast r)
    | _ => cases call <;> trivial
  | addressed user =>
    cases o with
    | instantNow => exact ⟨h.1, (hlater _ h).2, le_refl _⟩
    | _ => exact hlater _ h
  | timed user now =>
    cases o with
    | insertToken token userId createdAt =>
      obtain ⟨_, hstage, rfl⟩ := hok
      cases hstage
      exact ⟨user, h.1, (hlater _ h).2.1, rfl⟩
    | _ => exact hlater _ h
  | issued entry => exact hlater _ h
  | redeemed entry =>
    cases o with
    | instantNow =>
      change Resetter.informed _ ⟨call, if 3600 < AuthService.elapsedSecs entry.createdAt (s.clock + r) then _ else _⟩
      split_ifs with hlate
      · exact hlater _ h
      · exact ⟨h.1, h.2.trans (Nat.le_add_right _ _), Nat.not_lt.mp hlate⟩
    | _ => exact hlater _ h
  | inTime entry now =>
    cases o with
    | account o =>
      cases o with
      | get k id =>
        cases k with
        | user => exact hlater _ (.get h (hok entry now rfl) r)
        | _ => exact hlater _ h
      | _ => exact hlater _ h
    | _ => exact hlater _ h
  | found entry now user =>
    cases o with
    | hashPassword password =>
      cases r with
      | error e => exact hlater _ h
      | ok passwordHash => exact hlater _ h
    | _ => exact hlater _ h
  | hashed entry now user passwordHash =>
    cases o with
    | account o =>
      cases o with
      | update k row =>
        cases k with
        | user => exact ⟨h.1, h.2.1⟩
        | _ => cases hok
      | _ => exact hlater _ h
    | _ => exact hlater _ h
  | changed entry now => exact hlater _ h

theorem past_resetStep (h : a.informed s) (hok : a.ok o) (hpast : ∀ e ∈ s.tokens, e.createdAt ≤ s.clock) (r : o.Reply) :
    ∀ e ∈ (resetStep o r s).2.tokens, e.createdAt ≤ (resetStep o r s).2.clock := by
  intro e he
  cases o with
  | instantNow => exact (hpast e he).trans (Nat.le_add_right _ _)
  | insertToken token userId createdAt =>
    obtain ⟨user, hstage, rfl⟩ := hok
    rw [Resetter.informed, hstage] at h
    cases List.mem_cons.mp he with
    | inl heq =>
      rw [heq]
      exact h.2.2
    | inr hmem => exact hpast e (List.mem_of_mem_filter hmem)
  | removeToken token => exact hpast e (List.mem_of_mem_filter he)
  | _ => exact hpast e he

theorem same_next (hinsert : ∀ token userId createdAt, o ≠ .insertToken token userId createdAt)
    (hremove : ∀ token, o ≠ .removeToken token) (r : o.Reply) :
    (a.next o r).issued = a.issued ∧ (a.next o r).redeemed = a.redeemed := by
  obtain ⟨call, stage⟩ := a
  cases stage with
  | asking =>
    cases o with
    | account o =>
      cases o with
      | list k f =>
        cases k with
        | user =>
          cases call with
          | forgotPassword emailService email =>
            cases r with
            | error e => exact ⟨rfl, rfl⟩
            | ok users =>
              unfold Resetter.next
              dsimp only
              cases List.find? (fun u : User => u.base.email = email) users <;> exact ⟨rfl, rfl⟩
          | resetPassword token password cookie => exact ⟨rfl, rfl⟩
        | _ => cases call <;> exact ⟨rfl, rfl⟩
      | _ => cases call <;> exact ⟨rfl, rfl⟩
    | removeToken token => exact absurd rfl (hremove token)
    | _ => cases call <;> exact ⟨rfl, rfl⟩
  | timed user now =>
    cases o with
    | insertToken token userId createdAt => exact absurd rfl (hinsert token userId createdAt)
    | _ => exact ⟨rfl, rfl⟩
  | redeemed entry =>
    cases o with
    | instantNow =>
      unfold Resetter.next
      dsimp only
      split_ifs <;> exact ⟨rfl, rfl⟩
    | _ => exact ⟨rfl, rfl⟩
  | inTime entry now =>
    cases o with
    | account o =>
      cases o with
      | get k id =>
        cases k with
        | user =>
          cases r with
          | error e => exact ⟨rfl, rfl⟩
          | ok found => cases found <;> exact ⟨rfl, rfl⟩
        | _ => exact ⟨rfl, rfl⟩
      | _ => exact ⟨rfl, rfl⟩
    | _ => exact ⟨rfl, rfl⟩
  | found entry now user =>
    cases o with
    | hashPassword password => cases r <;> exact ⟨rfl, rfl⟩
    | _ => exact ⟨rfl, rfl⟩
  | hashed entry now user passwordHash =>
    cases o with
    | account o =>
      cases o with
      | update k row => cases k <;> exact ⟨rfl, rfl⟩
      | _ => exact ⟨rfl, rfl⟩
    | _ => exact ⟨rfl, rfl⟩
  | _ => cases o <;> exact ⟨rfl, rfl⟩

theorem add_filter_le {α : Type} [DecidableEq α] {p : α → Bool} {xs : List α} {x : α} (hmem : x ∈ xs) (hx : p x = false) :
    ({x} : Multiset α) + (xs.filter p : Multiset α) ≤ xs := by
  have hsplit := Multiset.filter_add_not (fun a => p a = false) (xs : Multiset α)
  rw [← hsplit]
  apply add_le_add
  · exact Multiset.singleton_le.mpr (Multiset.mem_filter.mpr ⟨Multiset.mem_coe.mpr hmem, hx⟩)
  · rw [Multiset.filter_coe]
    simp

theorem filter_le_self {α : Type} {p : α → Bool} {xs : List α} : (xs.filter p : Multiset α) ≤ xs :=
  Multiset.coe_le.mpr List.filter_sublist.subperm

theorem le_of_balance {α : Type} {made made' used used' held held' issued redeemed : Multiset α}
    (h : used + redeemed + held ≤ made + issued) (hbalance : used' + held' + made ≤ used + held + made') :
    used' + redeemed + held' ≤ made' + issued := by
  apply le_of_add_le_add_right (a := made)
  calc used' + redeemed + held' + made = (used' + held' + made) + redeemed := by ac_rfl
    _ ≤ (used + held + made') + redeemed := add_le_add hbalance le_rfl
    _ = (used + redeemed + held) + made' := by ac_rfl
    _ ≤ (made + issued) + made' := add_le_add h le_rfl
    _ = made' + issued + made := by ac_rfl

/-- With a token that is used up there is one less, and with one that is made one more may be. -/
theorem balance (hok : a.ok o) (r : o.Reply) :
    ((a.next o (resetStep o r s).1).redeemed.toList : Multiset ResetToken) + (resetStep o r s).2.tokens + a.issued.toList ≤
      (a.redeemed.toList : Multiset ResetToken) + s.tokens + (a.next o (resetStep o r s).1).issued.toList := by
  have hsame (htokens : (resetStep o r s).2.tokens = s.tokens)
      (hinsert : ∀ token userId createdAt, o ≠ .insertToken token userId createdAt) (hremove : ∀ token, o ≠ .removeToken token) :
      ((a.next o (resetStep o r s).1).redeemed.toList : Multiset ResetToken) + (resetStep o r s).2.tokens + a.issued.toList ≤
        (a.redeemed.toList : Multiset ResetToken) + s.tokens + (a.next o (resetStep o r s).1).issued.toList := by
    obtain ⟨hissued, hredeemed⟩ := same_next (a := a) hinsert hremove (resetStep o r s).1
    rw [hissued, hredeemed, htokens]
  cases o with
  | insertToken token userId createdAt =>
    obtain ⟨user, hstage, -⟩ := hok
    obtain ⟨call, stage⟩ := a
    cases hstage
    change (0 : Multiset ResetToken) + ((⟨token, userId, createdAt⟩ :: s.tokens.filter (fun e => e.token ≠ token) :
      List ResetToken) : Multiset ResetToken) + 0 ≤ 0 + (s.tokens : Multiset ResetToken) + {⟨token, userId, createdAt⟩}
    rw [zero_add, add_zero, zero_add, ← Multiset.cons_coe, ← Multiset.singleton_add, add_comm]
    exact add_le_add filter_le_self le_rfl
  | removeToken token =>
    obtain ⟨hstage, password, cookie, hcall⟩ := hok
    obtain ⟨call, stage⟩ := a
    cases hstage
    cases hcall
    have hreply : (resetStep (.removeToken token) r s).1 =
      (s.tokens.find? (fun e => e.token = token)).map (fun e => (e.userId, e.createdAt)) := rfl
    rw [hreply]
    cases hfind : s.tokens.find? (fun e => e.token = token) with
    | none =>
      change (0 : Multiset ResetToken) + (s.tokens.filter (fun e => e.token ≠ token) : Multiset ResetToken) + 0 ≤
        0 + (s.tokens : Multiset ResetToken) + 0
      rw [zero_add, add_zero, zero_add, add_zero]
      exact filter_le_self
    | some e =>
      have hmem := List.mem_of_find?_eq_some hfind
      obtain rfl : e.token = token := by simpa using List.find?_some hfind
      change ({e} : Multiset ResetToken) + (s.tokens.filter (fun e' => e'.token ≠ e.token) : Multiset ResetToken) + 0 ≤
        0 + (s.tokens : Multiset ResetToken) + 0
      rw [add_zero, zero_add, add_zero]
      apply add_filter_le hmem
      simp
  | _ => exact hsame rfl (fun _ _ _ h => by cases h) (fun _ h => by cases h)

end steps

section runs

variable {w : ResetRun}

theorem answersReset_step (o : ResetOp) (r : o.Reply) (s : ResetState) : answersReset o (resetStep o r s).1 := by
  cases o with
  | account o =>
    cases o with
    | get k id =>
      cases k with
      | user =>
        cases r with
        | error e => trivial
        | ok found =>
          change answersReset (.account (.get .user id)) (.ok (s.db.users.rows.find? (fun u : User => u.id = id)))
          cases hfind : s.db.users.rows.find? (fun u : User => u.id = id) with
          | none => trivial
          | some user =>
            have hid : user.id = id := by simpa using List.find?_some hfind
            exact hid
      | _ => trivial
    | _ => trivial
  | _ => trivial

structure Redeeming (w : ResetRun) : Prop where
  follows : ∀ j p, w.prog j = some p → Follows resetting.monitor (fun _ _ => True) (w.points j) p
  informed : ∀ j, (w.points j).informed w.pool.state
  calls : ∀ (j : ℕ) t, w.pool.threads[j]? = some t → (w.points j).call = t.call
  past : ∀ e ∈ w.pool.state.tokens, e.createdAt ≤ w.pool.state.clock
  once : w.redeemed + w.pool.state.tokens ≤ w.issued

theorem Redeeming.step (h : Redeeming w) (tick : ResetTick) : Redeeming (resetting.step w tick) := by
  cases tick with
  | spawn c =>
    constructor
    · intro j p hp
      rw [Tracking.prog_spawn] at hp
      split_ifs at hp with hj
      · cases hp
        rw [hj, Tracking.points_spawn_self]
        exact follows_resetCall c
      · rw [Tracking.points_spawn_of_ne c hj]
        exact h.follows j p hp
    · intro j
      by_cases hj : j = w.pool.threads.length
      · rw [hj, Tracking.points_spawn_self]
        trivial
      · rw [Tracking.points_spawn_of_ne c hj]
        exact h.informed j
    · intro j t ht
      have ht' : (w.pool.threads ++ [⟨c, [], c.program⟩])[j]? = some t := ht
      by_cases hj : j = w.pool.threads.length
      · rw [hj, List.getElem?_concat_length] at ht'
        cases ht'
        rw [hj, Tracking.points_spawn_self]
        rfl
      · rw [Tracking.points_spawn_of_ne c hj]
        apply h.calls j t
        have hlt := (List.getElem?_eq_some_iff.mp ht').1
        rw [List.length_append, List.length_singleton] at hlt
        rwa [List.getElem?_append_left (by omega)] at ht'
    · exact h.past
    · have hissued : ResetRun.issued (resetting.step w (.spawn c)) = w.issued := (Tracking.worth_spawn _ c).trans (add_zero _)
      have hredeemed : ResetRun.redeemed (resetting.step w (.spawn c)) = w.redeemed :=
        (Tracking.worth_spawn _ c).trans (add_zero _)
      rw [hissued, hredeemed]
      exact h.once
  | run i answers =>
    rcases Tracking.step_run_cases (T := resetting) (w := w) i answers with ⟨hpass, -⟩ | ⟨o, k, t, hacts⟩
    · constructor
      · intro j p hp
        rw [hpass.prog] at hp
        rw [hpass.points]
        exact h.follows j p hp
      · intro j
        rw [hpass.state, hpass.points]
        exact h.informed j
      · intro j t ht
        have hcall := hpass.call j
        rw [ht, Option.map_some] at hcall
        obtain ⟨t', ht', heq⟩ := Option.map_eq_some_iff.mp hcall.symm
        rw [hpass.points, ← heq]
        exact h.calls j t' ht'
      · rw [hpass.state]
        exact h.past
      · have hissued : ResetRun.issued (resetting.step w (.run i answers)) = w.issued := hpass.worth_eq _
        have hredeemed : ResetRun.redeemed (resetting.step w (.run i answers)) = w.redeemed := hpass.worth_eq _
        rw [hissued, hredeemed, hpass.state]
        exact h.once
    · obtain ⟨hok, hnext⟩ := h.follows i _ hacts.thread
      have hinformed := h.informed i
      constructor
      · intro j p hp
        rw [hacts.prog] at hp
        split_ifs at hp with hj
        · cases hp
          rw [hj, hacts.own]
          exact hnext _ (answersReset_step o _ _)
        · rw [hacts.other hj]
          exact h.follows j p hp
      · intro j
        rw [hacts.state]
        by_cases hj : j = i
        · rw [hj, hacts.own]
          exact hinformed.own hok h.past _
        · rw [hacts.other hj]
          exact (h.informed j).mono (fun user huser => hinformed.kept hok _ huser) (clock_resetStep o _ _)
      · intro j t' ht'
        rw [hacts.get] at ht'
        split_ifs at ht' with hj
        · cases ht'
          rw [hj, hacts.own]
          exact h.calls i t hacts.get_self
        · rw [hacts.other hj]
          exact h.calls j t' ht'
      · rw [hacts.state]
        exact past_resetStep hinformed hok h.past _
      · obtain ⟨issued, hissued, hissued'⟩ := hacts.worth_eq (fun a => (a.issued.toList : Multiset ResetToken))
        obtain ⟨redeemed, hredeemed, hredeemed'⟩ := hacts.worth_eq (fun a => (a.redeemed.toList : Multiset ResetToken))
        have honce := h.once
        have hbalance := balance (s := w.pool.state) hok (answers o)
        rw [ResetRun.issued, ResetRun.redeemed, hissued, hredeemed] at honce
        rw [ResetRun.issued, ResetRun.redeemed, hissued', hredeemed', hacts.state]
        exact le_of_balance honce hbalance

/-- Every call stands where its program does, and knows what it should. -/
theorem redeeming_of_run (db : Db) (clock : ℕ) (ticks : List ResetTick) :
    Redeeming (ticks.foldl resetting.step (ResetRun.start db clock)) := by
  have hstart : Redeeming (ResetRun.start db clock) := by
    constructor
    · intro j p hp
      cases hp
    · intro j
      trivial
    · intro j t ht
      cases ht
    · intro e he
      cases he
    · exact le_refl _
  generalize ResetRun.start db clock = w at hstart
  induction ticks generalizing w with
  | nil => exact hstart
  | cons tick ticks ih => exact ih _ (hstart.step tick)

/-- The call presents, within an hour, a token that another one has sent to the address of the user. -/
def ByToken (w : ResetRun) (i : ℕ) (u : User) (cookie : Uuid) : Prop :=
  ∃ entry now password j emailService, (w.points i).redeemed = some entry ∧ entry.inTime now ∧ entry.userId = u.id ∧
    w.call i = some (.resetPassword entry.token password cookie) ∧ (w.points j).issued = some entry ∧
      w.call j = some (.forgotPassword emailService u.base.email)

/-- What a step may do to the users and the sessions. -/
structure OnlyByToken (w w' : ResetRun) : Prop where
  kept : ∀ user, Persists w'.pool.state user ↔ Persists w.pool.state user
  password : ∀ u ∈ w.pool.state.db.users.rows, ∀ u' ∈ w'.pool.state.db.users.rows, u'.id = u.id → u' ≠ u →
    User.steady u' = User.steady u ∧ ∃ i cookie, ByToken w i u cookie ∧ (w.points i).done = false ∧ (w'.points i).done = true
  session : ∀ cookie, (w'.pool.state.db.sessions cookie).userId ≠ (w.pool.state.db.sessions cookie).userId →
    ∃ u ∈ w.pool.state.db.users.rows, (w'.pool.state.db.sessions cookie).userId = some u.id ∧
      ∃ i, ByToken w i u cookie ∧ (w.points i).done = true

theorem mem_worth {f : Resetter → Option ResetToken} {entry : ResetToken} :
    entry ∈ w.worth (fun a => ((f a).toList : Multiset ResetToken)) ↔
      ∃ j < w.pool.threads.length, f (w.points j) = some entry := by
  simp [Tracked.worth, Multiset.mem_sum]

/-- A token that is used up was sent to somebody. -/
theorem Redeeming.byToken (h : Redeeming w) {i : ℕ} {entry : ResetToken} {now : ℕ} {password : String} {cookie : Uuid}
    (hi : i < w.pool.threads.length) (hredeemed : (w.points i).redeemed = some entry) (hinTime : entry.inTime now)
    (hcall : (w.points i).call = .resetPassword entry.token password cookie) :
    ∃ u ∈ w.pool.state.db.users.rows, entry.userId = u.id ∧ ByToken w i u cookie := by
  have hcalls (j : ℕ) (hj : j < w.pool.threads.length) : w.call j = some (w.points j).call := by
    rw [ResetRun.call, List.getElem?_eq_getElem hj, Option.map_some, h.calls j _ (List.getElem?_eq_getElem hj)]
  have hmem : entry ∈ w.issued := Multiset.mem_of_le h.once (Multiset.mem_add.mpr (.inl (mem_worth.mpr ⟨i, hi, hredeemed⟩)))
  obtain ⟨j, hj, hissued⟩ := mem_worth.mp hmem
  have hinformed := h.informed j
  have hstage : (w.points j).stage = .issued entry := by
    unfold Resetter.issued at hissued
    split at hissued
    · cases hissued
      assumption
    · cases hissued
  rw [Resetter.informed, hstage] at hinformed
  obtain ⟨user, ⟨emailService, hmails⟩, ⟨u, hu, hsteady⟩, hid⟩ := hinformed
  have huser : entry.userId = u.id := hid.symm.trans (id_of_steady hsteady).symm
  refine ⟨u, hu, huser, entry, now, password, j, emailService, hredeemed, hinTime, huser, ?_, hissued, ?_⟩
  · rw [hcalls i hi, hcall]
  · rw [hcalls j hj, hmails, email_of_steady hsteady]

theorem sessions_resetStep {s : ResetState} {a : Resetter} {o : ResetOp} (hok : a.ok o) (r : o.Reply) (cookie : Uuid)
    (hne : ((resetStep o r s).2.db.sessions cookie).userId ≠ (s.db.sessions cookie).userId) :
    ∃ entry now password, a.stage = .changed entry now ∧ a.call = .resetPassword entry.token password cookie ∧
      ((resetStep o r s).2.db.sessions cookie).userId = some entry.userId := by
  cases o with
  | account o =>
    cases o with
    | saveSession cookie' session =>
      obtain ⟨entry, now, password, hstage, hcall, hsession⟩ := hok
      have hsessions : (resetStep (.account (.saveSession cookie' session)) r s).2.db.sessions =
        Function.update s.db.sessions cookie' session := rfl
      rw [hsessions] at hne ⊢
      by_cases hcookie : cookie = cookie'
      · subst hcookie
        rw [Function.update_self]
        exact ⟨entry, now, password, hstage, hcall, hsession⟩
      · rw [Function.update_of_ne hcookie] at hne
        exact absurd rfl hne
    | create k row => cases hok
    | delete k f => cases hok
    | update k row =>
      have hsessions : (resetStep (.account (.update k row)) r s).2.db.sessions = s.db.sessions := by
        cases r with
        | error e => rfl
        | ok x =>
          have hupdate : (resetStep (.account (.update k row)) (.ok x) s).2.db = (s.db.update k row (.ok x)).2 := rfl
          rw [hupdate]
          simp only [Db.update]
          cases k <;> split_ifs <;> rfl
      rw [hsessions] at hne
      exact absurd rfl hne
    | _ => exact absurd rfl hne
  | _ => exact absurd rfl hne

theorem Redeeming.onlyByToken (h : Redeeming w) (tick : ResetTick) : OnlyByToken w (resetting.step w tick) := by
  have hstay {w' : ResetRun} (hstate : w'.pool.state = w.pool.state) : OnlyByToken w w' := by
    constructor
    · intro user
      rw [hstate]
    · intro u hu u' hu' hid hne
      rw [hstate] at hu'
      exact absurd (eq_of_id_eq (k := .user) hu' hu hid) hne
    · intro cookie hne
      rw [hstate] at hne
      exact absurd rfl hne
  cases tick with
  | spawn c => exact hstay rfl
  | run i answers =>
    rcases Tracking.step_run_cases (T := resetting) (w := w) i answers with ⟨hpass, -⟩ | ⟨o, k, t, hacts⟩
    · exact hstay hpass.state
    · obtain ⟨hok, -⟩ := h.follows i _ hacts.thread
      have hinformed := h.informed i
      have hi := w.lt_of_running hacts.running
      have hstate : (resetting.step w (.run i answers)).pool.state = (resetStep o (answers o) w.pool.state).2 := hacts.state
      constructor
      · intro user
        rw [hstate]
        exact hinformed.kept_iff hok _ user
      · intro u hu u' hu' hid hne
        rw [hstate] at hu'
        obtain ⟨hsteady, entry, now, user, passwordHash, row, hstage, rfl, ⟨password, cookie, hcall⟩, hinTime, huser⟩ :=
          hinformed.changes hok _ hu hu' hid hne
        have hredeemed : (w.points i).redeemed = some entry := by rw [Resetter.redeemed, hstage]
        obtain ⟨u₀, hu₀, hid₀, hby⟩ := h.byToken hi hredeemed hinTime hcall
        obtain rfl : u₀ = u := eq_of_id_eq (k := .user) hu₀ hu (hid₀.symm.trans huser)
        refine ⟨hsteady, i, cookie, hby, by rw [Resetter.done, hstage], ?_⟩
        rw [hacts.own]
        exact done_next hstage row _
      · intro cookie hne
        rw [hstate] at hne ⊢
        obtain ⟨entry, now, password, hstage, hcall, hsession⟩ := sessions_resetStep hok _ cookie hne
        rw [Resetter.informed, hstage] at hinformed
        have hredeemed : (w.points i).redeemed = some entry := by rw [Resetter.redeemed, hstage]
        obtain ⟨u, hu, hid, hby⟩ := h.byToken hi hredeemed hinformed.2 hcall
        refine ⟨u, hu, ?_, i, hby, ?_⟩
        · rw [hsession, hid]
        · rw [Resetter.done, hstage]

/-- Of each token that was made there is at most one use, whether it succeeds or not. -/
theorem reset_token_used_once (db : Db) (clock : ℕ) (ticks : List ResetTick) :
    let w : ResetRun := ticks.foldl resetting.step (ResetRun.start db clock)
    w.redeemed + w.pool.state.tokens ≤ w.issued := (redeeming_of_run db clock ticks).once

/-- However the calls run, it takes a token to set a password and to be logged in with it. -/
theorem reset_only_by_token (db : Db) (clock : ℕ) (ticks : List ResetTick) (tick : ResetTick) :
    let w : ResetRun := ticks.foldl resetting.step (ResetRun.start db clock)
    OnlyByToken w (resetting.step w tick) := (redeeming_of_run db clock ticks).onlyByToken tick

/-- Nothing fails, and a second passes between one look at the clock and the next. -/
def mailed : Oracle resetSig
  | n, .account o => granted 0 n o
  | _, .publishAuth | _, .sendPasswordReset _ _ => .ok ()
  | _, .instantNow => 1000000000
  | _, .hashPassword password => .ok password
  | _, .removeToken _ => none
  | _, .writeTokens | _, .dropTokens | _, .insertToken _ _ _ => ()

def oneUser : Db where
  users := .singleton ⟨1, 0, 0, ⟨"a", 9, .member, none, none, none, none, [], none⟩⟩
  access := .empty
  invites := .empty
  sessions := fun _ => .new

/-- The user asks for a token and comes back with it. -/
def forgotten : List ResetTick :=
  .spawn (.forgotPassword true "a") :: List.replicate 8 (.run 0 (mailed 0)) ++
    .spawn (.resetPassword "00000000-0000-0000-0000-0000000003e8" "b" 5) :: List.replicate 12 (.run 1 (mailed 0))

example : ((forgotten.foldl resetting.step (ResetRun.start oneUser 0)).pool.state.db.users.rows.map
    (fun u : User => u.base.passwordHash)) = [some "b"] := by decide

end runs

end VantageNet.Accounts
