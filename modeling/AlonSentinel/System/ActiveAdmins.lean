import AlonSentinel.System.AuthSystem

/-! The number of active admin users in any interleaving of requests. A deletion counts them
before it deletes, in a statement of its own, and an update does not count them at all.
-/

namespace AlonSentinel.System

open Api
open Auth
open Domain
open KeyedTable
open Relation
open TransitionSystem

variable {libraries : AuthLibraries} {server after : AuthServer} {request stepped : Request}
  {entropy : Entropy} {start state next : AuthState} {action : AuthAction} {userId : Int}

------------------------------------------------------------
-- Statements
------------------------------------------------------------

/-- The user whom the next statement of a request deactivates or deletes. -/
def removedUser? (request : Request) : Option Int :=
  match request.endpoint, request.phase with
  | .updateAdminUser userId payload, .handle (.updateUser _) =>
      if payload.isActive then none else some userId
  | .deleteAdminUser userId, .handle .deleteUser => some userId
  | _, _ => none

/-- An active user is deactivated or deleted only while there is another one. -/
def sparesLastAdmin (state : AuthState) : AuthAction → Bool
  | .act id _ =>
      match (state.requests[id]?).bind removedUser? with
      | some userId =>
          !state.server.db.isActive ⟨.adminUser, userId⟩
            || 1 < countActiveAdminUsers state.server.db
      | none => true
  | _ => true

def SparesLastAdmin (state : AuthState) (action : AuthAction) (_ : AuthState) : Prop :=
  sparesLastAdmin state action = true

instance (state : AuthState) (action : AuthAction) (next : AuthState)
    : Decidable (SparesLastAdmin state action next) :=
  inferInstanceAs (Decidable (_ = true))

/-- There is an active admin user for as long as the last one is spared, and no longer. -/
structure KeepsActiveAdmin (libraries : AuthLibraries) (start : AuthState) : Prop where
  along
    : ∀ later,
        ReflTransGen (NextWhere (stepAuth libraries) SparesLastAdmin) start later
        → 0 < countActiveAdminUsers later.server.db
  lost
    : ∀ later action next,
        ReflTransGen (Next (stepAuth libraries)) start later
        → stepAuth libraries later action = some next
        → sparesLastAdmin later action = false
        → countActiveAdminUsers next.server.db = 0

------------------------------------------------------------
-- What the statements do to the number of active users
------------------------------------------------------------

/-- The row behind an active user. -/
theorem find?_of_isActive {db : AuthDatabase}
    (isActive : db.isActive ⟨.adminUser, userId⟩ = true)
    : ∃ user, db.adminUsers.find? userId = some user ∧ user.isActive = true := by
  unfold AuthDatabase.isActive at isActive
  exact (Option.any_eq_true _ _).mp isActive

theorem countActive_updateAdminUser {db after : AuthDatabase} {params : AdminUserUpdateParams}
    {user stored : AdminUser} (found : db.adminUsers.find? userId = some stored)
    (updated : updateAdminUser db userId params = .ok (some user, after))
    : countActiveAdminUsers after + (if stored.isActive then 1 else 0)
      = countActiveAdminUsers db + if params.isActive then 1 else 0 := by
  obtain ⟨_, rfl⟩ := updateAdminUser_ok updated
  exact SerialTable.countP_update found params.set (fun _ _ => rfl) (·.isActive)

theorem countActive_deleteAdminUser {db after : AuthDatabase} {user : AdminUser}
    (deleted : deleteAdminUser db userId = (some user, after))
    : countActiveAdminUsers after + (if user.isActive then 1 else 0)
      = countActiveAdminUsers db := by
  obtain ⟨found, rfl⟩ := deleteAdminUser_some deleted
  exact SerialTable.countP_delete found (·.isActive)

/-- No step takes away the last active user when the statement behind it spares the user. -/
theorem someActive_effect (effect : ServerEffect libraries server request after)
    (spares
      : ∀ userId,
          removedUser? request = some userId
          → server.db.isActive ⟨.adminUser, userId⟩ = true
          → 1 < countActiveAdminUsers server.db)
    (someActive : 0 < countActiveAdminUsers server.db)
    : 0 < countActiveAdminUsers after.db := by
  cases effect with
  | same | shrunk | inserted | revoked => exact someActive
  | issued stored =>
      obtain ⟨_, rfl, _, _⟩ := createToken_ok stored
      exact someActive
  | createdUser _ _ _ created =>
      obtain ⟨_, _, rfl, rows, _⟩ := createAdminUserWithRoles_ok created
      rw [countActiveAdminUsers, rows, List.countP_append]
      exact Nat.add_pos_left someActive _
  | @updatedUser userId payload salt _ _ db endpoint phase updated =>
      obtain ⟨⟨stored, found, _⟩, _⟩ := updateAdminUser_ok updated
      have count := countActive_updateAdminUser found updated
      have isActive : server.db.isActive ⟨.adminUser, userId⟩ = stored.isActive :=
        congrArg (Option.any AdminUser.isActive) found
      have removes (deactivates : payload.isActive = false)
          : removedUser? request = some userId := by
        simp [removedUser?, endpoint, phase, deactivates]
      have sameFlag : (payload.params libraries salt).isActive = payload.isActive := rfl
      rw [sameFlag] at count
      change 0 < countActiveAdminUsers db
      cases wasActive : stored.isActive <;> cases staysActive : payload.isActive
        <;> simp only [wasActive, staysActive, if_true, if_false, Bool.false_eq_true] at count
      · omega
      · omega
      · have several := spares userId (removes staysActive) (isActive.trans wasActive)
        omega
      · omega
  | @deletedUser userId user db endpoint phase deleted =>
      have count := countActive_deleteAdminUser deleted
      have isActive : server.db.isActive ⟨.adminUser, userId⟩ = user.isActive :=
        congrArg (Option.any AdminUser.isActive) (deleteAdminUser_some deleted).1
      have removes : removedUser? request = some userId := by
        simp [removedUser?, endpoint, phase]
      change 0 < countActiveAdminUsers db
      cases wasActive : user.isActive <;>
        simp only [wasActive, if_true, if_false, Bool.false_eq_true] at count
      · omega
      · have several := spares userId removes (isActive.trans wasActive)
        omega
  | createdClient created =>
      obtain ⟨_, rfl⟩ := createApiClient_ok created
      exact someActive
  | setClient isSet =>
      obtain ⟨_, rfl⟩ := setApiClient_some isSet
      exact someActive
  | deletedClient deleted =>
      obtain ⟨_, rfl⟩ := deleteApiClient_true deleted
      exact someActive
  | others adminUsers =>
      rw [countActiveAdminUsers, adminUsers]
      exact someActive

/-- A statement that removes the only active user leaves none. -/
theorem noneActive_of_removed (removes : removedUser? request = some userId)
    (isActive : server.db.isActive ⟨.adminUser, userId⟩ = true)
    (isLast : countActiveAdminUsers server.db ≤ 1)
    (taken : requestStep libraries server request entropy = some (after, stepped))
    : countActiveAdminUsers after.db = 0 := by
  obtain ⟨stored, found, wasActive⟩ := find?_of_isActive isActive
  unfold removedUser? at removes
  split at removes
  · rename_i updated payload roleIds endpoint phase
    split at removes
    · cases removes
    · rename_i deactivates
      obtain rfl := Option.some.inj removes
      simp only [requestStep, phase, handlerStep, stepUpdateUser, endpoint,
        Option.map_eq_some_iff] at taken
      obtain ⟨⟨db, _⟩, ran, same⟩ := taken
      cases same
      split at ran
      · rename_i result ok
        obtain ⟨row, db⟩ := result
        cases row with
        | none =>
            unfold updateAdminUser at ok
            rw [found] at ok
            simp only at ok
            split at ok <;> cases ok
        | some row =>
            cases ran
            have count := countActive_updateAdminUser found ok
            have sameFlag : (payload.params libraries entropy.salt).isActive = false :=
              Bool.eq_false_iff.mpr deactivates
            simp only [wasActive, sameFlag, if_true, if_false, Bool.false_eq_true] at count
            change countActiveAdminUsers db = 0
            omega
      · cases ran
  · rename_i deleted endpoint phase
    obtain rfl := Option.some.inj removes
    cases deletes : deleteAdminUser server.db deleted with
    | mk row db =>
        simp only [requestStep, phase, handlerStep, stepDeleteUser, endpoint, deletes,
          Option.map_some] at taken
        cases row with
        | none =>
            unfold deleteAdminUser at deletes
            rw [found] at deletes
            cases deletes
        | some row =>
            cases taken
            have count := countActive_deleteAdminUser deletes
            obtain rfl := Option.some.inj (found.symm.trans (deleteAdminUser_some deletes).1)
            rw [if_pos wasActive] at count
            change countActiveAdminUsers db = 0
            omega
  · cases removes

------------------------------------------------------------
-- Runs
------------------------------------------------------------

/-- A step that spares the last active user leaves one. -/
theorem someActive_step (someActive : 0 < countActiveAdminUsers state.server.db)
    (taken : stepAuth libraries state action = some next)
    (spares : sparesLastAdmin state action = true)
    : 0 < countActiveAdminUsers next.server.db := by
  cases action with
  | act id entropy =>
      obtain ⟨request, found, taken⟩ := Option.bind_eq_some_iff.mp taken
      obtain ⟨⟨server, stepped⟩, steps, taken⟩ := Option.bind_eq_some_iff.mp taken
      cases taken
      refine someActive_effect (requestStepped_effect (requestStep_cases steps))
        (fun userId removes isActive => ?_) someActive
      simpa [sparesLastAdmin, found, removes, isActive] using spares
  | _ =>
      rw [countActiveAdminUsers, adminUsers_of_quiet rfl taken]
      exact someActive

/-- A step that does not spare the last active user leaves none. -/
theorem noneActive_step (taken : stepAuth libraries state action = some next)
    (removesLast : sparesLastAdmin state action = false)
    : countActiveAdminUsers next.server.db = 0 := by
  cases action with
  | act id entropy =>
      obtain ⟨request, found, taken⟩ := Option.bind_eq_some_iff.mp taken
      obtain ⟨⟨server, stepped⟩, steps, taken⟩ := Option.bind_eq_some_iff.mp taken
      cases taken
      simp only [sparesLastAdmin, found, Option.bind_some] at removesLast
      split at removesLast
      · rename_i userId removes
        simp only [Bool.or_eq_false_iff, Bool.not_eq_false', decide_eq_false_iff_not, not_lt]
          at removesLast
        exact noneActive_of_removed removes removesLast.1 removesLast.2 steps
      · cases removesLast
  | _ => cases removesLast

/-- From a state with an active admin user, there is one for as long as no active user is removed
while there is no other.
-/
theorem keepsActiveAdmin (someActive : 0 < countActiveAdminUsers start.server.db)
    : KeepsActiveAdmin libraries start where
  along _ path :=
    kept_along (fun state => 0 < countActiveAdminUsers state.server.db)
      (fun _ _ _ someActive taken spares => someActive_step someActive taken spares) someActive
      path
  lost _ _ _ _ taken removesLast := noneActive_step taken removesLast

/-- The only admin user logs in and deactivates itself. -/
def soleAdminLeaves : List AuthAction :=
  .start (.issueAdminToken ⟨"admin@shop.test", "secret"⟩) noHeaders :: actTimes 0 1 3
    ++ .start (.updateAdminUser 1 ⟨"admin@shop.test", "Admin", none, false, []⟩)
        (bearerHeaders (smallToken 1))
      :: actTimes 1 1 4

def soleAdminShop : AuthState := smallAuthState (smallAdmins ["admin@shop.test"]) .empty

theorem soleAdminLeaves_enabled
    : (run (stepAuth smallAuthLibraries) soleAdminShop soleAdminLeaves).isSome = true := by
  decide +kernel

/-- An installation without an active admin user is reached. -/
theorem lastAdmin_lost
    : let final := Option.get _ soleAdminLeaves_enabled
      ReflTransGen (Next (stepAuth smallAuthLibraries)) soleAdminShop final
        ∧ 0 < countActiveAdminUsers soleAdminShop.server.db
        ∧ countActiveAdminUsers final.server.db = 0 :=
  ⟨path_of_run (Option.some_get _).symm, by decide +kernel, by decide +kernel⟩

/-- One of two admin users deactivates the other. -/
def secondAdminLeaves : List AuthAction :=
  .start (.issueAdminToken ⟨"admin@shop.test", "secret"⟩) noHeaders :: actTimes 0 1 3
    ++ .start (.updateAdminUser 2 ⟨"guest@shop.test", "Guest", none, false, []⟩)
        (bearerHeaders (smallToken 1))
      :: actTimes 1 1 8

def twoAdminShop : AuthState :=
  smallAuthState (smallAdmins ["admin@shop.test", "guest@shop.test"]) .empty

theorem secondAdminLeaves_enabled
    : (runWhere (stepAuth smallAuthLibraries) SparesLastAdmin twoAdminShop
        secondAdminLeaves).isSome = true := by
  decide +kernel

theorem keepsActiveAdmin_secondAdminLeaves
    : let final := Option.get _ secondAdminLeaves_enabled
      final.server.db.isActive ⟨.adminUser, 2⟩ = false
        ∧ 0 < countActiveAdminUsers final.server.db :=
  ⟨by decide +kernel,
    (keepsActiveAdmin (by decide +kernel)).along _
      (path_of_runWhere (Option.some_get secondAdminLeaves_enabled).symm)⟩

end AlonSentinel.System
