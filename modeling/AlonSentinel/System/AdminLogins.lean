import AlonSentinel.System.AuthSystem

/-! The emails under which admin users log in. They are stored apart as texts, and looked up
without regard to case, where two of them may be one.
-/

namespace AlonSentinel.System

open Api
open Auth
open Domain
open KeyedTable
open Relation
open TransitionSystem
open UnicodeText

variable {libraries : AuthLibraries} {server after : AuthServer} {request stepped : Request}
  {entropy : Entropy} {start state next : AuthState} {action : AuthAction}
  {db : AuthDatabase}

------------------------------------------------------------
-- Statements
------------------------------------------------------------

/-- Emails are stored without white space around them, and differ in more than case. -/
structure EmailsApart (lower : String → String) (db : AuthDatabase) : Prop where
  trimmed : ∀ user ∈ db.adminUsers.rows, trim user.email = user.email
  distinct
    : ∀ first ∈ db.adminUsers.rows, ∀ second ∈ db.adminUsers.rows,
        lower first.email = lower second.email
        → first = second

/-- An active user who gives the stored email and the right password is that very user. -/
def LogsInAsSelf (libraries : AuthLibraries) (db : AuthDatabase) : Prop :=
  ∀ user ∈ db.adminUsers.rows, ∀ password,
    user.isActive = true
    → libraries.verifyPasswordHash user.passwordHash password = true
    → ∃ authenticated,
        authenticateAdminCredentials libraries db user.email password = .ok authenticated
        ∧ authenticated.user = user

/-- The user for whom the next statement of a request stores an email, if it exists already, and
the email.
-/
def storedEmail? (request : Request) : Option (Option Int × String) :=
  match request.endpoint, request.phase with
  | .createAdminUser payload, .handle (.createUser _) => some (none, trim payload.email)
  | .updateAdminUser userId payload, .handle (.updateUser _) =>
      some (some userId, trim payload.email)
  | _, _ => none

/-- A user whose email is stored gets one that no other user has in any case. -/
def keepsEmailsApart (lower : String → String) (state : AuthState) : AuthAction → Bool
  | .act id _ =>
      match (state.requests[id]?).bind storedEmail? with
      | some (userId, email) =>
          userId.any (fun userId => (state.server.db.adminUsers.find? userId).isNone)
            || state.server.db.adminUsers.rows.all fun other =>
              some other.id = userId || lower other.email ≠ lower email
      | none => true
  | _ => true

def KeepsEmailsApart (lower : String → String) (state : AuthState) (action : AuthAction)
    (_ : AuthState)
    : Prop :=
  keepsEmailsApart lower state action = true

instance (lower : String → String) (state : AuthState) (action : AuthAction) (next : AuthState)
    : Decidable (KeepsEmailsApart lower state action next) :=
  inferInstanceAs (Decidable (_ = true))

/-- Login identities are unique for as long as the stored emails differ in more than case, and no
longer.
-/
structure LoginsUnique (libraries : AuthLibraries) (start : AuthState) : Prop where
  along
    : ∀ later,
        ReflTransGen (NextWhere (stepAuth libraries) (KeepsEmailsApart libraries.lower)) start
          later
        → EmailsApart libraries.lower later.server.db ∧ LogsInAsSelf libraries later.server.db
  lost
    : ∀ later action next,
        ReflTransGen (Next (stepAuth libraries)) start later
        → stepAuth libraries later action = some next
        → keepsEmailsApart libraries.lower later action = false
        → ¬EmailsApart libraries.lower next.server.db

------------------------------------------------------------
-- Logging in
------------------------------------------------------------

/-- While emails are apart, the lookup finds the user who has the email. -/
theorem getAdminUserByEmail_of_apart {lower : String → String} (apart : EmailsApart lower db)
    {user : AdminUser} (stored : user ∈ db.adminUsers.rows)
    : getAdminUserByEmail lower db user.email = some user := by
  cases found : getAdminUserByEmail lower db user.email with
  | none =>
      have noMatch := List.find?_eq_none.mp found user stored
      exact absurd (decide_eq_true rfl) noMatch
  | some other =>
      have sameEmail : lower other.email = lower user.email :=
        of_decide_eq_true
          (List.find?_some (p := fun row : AdminUser => decide (lower row.email = lower user.email))
            found)
      rw [apart.distinct other (List.mem_of_find?_eq_some found) user stored sameEmail]

theorem logsInAsSelf_of_apart (apart : EmailsApart libraries.lower db)
    : LogsInAsSelf libraries db := by
  intro user stored password isActive isPassword
  have found := getAdminUserByEmail_of_apart apart stored
  rw [← apart.trimmed user stored] at found
  unfold authenticateAdminCredentials
  rw [found]
  simp only [isActive, isPassword, Bool.not_true, Bool.false_eq_true, if_false]
  exact ⟨_, rfl, rfl⟩

------------------------------------------------------------
-- What the statements store
------------------------------------------------------------

theorem EmailsApart.of_eq {lower : String → String} {after : AuthDatabase}
    (apart : EmailsApart lower db) (same : after.adminUsers = db.adminUsers)
    : EmailsApart lower after :=
  ⟨same ▸ apart.trimmed, same ▸ apart.distinct⟩

/-- A new user with an email of its own. -/
theorem EmailsApart.create {lower : String → String} {after : AuthDatabase}
    (apart : EmailsApart lower db) {new : AdminUser}
    (rows : after.adminUsers.rows = db.adminUsers.rows ++ [new])
    (trimmed : trim new.email = new.email)
    (differs : ∀ other ∈ db.adminUsers.rows, lower other.email ≠ lower new.email)
    : EmailsApart lower after := by
  have isStored {user : AdminUser} (member : user ∈ after.adminUsers.rows)
      : user ∈ db.adminUsers.rows ∨ user = new := by
    rw [rows] at member
    exact (List.mem_append.mp member).imp_right List.mem_singleton.mp
  refine ⟨fun user member => ?_, fun first isFirst second isSecond same => ?_⟩
  · rcases isStored member with stored | rfl
    · exact apart.trimmed user stored
    · exact trimmed
  · rcases isStored isFirst with firstStored | rfl
      <;> rcases isStored isSecond with secondStored | rfl
    · exact apart.distinct first firstStored second secondStored same
    · exact absurd same (differs first firstStored)
    · exact absurd same.symm (differs second secondStored)
    · rfl

/-- A user who gets an email of its own. -/
theorem EmailsApart.update {lower : String → String} (apart : EmailsApart lower db)
    {after : AuthDatabase} {userId : Int} {params : AdminUserUpdateParams} {user : AdminUser}
    (updated : updateAdminUser db userId params = .ok (some user, after))
    (trimmed : trim params.email = params.email)
    (differs
      : ∀ other ∈ db.adminUsers.rows,
          other.id ≠ userId
          → lower other.email ≠ lower params.email)
    : EmailsApart lower after := by
  obtain ⟨_, rfl⟩ := updateAdminUser_ok updated
  have isStored {row : AdminUser}
      (member
        : row ∈ (db.adminUsers.update (·.id = userId) params.set fun _ _ => rfl).rows)
      : ∃ stored ∈ db.adminUsers.rows,
          stored.id = userId ∧ row = params.set stored ∨ stored.id ≠ userId ∧ row = stored := by
    obtain ⟨stored, isStored, rfl⟩ := List.mem_map.mp member
    refine ⟨stored, isStored, ?_⟩
    by_cases same : stored.id = userId
    · exact .inl ⟨same, if_pos (decide_eq_true same)⟩
    · exact .inr ⟨same, if_neg (by simpa using same)⟩
  refine ⟨fun row member => ?_, fun first isFirst second isSecond same => ?_⟩
  · obtain ⟨stored, isOld, ⟨_, rfl⟩ | ⟨_, rfl⟩⟩ := isStored member
    · exact trimmed
    · exact apart.trimmed row isOld
  · obtain ⟨firstOld, isFirstOld, firstIs⟩ := isStored isFirst
    obtain ⟨secondOld, isSecondOld, secondIs⟩ := isStored isSecond
    rcases firstIs with ⟨firstId, rfl⟩ | ⟨firstId, rfl⟩ <;>
      rcases secondIs with ⟨secondId, rfl⟩ | ⟨secondId, rfl⟩
    · rw [Table.eq_of_key_eq isFirstOld isSecondOld (firstId.trans secondId.symm)]
    · exact absurd same.symm (differs second isSecondOld secondId)
    · exact absurd same (differs first isFirstOld firstId)
    · exact apart.distinct first isFirstOld second isSecondOld same

/-- A deletion leaves the emails apart. -/
theorem EmailsApart.delete {lower : String → String} {after : AuthDatabase}
    (apart : EmailsApart lower db) {condition : AdminUser → Bool}
    (users : after.adminUsers = db.adminUsers.delete condition)
    : EmailsApart lower after := by
  have isStored {row : AdminUser} (member : row ∈ after.adminUsers.rows)
      : row ∈ db.adminUsers.rows := by
    rw [users] at member
    exact (List.mem_filter.mp member).1
  exact ⟨fun row member => apart.trimmed row (isStored member),
    fun first isFirst second isSecond =>
      apart.distinct first (isStored isFirst) second (isStored isSecond)⟩

/-- The emails stay apart in a step whose statement keeps them so. -/
theorem emailsApart_effect {lower : String → String}
    (effect : ServerEffect libraries server request after)
    (creates
      : ∀ email,
          storedEmail? request = some (none, email)
          → ∀ other ∈ server.db.adminUsers.rows, lower other.email ≠ lower email)
    (updates
      : ∀ userId email,
          storedEmail? request = some (some userId, email)
          → (server.db.adminUsers.find? userId).isSome = true
          → ∀ other ∈ server.db.adminUsers.rows,
              other.id ≠ userId
              → lower other.email ≠ lower email)
    (apart : EmailsApart lower server.db)
    : EmailsApart lower after.db := by
  cases effect with
  | same | shrunk | inserted | revoked => exact apart.of_eq rfl
  | issued stored =>
      obtain ⟨_, rfl, _, _⟩ := createToken_ok stored
      exact apart.of_eq rfl
  | @createdUser payload _ _ _ endpoint phase email created =>
      obtain ⟨_, _, rfl, rows, _⟩ := createAdminUserWithRoles_ok created
      refine apart.create rows ?_ fun other stored => ?_
      · exact (congrArg trim email).trans ((trim_trim _).trans email.symm)
      · have differs := creates (trim payload.email)
          (by simp only [storedEmail?, endpoint, phase]) other stored
        rw [← email] at differs
        exact differs
  | @updatedUser userId payload _ _ _ _ endpoint phase updated =>
      obtain ⟨⟨stored, found, _⟩, _⟩ := updateAdminUser_ok updated
      exact apart.update updated (trim_trim payload.email)
        (updates userId (trim payload.email) (by simp only [storedEmail?, endpoint, phase])
          (by rw [found]; rfl))
  | deletedUser _ _ deleted =>
      obtain ⟨_, rfl⟩ := deleteAdminUser_some deleted
      exact apart.delete rfl
  | createdClient created =>
      obtain ⟨_, rfl⟩ := createApiClient_ok created
      exact apart.of_eq rfl
  | setClient isSet =>
      obtain ⟨_, rfl⟩ := setApiClient_some isSet
      exact apart.of_eq rfl
  | deletedClient deleted =>
      obtain ⟨_, rfl⟩ := deleteApiClient_true deleted
      exact apart.of_eq rfl
  | others adminUsers => exact apart.of_eq adminUsers

/-- A user who is created with the email of another one. -/
theorem not_emailsApart_of_created {lower : String → String} {payload : CreateAdminUserRequest}
    {roleIds : List Int} (endpoint : request.endpoint = .createAdminUser payload)
    (phase : request.phase = .handle (.createUser roleIds)) {other : AdminUser}
    (stored : other ∈ server.db.adminUsers.rows)
    (sameEmail : lower other.email = lower (trim payload.email))
    (taken : requestStep libraries server request entropy = some (after, stepped))
    : ¬EmailsApart lower after.db := by
  intro apart
  simp only [requestStep, phase, handlerStep, stepCreateUser, endpoint,
    Option.map_eq_some_iff] at taken
  obtain ⟨⟨next, _⟩, ran, same⟩ := taken
  cases same
  split at ran
  · rename_i created
    cases ran
    obtain ⟨_, _, rfl, rows, _⟩ := createAdminUserWithRoles_ok created
    have isOther := apart.distinct other (rows ▸ List.mem_append_left _ stored) _
      (rows ▸ List.mem_append_right _ (List.mem_singleton_self _)) sameEmail
    have below := server.db.adminUsers.belowNext other stored
    rw [isOther] at below
    exact lt_irrefl _ below
  · cases ran

/-- A user who is renamed to the email of another one. -/
theorem not_emailsApart_of_updated {lower : String → String} {userId : Int}
    {payload : UpdateAdminUserRequest} {roleIds : List Int}
    (endpoint : request.endpoint = .updateAdminUser userId payload)
    (phase : request.phase = .handle (.updateUser roleIds)) {user other : AdminUser}
    (found : server.db.adminUsers.find? userId = some user)
    (stored : other ∈ server.db.adminUsers.rows) (different : other.id ≠ userId)
    (sameEmail : lower other.email = lower (trim payload.email))
    (taken : requestStep libraries server request entropy = some (after, stepped))
    : ¬EmailsApart lower after.db := by
  intro apart
  simp only [requestStep, phase, handlerStep, stepUpdateUser, endpoint,
    Option.map_eq_some_iff] at taken
  obtain ⟨⟨next, _⟩, ran, same⟩ := taken
  cases same
  obtain ⟨isUser, isId⟩ := Table.mem_of_find? found
  unfold updateAdminUser at ran
  rw [found] at ran
  simp only at ran
  split at ran
  · rename_i updated
    split at updated
    · cases updated
    · cases updated
      cases ran
      have kept
          : other ∈ (server.db.adminUsers.update (·.id = userId)
              (payload.params libraries entropy.salt).set fun _ _ => rfl).rows :=
        List.mem_map.mpr ⟨other, stored, if_neg (by simpa using different)⟩
      have set
          : (payload.params libraries entropy.salt).set user
            ∈ (server.db.adminUsers.update (·.id = userId)
                (payload.params libraries entropy.salt).set fun _ _ => rfl).rows :=
        List.mem_map.mpr ⟨user, isUser, if_pos (decide_eq_true isId)⟩
      have isOther := apart.distinct other kept _ set sameEmail
      exact different (isOther ▸ isId)
  · cases ran

------------------------------------------------------------
-- Runs
------------------------------------------------------------

theorem emailsApart_step {lower : String → String} (apart : EmailsApart lower state.server.db)
    (taken : stepAuth libraries state action = some next)
    (keeps : keepsEmailsApart lower state action = true)
    : EmailsApart lower next.server.db := by
  cases action with
  | act id entropy =>
      obtain ⟨request, found, taken⟩ := Option.bind_eq_some_iff.mp taken
      obtain ⟨⟨server, stepped⟩, steps, taken⟩ := Option.bind_eq_some_iff.mp taken
      cases taken
      refine emailsApart_effect (requestStepped_effect (requestStep_cases steps))
        (fun email stores other isStored => ?_)
        (fun userId email stores known other isStored different => ?_) apart
      · simp only [keepsEmailsApart, found, Option.bind_some, stores, Option.any_none,
          Bool.false_or, List.all_eq_true] at keeps
        simpa using keeps other isStored
      · obtain ⟨user, isUser⟩ := Option.isSome_iff_exists.mp known
        simp only [keepsEmailsApart, found, Option.bind_some, stores, Option.any_some, isUser,
          Option.isNone_some, Bool.false_or, List.all_eq_true] at keeps
        simpa [different] using keeps other isStored
  | _ => exact apart.of_eq (adminUsers_of_quiet rfl taken)

theorem not_emailsApart_step {lower : String → String}
    (taken : stepAuth libraries state action = some next)
    (doubles : keepsEmailsApart lower state action = false)
    : ¬EmailsApart lower next.server.db := by
  cases action with
  | act id entropy =>
      obtain ⟨request, found, taken⟩ := Option.bind_eq_some_iff.mp taken
      obtain ⟨⟨server, stepped⟩, steps, taken⟩ := Option.bind_eq_some_iff.mp taken
      cases taken
      simp only [keepsEmailsApart, found, Option.bind_some] at doubles
      split at doubles
      · rename_i userId email stores
        obtain ⟨known, doubled⟩ := Bool.or_eq_false_iff.mp doubles
        obtain ⟨other, isStored, isDouble⟩ := List.all_eq_false.mp doubled
        simp only [Bool.or_eq_true, decide_eq_true_eq, not_or, ne_eq, not_not] at isDouble
        obtain ⟨different, sameEmail⟩ := isDouble
        unfold storedEmail? at stores
        split at stores
        · rename_i endpoint phase
          cases stores
          exact not_emailsApart_of_created endpoint phase isStored sameEmail steps
        · rename_i endpoint phase
          cases stores
          rename_i userId _ _
          cases isUser : state.server.db.adminUsers.find? userId with
          | none =>
              rw [Option.any_some, isUser] at known
              cases known
          | some user =>
              exact not_emailsApart_of_updated endpoint phase isUser isStored
                (fun same => different (congrArg some same)) sameEmail steps
        · cases stores
      · cases doubles
  | _ => cases doubles

/-- From emails that are apart, login identities are unique for as long as every stored email
differs from those of all other users in more than case.
-/
theorem loginsUnique (apart : EmailsApart libraries.lower start.server.db)
    : LoginsUnique libraries start where
  along later path := by
    have kept : EmailsApart libraries.lower later.server.db :=
      kept_along (fun state => EmailsApart libraries.lower state.server.db)
        (fun _ _ _ apart taken keeps => emailsApart_step apart taken keeps) apart path
    exact ⟨kept, logsInAsSelf_of_apart kept⟩
  lost _ _ _ _ taken doubles := not_emailsApart_step taken doubles

/-- An admin user logs in and creates another one. -/
def adminCreates (email : String) : List AuthAction :=
  .start (.issueAdminToken ⟨"admin@shop.test", "secret"⟩) noHeaders :: actTimes 0 1 3
    ++ .start (.createAdminUser ⟨email, "Second", "other", none, []⟩)
        (bearerHeaders (smallToken 1))
      :: actTimes 1 1 5

def oneAdminShop : AuthState := smallAuthState (smallAdmins ["admin@shop.test"]) .empty

theorem oneAdminShop_apart
    : EmailsApart smallAuthLibraries.lower oneAdminShop.server.db :=
  ⟨by decide +kernel, by decide +kernel⟩

/-- The created user. -/
def secondAdmin (email : String) : AdminUser where
  id := 2
  email := email
  displayName := "Second"
  passwordHash := "salt$other"
  isActive := true

theorem adminCreates_enabled
    : (run (stepAuth smallAuthLibraries) oneAdminShop (adminCreates "Admin@shop.test")).isSome
      = true := by
  decide +kernel

/-- Two users are one to the lookup, and the second of them can not log in. -/
theorem secondAdmin_lockedOut
    : let final := Option.get _ adminCreates_enabled
      ReflTransGen (Next (stepAuth smallAuthLibraries)) oneAdminShop final
        ∧ EmailsApart smallAuthLibraries.lower oneAdminShop.server.db
        ∧ secondAdmin "Admin@shop.test" ∈ final.server.db.adminUsers.rows
        ∧ ¬LogsInAsSelf smallAuthLibraries final.server.db := by
  have stored
      : secondAdmin "Admin@shop.test"
        ∈ (Option.get _ adminCreates_enabled).server.db.adminUsers.rows := by
    decide +kernel
  have rejected
      : (authenticateAdminCredentials smallAuthLibraries
            (Option.get _ adminCreates_enabled).server.db "Admin@shop.test" "other").isOk
        = false := by
    decide +kernel
  refine ⟨path_of_run (Option.some_get _).symm, oneAdminShop_apart, stored, fun logsIn => ?_⟩
  obtain ⟨_, ok, _⟩ := logsIn _ stored "other" rfl (by decide +kernel)
  rw [show (secondAdmin "Admin@shop.test").email = "Admin@shop.test" from rfl] at ok
  rw [ok] at rejected
  cases rejected

theorem adminCreates_apart
    : (runWhere (stepAuth smallAuthLibraries) (KeepsEmailsApart smallAuthLibraries.lower)
        oneAdminShop (adminCreates "guest@shop.test")).isSome
      = true := by
  decide +kernel

theorem loginsUnique_adminCreates
    : let final := Option.get _ adminCreates_apart
      secondAdmin "guest@shop.test" ∈ final.server.db.adminUsers.rows
        ∧ EmailsApart smallAuthLibraries.lower final.server.db
        ∧ LogsInAsSelf smallAuthLibraries final.server.db :=
  ⟨by decide +kernel,
    (loginsUnique oneAdminShop_apart).along _
      (path_of_runWhere (Option.some_get adminCreates_apart).symm)⟩

end AlonSentinel.System
