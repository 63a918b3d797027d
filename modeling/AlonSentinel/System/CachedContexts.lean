import AlonSentinel.System.AuthSystem

/-! The token cache over whole runs of calls. It is a map of bounded size: an entry comes from the
last insert of its token, and it goes before its time only to make room for a new one.
-/

namespace AlonSentinel.System

open Auth
open Caching
open Domain

------------------------------------------------------------
-- Calls
------------------------------------------------------------

inductive TokenCacheCall where
  | insertBearerContext (rawToken : String) (context : BearerTokenContext)
  | getBearerContext (rawToken : String)
  | getAdminContext (rawToken : String)
  | invalidateRawToken (rawToken : String)
  | invalidateHashedToken (tokenPrefix tokenHash : String)

structure TimedCacheCall where
  now : Timestamp
  call : TokenCacheCall

def TokenCacheCall.rawToken : TokenCacheCall → Option String
  | .insertBearerContext rawToken _ | .getBearerContext rawToken | .getAdminContext rawToken
  | .invalidateRawToken rawToken => some rawToken
  | .invalidateHashedToken _ _ => none

variable (libraries : AuthLibraries)

/-- The cache after a call. -/
def perform (cache : AuthTokenCache) (timed : TimedCacheCall) : AuthTokenCache :=
  match timed.call with
  | .insertBearerContext rawToken context =>
      cache.insertBearerContext libraries timed.now rawToken context
  | .getBearerContext rawToken => (cache.getBearerContext libraries timed.now rawToken).2
  | .getAdminContext rawToken => (cache.getAdminContext libraries timed.now rawToken).2
  | .invalidateRawToken rawToken => cache.invalidateRawToken libraries rawToken
  | .invalidateHashedToken tokenPrefix tokenHash =>
      cache.invalidateHashedToken tokenPrefix tokenHash

def performAll (cache : AuthTokenCache) (calls : List TimedCacheCall) : AuthTokenCache :=
  calls.foldl (perform libraries) cache

/-- The key whose entry a call sets or takes away. -/
def TokenCacheCall.settles : TokenCacheCall → Option AuthTokenCacheKey
  | .insertBearerContext rawToken _ | .invalidateRawToken rawToken =>
      buildCacheKey libraries rawToken
  | .invalidateHashedToken tokenPrefix tokenHash => some { tokenPrefix, tokenHash }
  | .getBearerContext _ | .getAdminContext _ => none

/-- The key that a call uses: the one it inserts under, or the one it is answered from. -/
def usedKey (cache : AuthTokenCache) (timed : TimedCacheCall) : Option AuthTokenCacheKey :=
  match timed.call with
  | .insertBearerContext rawToken _ => buildCacheKey libraries rawToken
  | .getBearerContext rawToken | .getAdminContext rawToken =>
      (buildCacheKey libraries rawToken).filter fun key =>
        (cache.peek key).any fun entry => !entry.isDead timed.now cache.ttl
  | .invalidateRawToken _ | .invalidateHashedToken _ _ => none

/-- The keys that calls use, in order. -/
def usedKeys (cache : AuthTokenCache) : List TimedCacheCall → List AuthTokenCacheKey
  | [] => []
  | timed :: rest =>
      (usedKey libraries cache timed).toList ++ usedKeys (perform libraries cache timed) rest

/-- The number of entries. -/
def cacheSize (cache : AuthTokenCache) : Nat := cache.entries.elim 0 (·.entries.rows.length)

variable {libraries} {cache : AuthTokenCache} {timed : TimedCacheCall} {calls : List TimedCacheCall}
  {key other : AuthTokenCacheKey} {entry found : AuthTokenCacheEntry}

------------------------------------------------------------
-- What a call leaves
------------------------------------------------------------

theorem perform_getAdminContext {now : Timestamp} {rawToken : String}
    : perform libraries cache ⟨now, .getAdminContext rawToken⟩
      = perform libraries cache ⟨now, .getBearerContext rawToken⟩ :=
  AuthTokenCache.getAdminContext_snd

theorem peek_of_peek_invalidateKey (left : (cache.invalidateKey other).peek key = some entry)
    : cache.peek key = some entry ∧ some other ≠ some key := by
  rw [AuthTokenCache.peek_invalidateKey] at left
  split at left
  · cases left
  · next different => exact ⟨left, fun same => different (Option.some.inj same).symm⟩

/-- An entry that is there after a call was inserted by it, or was there and is not concerned. -/
theorem peek_of_peek_perform (left : (perform libraries cache timed).peek key = some entry)
    : (∃ rawToken,
        timed.call = .insertBearerContext rawToken entry.context
        ∧ buildCacheKey libraries rawToken = some key
        ∧ entry.insertedAt = timed.now)
      ∨ cache.peek key = some entry ∧ timed.call.settles libraries ≠ some key := by
  obtain ⟨now, call⟩ := timed
  cases call with
  | insertBearerContext rawToken context =>
      rcases AuthTokenCache.peek_of_peek_insertBearerContext left with ⟨isKey, rfl⟩ | kept
      · exact .inl ⟨rawToken, rfl, isKey, rfl⟩
      · by_cases isKey : buildCacheKey libraries rawToken = some key
        · have enabled : cache.entries.isSome = true := by
            obtain ⟨entries, isEntries, _⟩ := Option.bind_eq_some_iff.mp kept
            exact Option.isSome_iff_exists.mpr ⟨entries, isEntries⟩
          have isNew := (AuthTokenCache.peek_insertBearerContext_self isKey enabled).symm.trans left
          obtain rfl := Option.some.inj isNew
          exact .inl ⟨rawToken, rfl, isKey, rfl⟩
        · exact .inr ⟨kept, isKey⟩
  | getBearerContext rawToken =>
      exact .inr ⟨AuthTokenCache.peek_of_peek_getBearerContext left, nofun⟩
  | getAdminContext rawToken =>
      rw [perform_getAdminContext] at left
      exact .inr ⟨AuthTokenCache.peek_of_peek_getBearerContext left, nofun⟩
  | invalidateRawToken rawToken =>
      simp only [perform, AuthTokenCache.invalidateRawToken] at left
      refine .inr ?_
      simp only [TokenCacheCall.settles]
      cases isKey : buildCacheKey libraries rawToken with
      | none =>
          rw [isKey] at left
          exact ⟨left, nofun⟩
      | some settled =>
          rw [isKey] at left
          exact peek_of_peek_invalidateKey left
  | invalidateHashedToken tokenPrefix tokenHash => exact .inr (peek_of_peek_invalidateKey left)

/-- An entry under a key is that of the last call that settled the key, an insert. Witness:
induction over the calls, from the last one back.
-/
theorem inserted_of_peek (start : cache.peek key = none)
    (stored : (performAll libraries cache calls).peek key = some entry)
    : ∃ earlier rawToken later,
        calls = earlier ++ ⟨entry.insertedAt, .insertBearerContext rawToken entry.context⟩ :: later
        ∧ buildCacheKey libraries rawToken = some key
        ∧ ∀ timed ∈ later, timed.call.settles libraries ≠ some key := by
  induction calls using List.reverseRecOn with
  | nil =>
      have missing := start.symm.trans stored
      cases missing
  | append_singleton calls timed ih =>
      rw [performAll, List.foldl_append] at stored
      rcases peek_of_peek_perform stored with
        ⟨rawToken, isInsert, isKey, isNow⟩ | ⟨before, unsettled⟩
      · refine ⟨calls, rawToken, [], ?_, isKey, fun _ member => absurd member List.not_mem_nil⟩
        rw [isNow, ← isInsert]
      · obtain ⟨earlier, rawToken, later, rfl, isKey, kept⟩ := ih before
        refine ⟨earlier, rawToken, later ++ [timed], by simp, isKey, ?_⟩
        rw [List.forall_mem_append]
        exact ⟨kept, fun last isLast => List.mem_singleton.mp isLast ▸ unsettled⟩

------------------------------------------------------------
-- What a call evicts
------------------------------------------------------------

/-- An insert under another key, into a full cache of entries that are all alive, of which the last
one has the key.
-/
structure MakesRoom (libraries : AuthLibraries) (cache : AuthTokenCache) (timed : TimedCacheCall)
    (key : AuthTokenCacheKey) (entry : AuthTokenCacheEntry)
    (entries : LruCache AuthTokenCacheKey AuthTokenCacheEntry)
    : Prop where
  isEntries : cache.entries = some entries
  newKey
    : ∃ rawToken context newKey,
        timed.call = .insertBearerContext rawToken context
        ∧ buildCacheKey libraries rawToken = some newKey
        ∧ entries.peek newKey = none
  full : entries.entries.rows.length = entries.cap
  allAlive : ∀ row ∈ entries.entries.rows, row.2.isDead timed.now cache.ttl = false
  isLast : entries.entries.rows.getLast? = some (key, entry)

theorem settled_of_invalidateKey (stored : cache.peek key = some entry)
    (gone : (cache.invalidateKey other).peek key = none)
    : some other = some key := by
  rw [AuthTokenCache.peek_invalidateKey] at gone
  split at gone
  · next same => rw [same]
  · rw [stored] at gone
    cases gone

/-- An entry that is alive goes to make room, or because a call takes it away. -/
theorem makesRoom_of_gone (stored : cache.peek key = some entry)
    (alive : entry.isDead timed.now cache.ttl = false)
    (gone : (perform libraries cache timed).peek key = none)
    : timed.call.settles libraries = some key
      ∨ ∃ entries, MakesRoom libraries cache timed key entry entries := by
  obtain ⟨now, call⟩ := timed
  have read (rawToken : String)
      : (perform libraries cache ⟨now, .getBearerContext rawToken⟩).peek key = some entry :=
    AuthTokenCache.peek_getBearerContext_of_alive stored alive
  cases call with
  | insertBearerContext rawToken context =>
      obtain ⟨entries, isEntries, present⟩ := Option.bind_eq_some_iff.mp stored
      cases isKey : buildCacheKey libraries rawToken with
      | none =>
          simp only [perform, AuthTokenCache.insertBearerContext, isKey, stored] at gone
          cases gone
      | some newKey =>
          obtain ⟨isNew, full, allAlive, isLast⟩ :=
            AuthTokenCache.evicted_of_insertBearerContext isEntries isKey present alive gone
          exact .inr ⟨entries, isEntries, ⟨rawToken, context, newKey, rfl, isKey, isNew⟩, full,
            allAlive, isLast⟩
  | getBearerContext rawToken =>
      rw [read] at gone
      cases gone
  | getAdminContext rawToken =>
      rw [perform_getAdminContext, read] at gone
      cases gone
  | invalidateRawToken rawToken =>
      simp only [perform, AuthTokenCache.invalidateRawToken] at gone
      refine .inl ?_
      simp only [TokenCacheCall.settles]
      cases isKey : buildCacheKey libraries rawToken with
      | none =>
          rw [isKey] at gone
          dsimp only at gone
          rw [stored] at gone
          cases gone
      | some settled =>
          rw [isKey] at gone
          exact settled_of_invalidateKey stored gone
  | invalidateHashedToken tokenPrefix tokenHash => exact .inl (settled_of_invalidateKey stored gone)

------------------------------------------------------------
-- Recency and capacity
------------------------------------------------------------

/-- The entries are in the order of their last use. -/
def RecentlyUsed (used : List AuthTokenCacheKey) (cache : AuthTokenCache) : Prop :=
  ∀ entries, cache.entries = some entries → LruCache.Recent used entries

variable {used : List AuthTokenCacheKey}

theorem RecentlyUsed.invalidateKey (recent : RecentlyUsed used cache)
    : RecentlyUsed (used ++ []) (cache.invalidateKey key) := by
  intro entries isEntries
  obtain ⟨before, isBefore, rfl⟩ := Option.map_eq_some_iff.mp isEntries
  rw [List.append_nil]
  exact (recent before isBefore).retain _

theorem recent_evict {entries : LruCache AuthTokenCacheKey AuthTokenCacheEntry} {now : Timestamp}
    {ttl : Int} (recent : LruCache.Recent used entries)
    : LruCache.Recent used (evictPreferExpiredEntry entries now ttl) := by
  unfold evictPreferExpiredEntry
  split
  · exact recent.retain _
  · exact recent.popLru

theorem RecentlyUsed.getBearerContext (recent : RecentlyUsed used cache) (now : Timestamp)
    (rawToken : String)
    : RecentlyUsed
        (used ++ (usedKey libraries cache ⟨now, .getBearerContext rawToken⟩).toList)
        (cache.getBearerContext libraries now rawToken).2 := by
  simp only [usedKey, AuthTokenCache.getBearerContext, AuthTokenCache.peek]
  cases buildCacheKey libraries rawToken with
  | none => simpa using recent
  | some key =>
      cases isEntries : cache.entries with
      | none => simpa using recent
      | some entries =>
          have order := recent entries isEntries
          cases isEntry : entries.peek key with
          | none => simpa [isEntry, Option.filter] using recent
          | some entry =>
              by_cases dead : entry.isDead now cache.ttl = true
              · simp only [Option.filter, Option.bind_some, isEntry, Option.any_some, dead,
                  Bool.not_true, Bool.false_eq_true, if_false, if_true, Option.toList_none,
                  List.append_nil]
                rintro _ ⟨⟩
                exact order.retain _
              · simp only [Option.filter, Option.bind_some, isEntry, Option.any_some,
                  Bool.eq_false_of_not_eq_true dead, Bool.not_false, if_true, Bool.false_eq_true,
                  if_false, Option.toList_some]
                rintro _ ⟨⟩
                exact order.promote isEntry

/-- A call adds the key it uses to the list, and keeps the order. -/
theorem RecentlyUsed.perform (recent : RecentlyUsed used cache)
    : RecentlyUsed (used ++ (usedKey libraries cache timed).toList)
        (perform libraries cache timed) := by
  obtain ⟨now, call⟩ := timed
  cases call with
  | insertBearerContext rawToken context =>
      simp only [usedKey, System.perform, AuthTokenCache.insertBearerContext]
      cases buildCacheKey libraries rawToken with
      | none => simpa using recent
      | some key =>
          intro entries isEntries
          cases isBefore : cache.entries with
          | none =>
              rw [isBefore] at isEntries
              cases isBefore.symm.trans isEntries
          | some before =>
              rw [isBefore] at isEntries
              obtain rfl := Option.some.inj isEntries
              refine LruCache.Recent.put ?_
              split
              · exact recent_evict (recent before isBefore)
              · exact recent before isBefore
  | getBearerContext rawToken => exact recent.getBearerContext now rawToken
  | getAdminContext rawToken =>
      rw [perform_getAdminContext]
      exact recent.getBearerContext now rawToken
  | invalidateRawToken rawToken =>
      simp only [System.perform, AuthTokenCache.invalidateRawToken]
      cases buildCacheKey libraries rawToken with
      | none => simpa [usedKey] using recent
      | some key => exact recent.invalidateKey
  | invalidateHashedToken tokenPrefix tokenHash => exact recent.invalidateKey

theorem RecentlyUsed.performAll (recent : RecentlyUsed used cache)
    : RecentlyUsed (used ++ usedKeys libraries cache calls) (performAll libraries cache calls) := by
  induction calls generalizing used cache with
  | nil =>
      rw [usedKeys, List.append_nil]
      exact recent
  | cons timed rest ih =>
      rw [usedKeys, ← List.append_assoc]
      exact ih recent.perform

theorem cap_evict {entries : LruCache AuthTokenCacheKey AuthTokenCacheEntry} {now : Timestamp}
    {ttl : Int}
    : (evictPreferExpiredEntry entries now ttl).cap = entries.cap := by
  unfold evictPreferExpiredEntry
  split <;> rfl

theorem getBearerContext_cap {now : Timestamp} {rawToken : String}
    : (cache.getBearerContext libraries now rawToken).2.entries.map (·.cap)
      = cache.entries.map (·.cap) := by
  unfold AuthTokenCache.getBearerContext
  split
  · rename_i isEntries
    rw [isEntries]
    split
    · rw [isEntries]
    · split <;> simp
  · rfl

/-- No call changes the lifetime or the capacity. -/
theorem perform_settings
    : (perform libraries cache timed).ttl = cache.ttl
      ∧ (perform libraries cache timed).entries.map (·.cap) = cache.entries.map (·.cap) := by
  obtain ⟨now, call⟩ := timed
  cases call with
  | insertBearerContext rawToken context =>
      refine ⟨AuthTokenCache.insertBearerContext_settings.1, ?_⟩
      simp only [perform, AuthTokenCache.insertBearerContext]
      split
      · rename_i isEntries
        rw [isEntries, Option.map_some, Option.map_some, LruCache.cap_put]
        split
        · rw [cap_evict]
        · rfl
      · rfl
  | getBearerContext rawToken =>
      exact ⟨AuthTokenCache.getBearerContext_settings.1, getBearerContext_cap⟩
  | getAdminContext rawToken =>
      rw [perform_getAdminContext]
      exact ⟨AuthTokenCache.getBearerContext_settings.1, getBearerContext_cap⟩
  | invalidateRawToken rawToken =>
      simp only [perform, AuthTokenCache.invalidateRawToken]
      cases buildCacheKey libraries rawToken with
      | none => exact ⟨rfl, rfl⟩
      | some key => exact ⟨rfl, Option.map_map ..⟩
  | invalidateHashedToken tokenPrefix tokenHash => exact ⟨rfl, Option.map_map ..⟩

theorem performAll_settings
    : (performAll libraries cache calls).ttl = cache.ttl
      ∧ (performAll libraries cache calls).entries.map (·.cap) = cache.entries.map (·.cap) := by
  induction calls generalizing cache with
  | nil => exact ⟨rfl, rfl⟩
  | cons timed rest ih =>
      exact ⟨ih.1.trans perform_settings.1, ih.2.trans perform_settings.2⟩

theorem cap_withCapacityAndTtl {capacity : Nat} {ttl : Int}
    : (AuthTokenCache.withCapacityAndTtl capacity ttl).entries.map (·.cap)
      = if 0 < capacity then some capacity else none := by
  unfold AuthTokenCache.withCapacityAndTtl
  by_cases positive : 0 < capacity
  · simp [positive, LruCache.empty]
  · simp [positive]

theorem peek_withCapacityAndTtl {capacity : Nat} {ttl : Int}
    : (AuthTokenCache.withCapacityAndTtl capacity ttl).peek key = none := by
  unfold AuthTokenCache.withCapacityAndTtl AuthTokenCache.peek
  split <;> rfl

theorem recentlyUsed_withCapacityAndTtl {capacity : Nat} {ttl : Int}
    : RecentlyUsed [] (AuthTokenCache.withCapacityAndTtl capacity ttl) := by
  intro entries isEntries
  unfold AuthTokenCache.withCapacityAndTtl at isEntries
  dsimp only at isEntries
  split at isEntries
  · obtain rfl := Option.some.inj isEntries
    exact .empty
  · cases isEntries

------------------------------------------------------------
-- A map of bounded size
------------------------------------------------------------

/-- The last call that settled a token inserted this context, less than `ttl` ago, and its own token
has not expired.
-/
def LastInserted (libraries : AuthLibraries) (ttl : Int) (calls : List TimedCacheCall)
    (now : Timestamp) (rawToken : String) (context : BearerTokenContext)
    : Prop :=
  ∃ earlier insertedAt later,
    calls = earlier ++ ⟨insertedAt, .insertBearerContext rawToken context⟩ :: later
    ∧ now - insertedAt < ttl
    ∧ now < context.token.expiresAt
    ∧ ∀ timed ∈ later,
        (∀ other, timed.call ≠ .insertBearerContext rawToken other)
        ∧ timed.call ≠ .invalidateRawToken rawToken
        ∧ timed.call
          ≠ .invalidateHashedToken (tokenPrefix rawToken) (libraries.hashToken rawToken)

variable {capacity : Nat} {ttl : Int} {now : Timestamp} {rawToken : String}
  {context : BearerTokenContext}

theorem buildCacheKey_eq_some (isKey : buildCacheKey libraries rawToken = some key)
    : key = ⟨tokenPrefix rawToken, libraries.hashToken rawToken⟩ := by
  unfold buildCacheKey at isKey
  split at isKey
  · cases isKey
  · exact (Option.some.inj isKey).symm

/-- Only the context that was inserted last is answered. -/
theorem lastInserted_of_answered (collisionFree : libraries.CollisionFree)
    (tokens
      : ∀ timed ∈ calls, ∀ token, timed.call.rawToken = some token
          → libraries.usesToken token = true)
    (isToken : libraries.usesToken rawToken = true)
    (answered
      : ((performAll libraries (.withCapacityAndTtl capacity ttl) calls).getBearerContext libraries
          now rawToken).1 = some context)
    : LastInserted libraries ttl calls now rawToken context := by
  obtain ⟨key, entry, isKey, stored, alive, rfl⟩ :=
    AuthTokenCache.getBearerContext_eq_some.mp answered
  obtain ⟨earlier, inserted, later, rfl, isInserted, unsettled⟩ :=
    inserted_of_peek peek_withCapacityAndTtl stored
  have isUsed : libraries.usesToken inserted = true :=
    tokens _ (List.mem_append_right _ List.mem_cons_self) _ rfl
  obtain rfl := buildCacheKey_injective collisionFree isUsed isToken isInserted isKey
  rw [performAll_settings.1] at alive
  simp only [AuthTokenCacheEntry.isDead, AuthTokenCacheEntry.isExpired, isContextTokenExpired,
    Bool.or_eq_false_iff, decide_eq_false_iff_not, not_le] at alive
  refine ⟨earlier, entry.insertedAt, later, rfl, alive.1, alive.2, fun timed member => ?_⟩
  have other := unsettled timed member
  refine ⟨fun context isInsert => other ?_, fun isInvalidate => other ?_,
    fun isInvalidate => other ?_⟩
  · rw [isInsert]
    exact isKey
  · rw [isInvalidate]
    exact isKey
  · rw [isInvalidate, buildCacheKey_eq_some isKey]
    rfl

/-- An insert of a new key into a full cache without expired entries, in which all other keys were
used since the last use of this one.
-/
structure EvictedForRoom (libraries : AuthLibraries) (capacity : Nat)
    (used : List AuthTokenCacheKey) (cache : AuthTokenCache) (timed : TimedCacheCall)
    (key : AuthTokenCacheKey)
    : Prop where
  newKey
    : ∃ rawToken context newKey,
        timed.call = .insertBearerContext rawToken context
        ∧ buildCacheKey libraries rawToken = some newKey
        ∧ cache.peek newKey = none
  full : cacheSize cache = capacity
  noneExpired
    : ∀ other entry, cache.peek other = some entry → entry.isDead timed.now cache.ttl = false
  leastRecent
    : ∀ other entry, cache.peek other = some entry → other ≠ key
        → LruCache.UsedSince used key other

theorem cap_of_isEntries {entries : LruCache AuthTokenCacheKey AuthTokenCacheEntry}
    (isEntries
      : (performAll libraries (.withCapacityAndTtl capacity ttl) calls).entries = some entries)
    : entries.cap = capacity := by
  have same
      : (performAll libraries (.withCapacityAndTtl capacity ttl) calls).entries.map (·.cap) = _ :=
    performAll_settings.2.trans cap_withCapacityAndTtl
  rw [isEntries, Option.map_some] at same
  split at same
  · exact Option.some.inj same
  · cases same

theorem cacheSize_le
    : cacheSize (performAll libraries (.withCapacityAndTtl capacity ttl) calls) ≤ capacity := by
  unfold cacheSize
  cases isEntries : (performAll libraries (.withCapacityAndTtl capacity ttl) calls).entries with
  | none => exact Nat.zero_le _
  | some entries => exact entries.bounded.trans (cap_of_isEntries isEntries).le

/-- An entry that is alive and is not settled by a call goes for room only. -/
theorem evictedForRoom
    (stored
      : (performAll libraries (.withCapacityAndTtl capacity ttl) calls).peek key = some entry)
    (alive : entry.isDead timed.now ttl = false)
    (unsettled : timed.call.settles libraries ≠ some key)
    (gone
      : (performAll libraries (.withCapacityAndTtl capacity ttl) (calls ++ [timed])).peek key
        = none)
    : EvictedForRoom libraries capacity
        (usedKeys libraries (.withCapacityAndTtl capacity ttl) calls)
        (performAll libraries (.withCapacityAndTtl capacity ttl) calls) timed key := by
  have sameTtl : (performAll libraries (.withCapacityAndTtl capacity ttl) calls).ttl = ttl :=
    performAll_settings.1
  rw [performAll, List.foldl_append] at gone
  rcases makesRoom_of_gone stored (sameTtl.symm ▸ alive) gone with settled | ⟨entries, room⟩
  · exact absurd settled unsettled
  · have order
        : RecentlyUsed ([] ++ usedKeys libraries (.withCapacityAndTtl capacity ttl) calls)
            (performAll libraries (.withCapacityAndTtl capacity ttl) calls) :=
      recentlyUsed_withCapacityAndTtl.performAll
    have recent := order entries room.isEntries
    have found (other : AuthTokenCacheKey)
        : (performAll libraries (.withCapacityAndTtl capacity ttl) calls).peek other
          = entries.peek other :=
      congrArg (Option.bind · _) room.isEntries
    obtain ⟨rawToken, context, newKey, isInsert, isKey, isNew⟩ := room.newKey
    constructor
    · exact ⟨rawToken, context, newKey, isInsert, isKey, (found newKey).trans isNew⟩
    · rw [cacheSize, room.isEntries]
      exact room.full.trans (cap_of_isEntries room.isEntries)
    · intro other entry isEntry
      exact room.allAlive _ (LruCache.peek_eq_some.mp ((found other).symm.trans isEntry))
    · intro other entry isEntry different
      exact recent.usedSince_getLast room.isLast ((found other).symm.trans isEntry) different

/-- The cache is a map of bounded size, whatever is called in whatever order. -/
theorem tokenCache_boundedMap (capacity : Nat) (ttl : Int)
    (collisionFree : libraries.CollisionFree)
    (tokens
      : ∀ timed ∈ calls, ∀ token, timed.call.rawToken = some token
          → libraries.usesToken token = true)
    : (∀ now rawToken context,
          libraries.usesToken rawToken = true
          → ((performAll libraries (.withCapacityAndTtl capacity ttl) calls).getBearerContext
              libraries now rawToken).1 = some context
          → LastInserted libraries ttl calls now rawToken context)
      ∧ (∀ now rawToken context,
          libraries.usesToken rawToken = true
          → ((performAll libraries (.withCapacityAndTtl capacity ttl) calls).getAdminContext
              libraries now rawToken).1 = some context
          → LastInserted libraries ttl calls now rawToken (.adminUser context))
      ∧ cacheSize (performAll libraries (.withCapacityAndTtl capacity ttl) calls) ≤ capacity
      ∧ ∀ timed key entry,
          (performAll libraries (.withCapacityAndTtl capacity ttl) calls).peek key = some entry
          → entry.isDead timed.now ttl = false
          → timed.call.settles libraries ≠ some key
          → (performAll libraries (.withCapacityAndTtl capacity ttl) (calls ++ [timed])).peek key
            = none
          → EvictedForRoom libraries capacity
              (usedKeys libraries (.withCapacityAndTtl capacity ttl) calls)
              (performAll libraries (.withCapacityAndTtl capacity ttl) calls) timed key := by
  refine ⟨?_, ?_, cacheSize_le, ?_⟩
  · intro now rawToken context isToken answered
    exact lastInserted_of_answered collisionFree tokens isToken answered
  · intro now rawToken context isToken answered
    exact lastInserted_of_answered collisionFree tokens isToken
      (AuthTokenCache.getAdminContext_eq_some.mp answered)
  · intro timed key entry stored alive unsettled gone
    exact evictedForRoom stored alive unsettled gone

/-- The context of a client whose token expires after an hour. -/
def reporterContext : BearerTokenContext :=
  .apiClient
    { token :=
        { id := 1, ownerId := 1, tokenHash := smallAuthLibraries.hashToken (smallToken 1)
          tokenPrefix := tokenPrefix (smallToken 1), expiresAt := seconds 3600, revokedAt := none
          revokedReason := none }
      client :=
        { id := 1, name := "reporter", description := none, clientType := .internalService
          clientId := "reporter", clientSecretHash := "", secretPrefix := "", isActive := true
          createdByUserId := none }
      scopes := []
      permissions := [] }

def reporterInserted : TimedCacheCall :=
  ⟨0, .insertBearerContext (smallToken 1) reporterContext⟩

/-- In a cache for one token, the second token takes the place of the first. -/
theorem tokenCache_boundedMap_single
    : LastInserted smallAuthLibraries (seconds 30) [reporterInserted] (seconds 1) (smallToken 1)
        reporterContext
      ∧ ∃ key,
          EvictedForRoom smallAuthLibraries 1
            (usedKeys smallAuthLibraries (.withCapacityAndTtl 1 (seconds 30)) [reporterInserted])
            (performAll smallAuthLibraries (.withCapacityAndTtl 1 (seconds 30)) [reporterInserted])
            ⟨seconds 1, .insertBearerContext (smallToken 2) reporterContext⟩ key := by
  have tokens
      : ∀ timed ∈ [reporterInserted], ∀ token, timed.call.rawToken = some token
          → smallAuthLibraries.usesToken token = true := by
    rintro _ (_ | ⟨_, ⟨⟩⟩) _ ⟨⟩
    decide +kernel
  obtain ⟨answered, _, _, evicted⟩ :=
    tokenCache_boundedMap 1 (seconds 30) smallAuthLibraries_collisionFree tokens
  constructor
  · apply answered
    · decide +kernel
    · decide +kernel
  · refine ⟨⟨tokenPrefix (smallToken 1), smallAuthLibraries.hashToken (smallToken 1)⟩, ?_⟩
    apply evicted _ _ { context := reporterContext, insertedAt := 0 }
    · decide +kernel
    · decide +kernel
    · decide +kernel
    · decide +kernel

end AlonSentinel.System
