import AlonSentinel.Auth.Service
import AlonSentinel.Foundation.LruCache

/-! The cache of authenticated tokens. It answers without the database for as long as an entry
lives: until its time is over, its token expires, or it is removed. The age of an entry is taken
from a monotonic clock (`Instant`), the expiry of its token from the clock of the host (`Utc`); one
time stands for both here.
-/

namespace AlonSentinel.Auth

open Caching
open Domain

structure AuthTokenCacheKey where
  tokenPrefix : String
  tokenHash : String
  deriving DecidableEq

/-- `insertedAt` is an `Instant`, here on the same clock as the times of tokens. -/
structure AuthTokenCacheEntry where
  context : BearerTokenContext
  insertedAt : Timestamp
  deriving DecidableEq

/-- A cache of capacity zero has no entries at all. -/
structure AuthTokenCache where
  entries : Option (LruCache AuthTokenCacheKey AuthTokenCacheEntry)
  ttl : Int

namespace AuthTokenCache

def withCapacityAndTtl (capacity : Nat) (ttl : Int) : AuthTokenCache where
  entries := if positive : 0 < capacity then some (.empty capacity positive) else none
  ttl := ttl

def new : AuthTokenCache := withCapacityAndTtl 4096 (seconds 30)

end AuthTokenCache

def AuthTokenCacheEntry.isExpired (entry : AuthTokenCacheEntry) (now : Timestamp) (ttl : Int)
    : Bool :=
  ttl ≤ now - entry.insertedAt

def isContextTokenExpired (context : BearerTokenContext) (now : Timestamp) : Bool :=
  context.token.expiresAt ≤ now

/-- An entry that is no longer answered. -/
def AuthTokenCacheEntry.isDead (entry : AuthTokenCacheEntry) (now : Timestamp) (ttl : Int)
    : Bool :=
  entry.isExpired now ttl || isContextTokenExpired entry.context now

variable (libraries : AuthLibraries)

def buildCacheKey (rawToken : String) : Option AuthTokenCacheKey :=
  if rawToken = "" then none
  else some { tokenPrefix := tokenPrefix rawToken, tokenHash := libraries.hashToken rawToken }

/-- Makes room in a full cache: drops the first entry that is no longer answered, from the most
to the least recently used one, or else the least recently used one.
-/
def evictPreferExpiredEntry (entries : LruCache AuthTokenCacheKey AuthTokenCacheEntry)
    (now : Timestamp) (ttl : Int)
    : LruCache AuthTokenCacheKey AuthTokenCacheEntry :=
  match entries.entries.rows.find? fun entry => entry.2.isDead now ttl with
  | some (key, _) => entries.pop key
  | none => entries.popLru

namespace AuthTokenCache

/-- Reads an entry as a use of it, or removes it when it is no longer answered. -/
def getBearerContext (cache : AuthTokenCache) (now : Timestamp) (rawToken : String)
    : Option BearerTokenContext × AuthTokenCache :=
  match buildCacheKey libraries rawToken, cache.entries with
  | some key, some entries =>
      match entries.peek key with
      | none => (none, cache)
      | some entry =>
          if entry.isDead now cache.ttl then
            (none, { cache with entries := some (entries.pop key) })
          else (some entry.context, { cache with entries := some (entries.promote key) })
  | _, _ => (none, cache)

def removeIfStillExpired (cache : AuthTokenCache) (now : Timestamp) (key : AuthTokenCacheKey)
    : AuthTokenCache :=
  match cache.entries with
  | none => cache
  | some entries =>
      match entries.peek key with
      | none => cache
      | some entry =>
          if entry.isDead now cache.ttl then { cache with entries := some (entries.pop key) }
          else cache

/-- The section of a read under the write lock. It looks at the entry again. -/
def promoteIfStillAlive (cache : AuthTokenCache) (now : Timestamp) (key : AuthTokenCacheKey)
    : Option BearerTokenContext × AuthTokenCache :=
  match cache.entries with
  | none => (none, cache)
  | some entries =>
      match entries.peek key with
      | none => (none, cache)
      | some entry =>
          if entry.isDead now cache.ttl then
            (none, { cache with entries := some (entries.pop key) })
          else (some entry.context, { cache with entries := some (entries.promote key) })

/-- A read in its sections: what it sees under the read lock decides what it does under the write
lock.
-/
def getBearerContextInSections (cache : AuthTokenCache) (now : Timestamp) (rawToken : String)
    : Option BearerTokenContext × AuthTokenCache :=
  match buildCacheKey libraries rawToken with
  | none => (none, cache)
  | some key =>
      match cache.entries.bind (·.peek key) with
      | none => (none, cache)
      | some entry =>
          if entry.isDead now cache.ttl then (none, cache.removeIfStillExpired now key)
          else cache.promoteIfStillAlive now key

def getAdminContext (cache : AuthTokenCache) (now : Timestamp) (rawToken : String)
    : Option AdminAccessTokenContext × AuthTokenCache :=
  match cache.getBearerContext libraries now rawToken with
  | (some (.adminUser context), used) => (some context, used)
  | (_, used) => (none, used)

def insertBearerContext (cache : AuthTokenCache) (now : Timestamp) (rawToken : String)
    (context : BearerTokenContext)
    : AuthTokenCache :=
  match buildCacheKey libraries rawToken, cache.entries with
  | some key, some entries =>
      let isFull := (entries.peek key).isNone && entries.cap ≤ entries.entries.rows.length
      let room := if isFull then evictPreferExpiredEntry entries now cache.ttl else entries
      { cache with entries := some (room.put key { context, insertedAt := now }) }
  | _, _ => cache

def invalidateKey (cache : AuthTokenCache) (key : AuthTokenCacheKey) : AuthTokenCache :=
  { cache with entries := cache.entries.map (·.pop key) }

def invalidateRawToken (cache : AuthTokenCache) (rawToken : String) : AuthTokenCache :=
  match buildCacheKey libraries rawToken with
  | none => cache
  | some key => cache.invalidateKey key

def invalidateHashedToken (cache : AuthTokenCache) (tokenPrefix tokenHash : String)
    : AuthTokenCache :=
  cache.invalidateKey { tokenPrefix, tokenHash }

/-- The entry under a key, whether it is still answered or not. -/
def peek (cache : AuthTokenCache) (key : AuthTokenCacheKey) : Option AuthTokenCacheEntry :=
  cache.entries.bind (·.peek key)

end AuthTokenCache

------------------------------------------------------------
-- What each operation answers and leaves
------------------------------------------------------------

variable {libraries} {cache : AuthTokenCache} {now later : Timestamp} {rawToken : String}
  {key other : AuthTokenCacheKey} {entry found : AuthTokenCacheEntry}
  {context : BearerTokenContext}

/-- An entry that is no longer answered stays so. -/
theorem AuthTokenCacheEntry.isDead_mono {ttl : Int} (after : now ≤ later)
    (dead : entry.isDead now ttl = true)
    : entry.isDead later ttl = true := by
  simp only [isDead, isExpired, isContextTokenExpired, Bool.or_eq_true, decide_eq_true_eq]
    at dead ⊢
  rcases dead with old | expired
  · exact .inl (old.trans (Int.sub_le_sub_right after _))
  · exact .inr (expired.trans after)

/-- A generated token is never blank. -/
theorem buildCacheKey_generateRawToken (bytes : TokenBytes)
    : buildCacheKey libraries (generateRawToken bytes)
      = some
          { tokenPrefix := tokenPrefix (generateRawToken bytes)
            tokenHash := libraries.hashToken (generateRawToken bytes) } := by
  refine if_neg fun isBlank => ?_
  have noDigits := congrArg (fun text : String => text.toList.length) isBlank
  simp [generateRawToken] at noDigits

/-- Different tokens of those that occur have different keys. -/
theorem buildCacheKey_injective (collisionFree : libraries.CollisionFree) {first second : String}
    (firstUsed : libraries.usesToken first = true)
    (secondUsed : libraries.usesToken second = true)
    (isFirst : buildCacheKey libraries first = some key)
    (isSecond : buildCacheKey libraries second = some key)
    : first = second := by
  unfold buildCacheKey at isFirst isSecond
  split at isFirst
  · cases isFirst
  · split at isSecond
    · cases isSecond
    · have same := (Option.some.inj isFirst).trans (Option.some.inj isSecond).symm
      exact collisionFree.injective first second firstUsed secondUsed
        (congrArg AuthTokenCacheKey.tokenHash same)

namespace AuthTokenCache

theorem peek_new : new.peek key = none := rfl

/-- What is left after room was made was there before. -/
theorem peek_of_peek_evict {entries : LruCache AuthTokenCacheKey AuthTokenCacheEntry} {ttl : Int}
    (left : (evictPreferExpiredEntry entries now ttl).peek key = some entry)
    : entries.peek key = some entry := by
  unfold evictPreferExpiredEntry at left
  split at left
  · rw [LruCache.peek_pop] at left
    split at left
    · cases left
    · exact left
  · exact LruCache.peek_of_peek_popLru left

/-- The cache answers an entry under the key of the token that is still alive. -/
theorem getBearerContext_eq_some
    : (cache.getBearerContext libraries now rawToken).1 = some context
      ↔ ∃ key entry,
          buildCacheKey libraries rawToken = some key
          ∧ cache.peek key = some entry
          ∧ entry.isDead now cache.ttl = false
          ∧ entry.context = context := by
  unfold getBearerContext peek
  cases isKey : buildCacheKey libraries rawToken with
  | none => simp
  | some key =>
      cases cache.entries with
      | none => simp
      | some entries =>
          cases isEntry : entries.peek key with
          | none => simp [isEntry]
          | some entry =>
              by_cases dead : entry.isDead now cache.ttl = true
              · simp [isEntry, dead]
              · simp [isEntry, dead]

/-- A read that nobody disturbs sees the same entry in both of its sections. -/
theorem getBearerContextInSections_eq
    : cache.getBearerContextInSections libraries now rawToken
      = cache.getBearerContext libraries now rawToken := by
  unfold getBearerContextInSections getBearerContext removeIfStillExpired promoteIfStillAlive
  cases buildCacheKey libraries rawToken with
  | none => rfl
  | some key =>
      cases isEntries : cache.entries with
      | none => rfl
      | some entries =>
          cases isEntry : entries.peek key with
          | none => simp [isEntry]
          | some entry =>
              by_cases dead : entry.isDead now cache.ttl = true
              · simp [isEntry, dead]
              · simp [isEntry, dead]

/-- An answer leaves no more than there was. -/
theorem peek_of_peek_getBearerContext
    (left : (cache.getBearerContext libraries now rawToken).2.peek other = some found)
    : cache.peek other = some found := by
  unfold getBearerContext at left
  split at left
  · rename_i key entries _ isEntries
    have here : cache.peek other = entries.peek other := congrArg (Option.bind · _) isEntries
    split at left
    · exact left
    · split at left
      · rw [peek, Option.bind_some, LruCache.peek_pop] at left
        split at left
        · cases left
        · exact here.trans left
      · rw [peek, Option.bind_some, LruCache.peek_promote] at left
        exact here.trans left
  · exact left

theorem getBearerContext_settings
    : (cache.getBearerContext libraries now rawToken).2.ttl = cache.ttl
      ∧ (cache.getBearerContext libraries now rawToken).2.entries.isSome
        = cache.entries.isSome := by
  unfold getBearerContext
  split
  · rename_i isEntries
    rw [isEntries]
    split
    · exact ⟨rfl, by rw [isEntries]⟩
    · split <;> exact ⟨rfl, rfl⟩
  · exact ⟨rfl, rfl⟩

theorem getAdminContext_eq_some {admin : AdminAccessTokenContext}
    : (cache.getAdminContext libraries now rawToken).1 = some admin
      ↔ (cache.getBearerContext libraries now rawToken).1 = some (.adminUser admin) := by
  unfold getAdminContext
  split <;> simp_all

theorem getAdminContext_snd
    : (cache.getAdminContext libraries now rawToken).2
      = (cache.getBearerContext libraries now rawToken).2 := by
  unfold getAdminContext
  split <;> simp_all

/-- After an insert, an entry is the inserted one or was there before. -/
theorem peek_of_peek_insertBearerContext
    (left : (cache.insertBearerContext libraries now rawToken context).peek other = some found)
    : buildCacheKey libraries rawToken = some other
        ∧ found = { context, insertedAt := now }
      ∨ cache.peek other = some found := by
  unfold insertBearerContext at left
  split at left
  · rename_i key entries isKey isEntries
    rcases LruCache.peek_of_peek_put left with ⟨rfl, isNew⟩ | ⟨_, kept⟩
    · exact .inl ⟨isKey, isNew⟩
    · refine .inr ?_
      unfold peek
      rw [isEntries]
      split at kept
      · exact peek_of_peek_evict kept
      · exact kept
  · exact .inr left

theorem insertBearerContext_settings
    : (cache.insertBearerContext libraries now rawToken context).ttl = cache.ttl
      ∧ (cache.insertBearerContext libraries now rawToken context).entries.isSome
        = cache.entries.isSome := by
  unfold insertBearerContext
  split
  · rename_i isEntries
    rw [isEntries]
    exact ⟨rfl, rfl⟩
  · exact ⟨rfl, rfl⟩

/-- The inserted entry is there. -/
theorem peek_insertBearerContext_self (isKey : buildCacheKey libraries rawToken = some key)
    (enabled : cache.entries.isSome = true)
    : (cache.insertBearerContext libraries now rawToken context).peek key
      = some { context, insertedAt := now } := by
  obtain ⟨entries, isEntries⟩ := Option.isSome_iff_exists.mp enabled
  unfold insertBearerContext peek
  rw [isKey, isEntries]
  exact LruCache.peek_put_self

/-- An answer removes no entry that is still alive. -/
theorem peek_getBearerContext_of_alive (stored : cache.peek other = some found)
    (alive : found.isDead now cache.ttl = false)
    : (cache.getBearerContext libraries now rawToken).2.peek other = some found := by
  unfold getBearerContext
  split
  · rename_i key entries _ isEntries
    have here : cache.peek other = entries.peek other := congrArg (Option.bind · _) isEntries
    rw [here] at stored
    split
    · exact here.trans stored
    · rename_i entry isEntry
      split
      · next dead =>
          have different : other ≠ key := by
            rintro rfl
            rw [stored] at isEntry
            cases isEntry
            exact absurd dead (Bool.eq_false_iff.mp alive)
          rw [peek, Option.bind_some, LruCache.peek_pop, if_neg different, stored]
      · rw [peek, Option.bind_some, LruCache.peek_promote, stored]
  · exact stored

/-- Room is made at the cost of an entry that is no longer alive, if there is one. -/
theorem peek_evict_of_alive {entries : LruCache AuthTokenCacheKey AuthTokenCacheEntry} {ttl : Int}
    (stored : entries.peek other = some found) (alive : found.isDead now ttl = false)
    : (∃ key entry,
          entries.peek key = some entry
          ∧ entry.isDead now ttl = true
          ∧ evictPreferExpiredEntry entries now ttl = entries.pop key
          ∧ other ≠ key)
      ∨ (∀ row ∈ entries.entries.rows, row.2.isDead now ttl = false)
        ∧ evictPreferExpiredEntry entries now ttl = entries.popLru := by
  unfold evictPreferExpiredEntry
  cases dead : entries.entries.rows.find? fun entry => entry.2.isDead now ttl with
  | none =>
      refine .inr ⟨fun row member => ?_, rfl⟩
      exact Bool.eq_false_of_not_eq_true (List.find?_eq_none.mp dead row member)
  | some row =>
      obtain ⟨key, entry⟩ := row
      have isDead : entry.isDead now ttl = true :=
        List.find?_some
          (p := fun entry : AuthTokenCacheKey × AuthTokenCacheEntry => entry.2.isDead now ttl) dead
      have present : entries.peek key = some entry :=
        LruCache.peek_eq_some.mpr (List.mem_of_find?_eq_some dead)
      refine .inl ⟨key, entry, present, isDead, rfl, ?_⟩
      rintro rfl
      rw [stored] at present
      cases present
      exact absurd isDead (Bool.eq_false_iff.mp alive)

/-- An insert drops an entry that is still alive only for a new key, from a full cache of entries
that are all alive, and that entry is the last one.
-/
theorem evicted_of_insertBearerContext
    {entries : LruCache AuthTokenCacheKey AuthTokenCacheEntry}
    (isEntries : cache.entries = some entries)
    (isKey : buildCacheKey libraries rawToken = some key) (stored : entries.peek other = some found)
    (alive : found.isDead now cache.ttl = false)
    (gone : (cache.insertBearerContext libraries now rawToken context).peek other = none)
    : entries.peek key = none
      ∧ entries.entries.rows.length = entries.cap
      ∧ (∀ row ∈ entries.entries.rows, row.2.isDead now cache.ttl = false)
      ∧ entries.entries.rows.getLast? = some (other, found) := by
  unfold insertBearerContext at gone
  rw [isKey, isEntries] at gone
  dsimp only [peek, Option.bind_some] at gone
  cases isPresent : entries.peek key with
  | some old =>
      rw [isPresent] at gone
      have missing := LruCache.peek_of_peek_put_eq_none (LruCache.fits_of_peek isPresent) gone
      rw [stored] at missing
      cases missing
  | none =>
      rw [isPresent] at gone
      by_cases full : entries.cap ≤ entries.entries.rows.length
      · simp only [Option.isNone_none, full, decide_true, Bool.and_self, if_true] at gone
        rcases peek_evict_of_alive stored alive with
          ⟨dead, entry, present, _, isEvict, different⟩ | ⟨allAlive, isEvict⟩
        · rw [isEvict] at gone
          have room := (LruCache.length_pop_lt present).trans_le entries.bounded
          have missing := LruCache.peek_of_peek_put_eq_none (LruCache.fits_of_room room) gone
          rw [LruCache.peek_pop, if_neg different, stored] at missing
          cases missing
        · rw [isEvict] at gone
          have missing :=
            LruCache.peek_of_peek_put_eq_none (LruCache.fits_of_room LruCache.length_popLru_lt) gone
          exact ⟨rfl, entries.bounded.antisymm full, allAlive,
            LruCache.getLast?_of_popLru stored missing⟩
      · have room := not_le.mp full
        simp only [full, decide_false, Bool.and_false, Bool.false_eq_true, if_false] at gone
        have missing := LruCache.peek_of_peek_put_eq_none (LruCache.fits_of_room room) gone
        rw [stored] at missing
        cases missing

theorem peek_invalidateKey
    : (cache.invalidateKey key).peek other = if other = key then none else cache.peek other := by
  unfold invalidateKey peek
  cases cache.entries with
  | none => simp
  | some entries => simp [LruCache.peek_pop]

end AuthTokenCache

end AlonSentinel.Auth
