import AlonSentinel.Foundation.KeyedTable

/-! A map of bounded size that drops the least recently used entry. Its entries are a table in
the order of their last use, the most recent one first.
-/

namespace Caching

open KeyedTable

variable {Key Value : Type*}

/-- At most `cap` entries under different keys. -/
structure LruCache (Key Value : Type*) where
  entries : Table (Key × Value) Prod.fst
  cap : Nat
  positive : 0 < cap
  bounded : entries.rows.length ≤ cap

namespace LruCache

def empty (cap : Nat) (positive : 0 < cap) : LruCache Key Value where
  entries := .empty
  cap := cap
  positive := positive
  bounded := Nat.zero_le cap

/-- Keeps some of the entries. -/
def retain (cache : LruCache Key Value) (keeps : Key × Value → Bool) : LruCache Key Value where
  entries := cache.entries.select keeps
  cap := cache.cap
  positive := cache.positive
  bounded := (List.length_filter_le keeps _).trans cache.bounded

/-- Removes the entry that was used least recently. -/
def popLru (cache : LruCache Key Value) : LruCache Key Value where
  entries :=
    { rows := cache.entries.rows.dropLast
      keysNodup := ((List.dropLast_sublist _).map Prod.fst).nodup cache.entries.keysNodup }
  cap := cache.cap
  positive := cache.positive
  bounded := by
    rw [List.length_dropLast]
    exact (Nat.sub_le _ _).trans cache.bounded

variable [DecidableEq Key]

/-- Reads an entry and leaves the order alone. -/
def peek (cache : LruCache Key Value) (key : Key) : Option Value :=
  (cache.entries.find? key).map Prod.snd

/-- Removes the entry under a key. -/
def pop (cache : LruCache Key Value) (key : Key) : LruCache Key Value := cache.retain (·.1 ≠ key)

/-- Stores an entry as the most recently used one. A full cache drops its last entry, unless it
held one under the same key.
-/
def put (cache : LruCache Key Value) (key : Key) (value : Value) : LruCache Key Value where
  entries :=
    { rows := ((key, value) :: (cache.pop key).entries.rows).take cache.cap
      keysNodup := by
        refine ((List.take_sublist _ _).map Prod.fst).nodup ?_
        refine List.nodup_cons.mpr ⟨fun member => ?_, (cache.pop key).entries.keysNodup⟩
        obtain ⟨entry, kept, same⟩ := List.mem_map.mp member
        exact of_decide_eq_true (List.mem_filter.mp kept).2 same }
  cap := cache.cap
  positive := cache.positive
  bounded := List.length_take_le _ _

/-- Makes an entry the most recently used one. -/
def promote (cache : LruCache Key Value) (key : Key) : LruCache Key Value :=
  match cache.peek key with
  | some value => cache.put key value
  | none => cache

/-- Reads an entry as a use of it. -/
def get (cache : LruCache Key Value) (key : Key) : Option Value × LruCache Key Value :=
  (cache.peek key, cache.promote key)

variable {cache : LruCache Key Value} {key other : Key} {value found : Value}

theorem peek_eq_some : cache.peek key = some value ↔ (key, value) ∈ cache.entries.rows := by
  unfold peek
  constructor
  · intro isSome
    obtain ⟨⟨_, _⟩, isFirst, rfl⟩ := Option.map_eq_some_iff.mp isSome
    obtain ⟨member, rfl⟩ := Table.mem_of_find? isFirst
    exact member
  · intro member
    rw [show cache.entries.find? key = some (key, value) from Table.find?_key member]
    rfl

theorem peek_pop : (cache.pop key).peek other = if other = key then none else cache.peek other := by
  refine Option.ext fun found => ?_
  simp only [peek_eq_some, pop, retain, Table.select, List.mem_filter]
  by_cases same : other = key <;> simp [same, peek_eq_some]

/-- What is left after the last entry was dropped was there before. -/
theorem peek_of_peek_popLru (left : cache.popLru.peek key = some value)
    : cache.peek key = some value :=
  peek_eq_some.mpr (List.dropLast_subset _ (peek_eq_some.mp left))

theorem peek_put_self : (cache.put key value).peek key = some value := by
  refine peek_eq_some.mpr ?_
  obtain ⟨size, isSize⟩ := Nat.exists_eq_succ_of_ne_zero cache.positive.ne'
  simp only [put, isSize, List.take_succ_cons, List.mem_cons, true_or]

/-- What is there after an entry was stored is that entry or was there before. -/
theorem peek_of_peek_put (left : (cache.put key value).peek other = some found)
    : other = key ∧ found = value ∨ other ≠ key ∧ cache.peek other = some found := by
  rcases List.mem_cons.mp (List.mem_of_mem_take (peek_eq_some.mp left)) with new | kept
  · exact .inl (Prod.mk.inj new)
  · have isFound := peek_eq_some.mpr kept
    rw [peek_pop] at isFound
    split at isFound
    · cases isFound
    · rename_i different
      exact .inr ⟨different, isFound⟩

theorem length_pop_lt (present : cache.peek key = some value)
    : (cache.pop key).entries.rows.length < cache.entries.rows.length :=
  List.length_filter_lt_length_iff_exists.mpr ⟨_, peek_eq_some.mp present, by simp⟩

/-- Where there is room for it, storing an entry drops no other. -/
theorem peek_put_of_fits (fits : (cache.pop key).entries.rows.length < cache.cap)
    : (cache.put key value).peek other = if other = key then some value else cache.peek other := by
  have all
      : (cache.put key value).entries.rows = (key, value) :: (cache.pop key).entries.rows :=
    List.take_of_length_le fits
  refine Option.ext fun found => ?_
  rw [peek_eq_some, all, List.mem_cons, Prod.mk.injEq, ← peek_eq_some, peek_pop]
  by_cases same : other = key
  · simp [same, eq_comm]
  · simp [same]

/-- What is missing after an entry was stored in its room was missing before. -/
theorem peek_of_peek_put_eq_none (fits : (cache.pop key).entries.rows.length < cache.cap)
    (missing : (cache.put key value).peek other = none)
    : cache.peek other = none := by
  rw [peek_put_of_fits fits] at missing
  split at missing
  · cases missing
  · exact missing

/-- An entry that is there makes room for its successor. -/
theorem fits_of_peek (present : cache.peek key = some value)
    : (cache.pop key).entries.rows.length < cache.cap :=
  (length_pop_lt present).trans_le cache.bounded

/-- Storing an entry that is there drops none. -/
theorem peek_put_of_peek (present : cache.peek key = some value)
    : (cache.put key value).peek other = cache.peek other := by
  rw [peek_put_of_fits (fits_of_peek present)]
  split
  · next same => rw [same, present]
  · rfl

/-- A use of an entry changes the order only. -/
@[simp] theorem peek_promote : (cache.promote key).peek other = cache.peek other := by
  unfold promote
  split
  · rename_i value present
    exact peek_put_of_peek present
  · rfl

------------------------------------------------------------
-- Room
------------------------------------------------------------

@[simp] theorem cap_put : (cache.put key value).cap = cache.cap := rfl

@[simp] theorem cap_pop : (cache.pop key).cap = cache.cap := rfl

@[simp] theorem cap_promote : (cache.promote key).cap = cache.cap := by
  unfold promote
  split <;> rfl

omit [DecidableEq Key] in
theorem length_popLru_lt : cache.popLru.entries.rows.length < cache.popLru.cap := by
  have bounded := cache.bounded
  have positive := cache.positive
  simp only [popLru, List.length_dropLast]
  omega

theorem fits_of_room (room : cache.entries.rows.length < cache.cap)
    : (cache.pop key).entries.rows.length < cache.cap :=
  (List.length_filter_le _ _).trans_lt room

/-- An entry that goes with the least recently used one is that one. -/
theorem getLast?_of_popLru (stored : cache.peek key = some value)
    (gone : cache.popLru.peek key = none)
    : cache.entries.rows.getLast? = some (key, value) := by
  have member := peek_eq_some.mp stored
  obtain ⟨last, isLast⟩ :=
    Option.isSome_iff_exists.mp (List.getLast?_isSome.mpr (List.ne_nil_of_mem member))
  have rows := List.dropLast_append_getLast? last isLast
  rw [← rows, List.mem_append, List.mem_singleton] at member
  rcases member with kept | isThis
  · have found : cache.popLru.peek key = some value := peek_eq_some.mpr kept
    rw [gone] at found
    cases found
  · rw [isLast, isThis]

------------------------------------------------------------
-- Recency
------------------------------------------------------------

/-- In a list of uses, `other` was used after the last use of `key`. -/
def UsedSince (used : List Key) (key other : Key) : Prop :=
  ∃ before after, used = before ++ other :: after ∧ key ∉ after

/-- The entries are in the order of their last use. -/
def Recent (used : List Key) (cache : LruCache Key Value) : Prop :=
  cache.entries.rows.Pairwise fun first second => UsedSince used second.1 first.1

variable {used : List Key}

omit [DecidableEq Key] in
theorem UsedSince.snoc {new : Key} (since : UsedSince used key other) (different : key ≠ new)
    : UsedSince (used ++ [new]) key other := by
  obtain ⟨before, after, rfl, unused⟩ := since
  refine ⟨before, after ++ [new], by simp, ?_⟩
  simp [unused, different]

omit [DecidableEq Key] in
theorem Recent.empty {cap : Nat} {positive : 0 < cap}
    : Recent used (LruCache.empty cap positive : LruCache Key Value) :=
  .nil

omit [DecidableEq Key] in
theorem Recent.retain (recent : Recent used cache) (keeps : Key × Value → Bool)
    : Recent used (cache.retain keeps) :=
  recent.sublist List.filter_sublist

omit [DecidableEq Key] in
theorem Recent.popLru (recent : Recent used cache) : Recent used cache.popLru :=
  recent.sublist (List.dropLast_sublist _)

/-- A stored entry is the one that was used last. -/
theorem Recent.put (recent : Recent used cache) : Recent (used ++ [key]) (cache.put key value) := by
  refine List.Pairwise.sublist (List.take_sublist _ _) (List.pairwise_cons.mpr ⟨?_, ?_⟩)
  · exact fun second _ => ⟨used, [], rfl, List.not_mem_nil⟩
  · refine (recent.sublist List.filter_sublist).imp_of_mem fun _ isSecond since => ?_
    exact since.snoc (of_decide_eq_true (List.mem_filter.mp isSecond).2)

theorem Recent.promote (recent : Recent used cache) (present : cache.peek key = some value)
    : Recent (used ++ [key]) (cache.promote key) := by
  unfold LruCache.promote
  rw [present]
  exact recent.put

/-- All others were used since the last use of the last entry. -/
theorem Recent.usedSince_getLast (recent : Recent used cache)
    (isLast : cache.entries.rows.getLast? = some (key, value))
    (present : cache.peek other = some found) (different : other ≠ key)
    : UsedSince used key other := by
  have rows := List.dropLast_append_getLast? _ isLast
  have member := peek_eq_some.mp present
  rw [← rows, List.mem_append, List.mem_singleton] at member
  rcases member with earlier | isThis
  · unfold Recent at recent
    rw [← rows] at recent
    exact (List.pairwise_append.mp recent).2.2 _ earlier _ List.mem_cons_self
  · exact absurd (congrArg Prod.fst isThis) different

end LruCache

end Caching
