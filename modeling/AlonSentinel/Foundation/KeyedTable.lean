import Mathlib.Data.List.Nodup
import Mathlib.Data.List.Sort

/-! Relational tables with a primary key, and the row-wise operations of SQL statements on
them. The key constraint is a field of the table, so every operation proves that it keeps it.
-/

namespace KeyedTable

universe u v

/-- As many rows have a wanted value in a unique column as values are wanted exactly if no value is
wanted twice and each is there.
-/
theorem length_filter_wanted_iff {Row : Type u} {Value : Type v} [DecidableEq Value]
    {column : Row → Value} {rows : List Row} {wanted : List Value}
    (unique : (rows.map column).Nodup)
    : (rows.filter fun row => column row ∈ wanted).length = wanted.length
      ↔ wanted.Nodup ∧ ∀ value ∈ wanted, ∃ row ∈ rows, column row = value := by
  let found := (rows.filter fun row => column row ∈ wanted).map column
  have distinct : found.Nodup := (List.filter_sublist.map column).nodup unique
  have isFound {value : Value}
      : value ∈ found ↔ value ∈ wanted ∧ ∃ row ∈ rows, column row = value := by
    simp only [found, List.mem_map, List.mem_filter, decide_eq_true_eq]
    constructor
    · rintro ⟨row, ⟨stored, isWanted⟩, rfl⟩
      exact ⟨isWanted, row, stored, rfl⟩
    · rintro ⟨isWanted, row, stored, rfl⟩
      exact ⟨row, ⟨stored, isWanted⟩, rfl⟩
  rw [← List.length_map (f := column)]
  change found.length = wanted.length ↔ _
  constructor
  · intro sameLength
    have permuted : found.Perm wanted :=
      (List.subperm_of_subset distinct fun _ member => (isFound.mp member).1).perm_of_length_le
        sameLength.ge
    refine ⟨permuted.nodup_iff.mp distinct, fun value isWanted => ?_⟩
    exact (isFound.mp (permuted.mem_iff.mpr isWanted)).2
  · rintro ⟨once, stored⟩
    apply List.Perm.length_eq
    rw [List.perm_ext_iff_of_nodup distinct once]
    exact fun value => isFound.trans (and_iff_left_of_imp (stored value))

/-- A table whose rows have pairwise distinct keys. -/
structure Table (Row : Type u) {Key : Type v} (key : Row → Key) where
  rows : List Row
  keysNodup : (rows.map key).Nodup

namespace Table

variable {Row : Type u} {Key : Type v} {key : Row → Key}

/-- The table without rows. -/
def empty : Table Row key := ⟨[], List.nodup_nil⟩

/-- The row stored under a key. -/
def find? [DecidableEq Key] (table : Table Row key) (wanted : Key) : Option Row :=
  table.rows.find? fun row => key row = wanted

/-- `DELETE` of the rows outside a condition, or `SELECT` with that condition. -/
def select (table : Table Row key) (condition : Row → Bool) : Table Row key where
  rows := table.rows.filter condition
  keysNodup := (List.filter_sublist.map key).nodup table.keysNodup

/-- `UPDATE`: sets columns other than the key in every row that meets the condition. -/
def update (table : Table Row key) (condition : Row → Bool) (set : Row → Row)
    (keeps : ∀ row, condition row = true → key (set row) = key row := by intros; rfl)
    : Table Row key where
  rows := table.rows.map fun row => if condition row then set row else row
  keysNodup := by
    have same
        : (table.rows.map fun row => if condition row then set row else row).map key
          = table.rows.map key := by
      rw [List.map_map]
      refine List.map_congr_left fun row _ => ?_
      by_cases met : condition row = true
      · simp only [Function.comp_apply, met, if_true, keeps row met]
      · simp only [Function.comp_apply, met, if_false, Bool.false_eq_true]
    exact same ▸ table.keysNodup

/-- Keys read off the collected rows appear in the order of the source rows, by induction
over the rows. -/
theorem collected_keys_sublist {Row' : Type*} {key' : Row' → Key} (rows : List Row)
    (read : Row → Option Row')
    (keeps : ∀ row collected, read row = some collected → key' collected = key row)
    : ((rows.filterMap read).map key').Sublist (rows.map key) := by
  induction rows with
  | nil => exact .slnil
  | cons row rest ih =>
      cases collected : read row with
      | none =>
          rw [List.filterMap_cons_none collected]
          exact ih.cons _
      | some output =>
          rw [List.filterMap_cons_some collected, List.map_cons, List.map_cons,
            keeps row output collected]
          exact ih.cons_cons _

/-- Reads another row type off the rows, dropping those without one, and keeps the keys. -/
def collect {Row' : Type*} {key' : Row' → Key} (table : Table Row key)
    (read : Row → Option Row')
    (keeps : ∀ row collected, read row = some collected → key' collected = key row)
    : Table Row' key' where
  rows := table.rows.filterMap read
  keysNodup := (collected_keys_sublist table.rows read keeps).nodup table.keysNodup

/-- `INSERT` of a row whose key is not in use. -/
def append (table : Table Row key) (row : Row) (unused : key row ∉ table.rows.map key)
    : Table Row key where
  rows := table.rows ++ [row]
  keysNodup := by
    rw [List.map_append, List.map_singleton]
    exact table.keysNodup.append (List.nodup_singleton _)
      (List.disjoint_singleton.mpr unused)

/-- `INSERT … ON CONFLICT (key) DO UPDATE`: `merge` is applied to the stored row. -/
def upsert [DecidableEq Key] (table : Table Row key) (row : Row) (merge : Row → Row)
    (keeps : ∀ stored, key stored = key row → key (merge stored) = key row)
    : Table Row key :=
  if used : key row ∈ table.rows.map key then
    table.update (fun stored => key stored = key row) merge fun stored met =>
      (keeps stored (of_decide_eq_true met)).trans (of_decide_eq_true met).symm
  else table.append row used

/-- The keys of the first `limit` rows that meet a condition, in the given order
(`SELECT key … WHERE condition ORDER BY order LIMIT limit`). -/
def pick (table : Table Row key) (condition : Row → Bool) (order : Row → Row → Bool)
    (limit : Nat)
    : List Key :=
  (((table.rows.filter condition).insertionSort (order · ·)).take limit).map key

/-- Two stored rows with one key are one row. -/
theorem eq_of_key_eq {table : Table Row key} {first second : Row}
    (hf : first ∈ table.rows) (hs : second ∈ table.rows) (same : key first = key second)
    : first = second :=
  List.inj_on_of_nodup_map table.keysNodup hf hs same

section Lookup

variable [DecidableEq Key]

/-- A found row is stored under the wanted key. -/
theorem mem_of_find? {table : Table Row key} {wanted : Key} {row : Row}
    (found : table.find? wanted = some row)
    : row ∈ table.rows ∧ key row = wanted := by
  have met : decide (key row = wanted) = true :=
    List.find?_some (p := fun row => decide (key row = wanted)) found
  exact ⟨List.mem_of_find?_eq_some found, of_decide_eq_true met⟩

/-- A found row with the rows before and after it, which have other keys. -/
theorem around_of_find? {table : Table Row key} {wanted : Key} {row : Row}
    (found : table.find? wanted = some row)
    : ∃ before after,
        table.rows = before ++ row :: after ∧ ∀ other ∈ before ++ after, key other ≠ wanted := by
  obtain ⟨stored, isKey⟩ := mem_of_find? found
  obtain ⟨before, after, rows⟩ := List.append_of_mem stored
  refine ⟨before, after, rows, fun other member same => ?_⟩
  have keys := table.keysNodup
  rw [rows, List.map_append, List.map_cons, List.nodup_middle, ← List.map_append] at keys
  exact (List.nodup_cons.mp keys).1 (List.mem_map.mpr ⟨other, member, same.trans isKey.symm⟩)

/-- Lookup finds exactly the row stored under the key. -/
theorem find?_eq_some {table : Table Row key} {wanted : Key} {row : Row}
    : table.find? wanted = some row ↔ row ∈ table.rows ∧ key row = wanted := by
  refine ⟨mem_of_find?, fun ⟨member, same⟩ => ?_⟩
  cases found : table.find? wanted with
  | none =>
      have absent := List.find?_eq_none.mp found row member
      exact absurd (decide_eq_true same) absent
  | some other =>
      obtain ⟨stored, otherKey⟩ := mem_of_find? found
      rw [eq_of_key_eq stored member (otherKey.trans same.symm)]

/-- Lookup fails exactly when no row has the key. -/
theorem find?_eq_none {table : Table Row key} {wanted : Key}
    : table.find? wanted = none ↔ ∀ row ∈ table.rows, key row ≠ wanted := by
  rw [find?, List.find?_eq_none]
  exact forall₂_congr fun _ _ => by rw [decide_eq_true_eq]

/-- A table has rows when a key finds one. -/
theorem rows_ne_nil {table : Table Row key} {wanted : Key} {row : Row}
    (found : table.find? wanted = some row)
    : table.rows ≠ [] :=
  List.ne_nil_of_mem (mem_of_find? found).1

/-- Every stored row is found under its own key. -/
theorem find?_key {table : Table Row key} {row : Row} (member : row ∈ table.rows)
    : table.find? (key row) = some row :=
  find?_eq_some.mpr ⟨member, rfl⟩

/-- Selection filters the row found under a key. -/
theorem find?_select (table : Table Row key) (condition : Row → Bool) (wanted : Key)
    : (table.select condition).find? wanted = (table.find? wanted).filter condition := by
  refine Option.ext fun row => ?_
  rw [find?_eq_some, Option.filter_eq_some_iff, find?_eq_some]
  simp only [select, List.mem_filter]
  tauto

/-- An update acts on the row found under a key. -/
theorem find?_update (table : Table Row key) (condition : Row → Bool) (set : Row → Row)
    (keeps : ∀ row, condition row = true → key (set row) = key row) (wanted : Key)
    : (table.update condition set keeps).find? wanted
      = (table.find? wanted).map fun row => if condition row then set row else row := by
  have sameKey (row : Row) : key (if condition row then set row else row) = key row := by
    by_cases met : condition row = true
    · rw [if_pos met, keeps row met]
    · rw [if_neg met]
  cases found : table.find? wanted with
  | none =>
      rw [Option.map_none, find?_eq_none]
      intro row member
      obtain ⟨stored, hs, rfl⟩ := List.mem_map.mp member
      rw [sameKey]
      exact find?_eq_none.mp found stored hs
  | some row =>
      obtain ⟨member, hk⟩ := find?_eq_some.mp found
      exact find?_eq_some.mpr ⟨List.mem_map.mpr ⟨row, member, rfl⟩, (sameKey row).trans hk⟩

/-- Collecting reads the row found under a key. -/
theorem find?_collect {Row' : Type*} {key' : Row' → Key} (table : Table Row key)
    (read : Row → Option Row')
    (keeps : ∀ row collected, read row = some collected → key' collected = key row)
    (wanted : Key)
    : (table.collect read keeps).find? wanted = (table.find? wanted).bind read := by
  refine Option.ext fun output => ?_
  rw [find?_eq_some, Option.bind_eq_some_iff]
  constructor
  · rintro ⟨member, hk⟩
    obtain ⟨row, stored, collected⟩ := List.mem_filterMap.mp member
    have same : key row = wanted := (keeps row output collected).symm.trans hk
    exact ⟨row, find?_eq_some.mpr ⟨stored, same⟩, collected⟩
  · rintro ⟨row, found, collected⟩
    obtain ⟨stored, same⟩ := mem_of_find? found
    exact ⟨List.mem_filterMap.mpr ⟨row, stored, collected⟩,
      (keeps row output collected).trans same⟩

/-- Collecting that changes at most the row under one key replaces that row, or takes it out. -/
theorem rows_collect_of_find? {table : Table Row key} {read : Row → Option Row}
    {keeps : ∀ row collected, read row = some collected → key collected = key row}
    {wanted : Key} {row : Row} (found : table.find? wanted = some row)
    (others : ∀ other, key other ≠ wanted → read other = some other)
    : ∃ before after,
        table.rows = before ++ row :: after
        ∧ (table.collect read keeps).rows = before ++ ((read row).toList ++ after) := by
  obtain ⟨before, after, rows, apart⟩ := around_of_find? found
  have kept (part : List Row) (isPart : ∀ other ∈ part, key other ≠ wanted)
      : part.filterMap read = part :=
    (List.filterMap_congr fun other member => others other (isPart other member)).trans
      List.filterMap_some
  refine ⟨before, after, rows, ?_⟩
  change table.rows.filterMap read = _
  rw [rows, List.filterMap_append,
    kept before fun other member => apart other (List.mem_append_left _ member)]
  cases collected : read row with
  | none =>
      rw [List.filterMap_cons_none collected,
        kept after fun other member => apart other (List.mem_append_right _ member)]
      rfl
  | some output =>
      rw [List.filterMap_cons_some collected,
        kept after fun other member => apart other (List.mem_append_right _ member)]
      rfl

/-- At most as many rows are selected by key as keys are wanted. -/
theorem length_select_keys_le (table : Table Row key) (wanted : List Key)
    : (table.select fun row => key row ∈ wanted).rows.length ≤ wanted.length := by
  rw [← List.length_map (f := key)]
  refine (List.subperm_of_subset (table.select _).keysNodup fun selected member => ?_).length_le
  obtain ⟨row, stored, rfl⟩ := List.mem_map.mp member
  exact of_decide_eq_true (List.mem_filter.mp stored).2

/-- An appended row is found under its key, the others as before. -/
theorem find?_append (table : Table Row key) (row : Row)
    (unused : key row ∉ table.rows.map key) (wanted : Key)
    : (table.append row unused).find? wanted
      = if wanted = key row then some row else table.find? wanted := by
  by_cases same : wanted = key row
  · rw [if_pos same, find?_eq_some]
    exact ⟨List.mem_append_right _ (List.mem_singleton_self row), same.symm⟩
  · rw [if_neg same]
    refine Option.ext fun other => ?_
    rw [find?_eq_some, find?_eq_some]
    simp only [append, List.mem_append, List.mem_singleton]
    constructor
    · rintro ⟨member | rfl, hk⟩
      · exact ⟨member, hk⟩
      · exact absurd hk.symm same
    · exact fun ⟨member, hk⟩ => ⟨.inl member, hk⟩

/-- An upserted row is found under its key, as merged if there was one, and the others as before. -/
theorem find?_upsert (table : Table Row key) (row : Row) (merge : Row → Row)
    (keeps : ∀ stored, key stored = key row → key (merge stored) = key row) (wanted : Key)
    : (table.upsert row merge keeps).find? wanted
      = if wanted = key row then some ((table.find? wanted).elim row merge)
        else table.find? wanted := by
  unfold upsert
  split
  · next used =>
      obtain ⟨stored, member, isKey⟩ := List.mem_map.mp used
      rw [find?_update]
      by_cases same : wanted = key row
      · have found : table.find? wanted = some stored :=
          find?_eq_some.mpr ⟨member, isKey.trans same.symm⟩
        rw [found, if_pos same]
        simp [isKey]
      · cases found : table.find? wanted with
        | none => simp [same]
        | some other =>
            have different : key other ≠ key row := (mem_of_find? found).2.trans_ne same
            simp [same, different]
  · next unused =>
      rw [find?_append]
      by_cases same : wanted = key row
      · have absent : table.find? wanted = none :=
          find?_eq_none.mpr fun other member isKey =>
            unused (List.mem_map.mpr ⟨other, member, isKey.trans same⟩)
        rw [if_pos same, if_pos same, absent]
        rfl
      · rw [if_neg same, if_neg same]

end Lookup

/-- A picked key belongs to a stored row that meets the condition. -/
theorem mem_pick {table : Table Row key} {condition : Row → Bool} {order : Row → Row → Bool}
    {limit : Nat} {picked : Key}
    (member : picked ∈ table.pick condition order limit)
    : ∃ row ∈ table.rows, condition row = true ∧ key row = picked := by
  obtain ⟨row, taken, same⟩ := List.mem_map.mp member
  have sorted := List.mem_of_mem_take taken
  have kept := (List.perm_insertionSort (order · ·) _).mem_iff.mp sorted
  obtain ⟨stored, met⟩ := List.mem_filter.mp kept
  exact ⟨row, stored, met, same⟩

/-- With a positive limit, keys are picked exactly when a stored row meets the condition. -/
theorem pick_ne_nil {table : Table Row key} {condition : Row → Bool}
    {order : Row → Row → Bool} {limit : Nat} (positive : 0 < limit)
    : table.pick condition order limit ≠ [] ↔ ∃ row ∈ table.rows, condition row = true := by
  constructor
  · intro some
    obtain ⟨picked, member⟩ := List.exists_mem_of_ne_nil _ some
    obtain ⟨row, stored, met, _⟩ := mem_pick member
    exact ⟨row, stored, met⟩
  · intro ⟨row, stored, met⟩ none
    have kept : row ∈ (table.rows.filter condition).insertionSort (order · ·) :=
      (List.perm_insertionSort (order · ·) _).mem_iff.mpr (List.mem_filter.mpr ⟨stored, met⟩)
    rcases List.take_eq_nil_iff.mp (List.map_eq_nil_iff.mp none) with zero | empty
    · omega
    · rw [empty] at kept
      exact List.not_mem_nil kept

section Picked

variable {table : Table Row key} {condition : Row → Bool} {order : Row → Row → Bool} {limit : Nat}

theorem keys_sorted_nodup (table : Table Row key) (condition : Row → Bool)
    (order : Row → Row → Bool)
    : (((table.rows.filter condition).insertionSort (order · ·)).map key).Nodup :=
  (((List.perm_insertionSort (order · ·) _).map key).nodup_iff).mpr
    ((List.filter_sublist.map key).nodup table.keysNodup)

theorem length_pick
    : (table.pick condition order limit).length = min limit (table.rows.countP condition) := by
  rw [pick, List.length_map, List.length_take, List.length_insertionSort,
    List.countP_eq_length_filter]

/-- A limit with room for all rows that meet the condition picks each of them. -/
theorem mem_pick_of_room {row : Row} (stored : row ∈ table.rows) (met : condition row = true)
    (room : table.rows.countP condition ≤ limit)
    : key row ∈ table.pick condition order limit := by
  have all
      : ((table.rows.filter condition).insertionSort (order · ·)).length ≤ limit := by
    rw [List.length_insertionSort, ← List.countP_eq_length_filter]
    exact room
  unfold pick
  rw [List.take_of_length_le all]
  apply List.mem_map_of_mem
  exact (List.perm_insertionSort (order · ·) _).mem_iff.mpr (List.mem_filter.mpr ⟨stored, met⟩)

/-- No more rows than keys are stored under these keys. -/
theorem countP_mem_le [DecidableEq Key] (table : Table Row key) (keys : List Key)
    : table.rows.countP (fun row => decide (key row ∈ keys)) ≤ keys.length := by
  rw [List.countP_eq_length_filter, ← List.length_map key]
  have distinct : ((table.rows.filter fun row => decide (key row ∈ keys)).map key).Nodup :=
    (List.filter_sublist.map key).nodup table.keysNodup
  refine (List.subperm_of_subset distinct fun wanted member => ?_).length_le
  obtain ⟨row, isRow, rfl⟩ := List.mem_map.mp member
  exact of_decide_eq_true (List.mem_filter.mp isRow).2

/-- The rows that meet the condition and are not picked are those after the first `limit`. -/
theorem countP_unpicked [DecidableEq Key] (table : Table Row key) (condition : Row → Bool)
    (order : Row → Row → Bool) (limit : Nat)
    : table.rows.countP (fun row =>
        decide (key row ∉ table.pick condition order limit) && condition row)
      = table.rows.countP condition - limit := by
  have distinct := keys_sorted_nodup table condition order
  have all
      : table.rows.countP condition
        = ((table.rows.filter condition).insertionSort (order · ·)).length := by
    rw [List.length_insertionSort, List.countP_eq_length_filter]
  rw [← List.countP_filter, all,
    ← (List.perm_insertionSort (order · ·) (table.rows.filter condition)).countP_eq]
  unfold pick
  generalize (table.rows.filter condition).insertionSort (order · ·) = sorted at distinct ⊢
  rw [← List.take_append_drop limit sorted, List.map_append] at distinct
  have apart := List.disjoint_of_nodup_append distinct
  have taken
      : (sorted.take limit).countP (fun row => decide (key row ∉ (sorted.take limit).map key))
        = 0 :=
    List.countP_eq_zero.mpr fun row member isOut =>
      of_decide_eq_true isOut (List.mem_map_of_mem member)
  have dropped
      : (sorted.drop limit).countP (fun row => decide (key row ∉ (sorted.take limit).map key))
        = (sorted.drop limit).length :=
    List.countP_eq_length.mpr fun row member =>
      decide_eq_true fun isIn => apart isIn (List.mem_map_of_mem member)
  calc sorted.countP (fun row => decide (key row ∉ (sorted.take limit).map key))
      = (sorted.take limit ++ sorted.drop limit).countP
          (fun row => decide (key row ∉ (sorted.take limit).map key)) := by
        rw [List.take_append_drop]
    _ = sorted.length - limit := by
        rw [List.countP_append, taken, dropped, List.length_drop, Nat.zero_add]

/-- A row that comes before a picked one is picked too. -/
theorem mem_pick_of_before (total : ∀ first second, order first second ∨ order second first)
    (transitive
      : ∀ first second third, order first second → order second third → order first third)
    (antisymmetric
      : ∀ first second, order first second → order second first → key first = key second)
    {row before : Row} (stored : row ∈ table.rows)
    (picked : key row ∈ table.pick condition order limit) (earlier : before ∈ table.rows)
    (met : condition before = true) (isBefore : order before row = true)
    : key before ∈ table.pick condition order limit := by
  have ofTotal : Std.Total fun first second => order first second = true := ⟨total⟩
  have ofTrans : IsTrans Row fun first second => order first second = true := ⟨transitive⟩
  have sorted := List.pairwise_insertionSort (fun first second => order first second = true)
    (table.rows.filter condition)
  obtain ⟨other, taken, same⟩ := List.mem_map.mp picked
  have isStored := (List.perm_insertionSort (order · ·) _).mem_iff.mp (List.mem_of_mem_take taken)
  obtain rfl := eq_of_key_eq (List.mem_filter.mp isStored).1 stored same
  have isSorted
      : before ∈ (table.rows.filter condition).insertionSort (order · ·) :=
    (List.perm_insertionSort (order · ·) _).mem_iff.mpr (List.mem_filter.mpr ⟨earlier, met⟩)
  rw [← List.take_append_drop limit ((table.rows.filter condition).insertionSort _)]
    at isSorted sorted
  rcases List.mem_append.mp isSorted with first | later
  · exact List.mem_map_of_mem first
  · have after := (List.pairwise_append.mp sorted).2.2 other taken before later
    rw [antisymmetric before other isBefore after]
    exact picked

end Picked

end Table

/-- A table keyed by a serial column: every key in use is below the next one issued. -/
structure SerialTable (Row : Type u) (key : Row → Int) extends Table Row key where
  nextId : Int
  belowNext : ∀ row ∈ rows, key row < nextId

namespace SerialTable

variable {Row : Type u} {key : Row → Int}

/-- The table without rows, issuing keys from one. -/
def empty : SerialTable Row key where
  toTable := .empty
  nextId := 1
  belowNext := by simp [Table.empty]

/-- `UPDATE` on a serial table; it issues no key. -/
def update (table : SerialTable Row key) (condition : Row → Bool) (set : Row → Row)
    (keeps : ∀ row, condition row = true → key (set row) = key row := by intros; rfl)
    : SerialTable Row key where
  toTable := table.toTable.update condition set keeps
  nextId := table.nextId
  belowNext := by
    intro row member
    obtain ⟨stored, hs, rfl⟩ := List.mem_map.mp member
    by_cases met : condition stored = true
    · rw [if_pos met, keeps stored met]
      exact table.belowNext stored hs
    · rw [if_neg met]
      exact table.belowNext stored hs

/-- The next key is not in use. -/
theorem nextId_unused (table : SerialTable Row key) : table.nextId ∉ table.rows.map key := by
  intro member
  obtain ⟨row, stored, same⟩ := List.mem_map.mp member
  exact absurd same (ne_of_lt (table.belowNext row stored))

/-- `INSERT` of the row built from the next key. -/
def insert (table : SerialTable Row key) (make : Int → Row)
    (keyed : ∀ id, key (make id) = id := by intros; rfl)
    : SerialTable Row key where
  toTable :=
    table.toTable.append (make table.nextId) ((keyed _).symm ▸ table.nextId_unused)
  nextId := table.nextId + 1
  belowNext := by
    intro row member
    rcases List.mem_append.mp member with stored | new
    · exact lt_trans (table.belowNext row stored) (Int.lt_succ _)
    · rw [List.mem_singleton.mp new, keyed]
      exact Int.lt_succ _

/-- `DELETE` on a serial table; the deleted keys are not issued again. -/
def delete (table : SerialTable Row key) (condition : Row → Bool) : SerialTable Row key where
  toTable := table.toTable.select fun row => !condition row
  nextId := table.nextId
  belowNext := fun row member => table.belowNext row (List.mem_filter.mp member).1

@[simp] theorem rows_update (table : SerialTable Row key) (condition : Row → Bool)
    (set : Row → Row) (keeps : ∀ row, condition row = true → key (set row) = key row)
    : (table.update condition set keeps).rows
      = table.rows.map fun row => if condition row then set row else row :=
  rfl

@[simp] theorem rows_insert (table : SerialTable Row key) (make : Int → Row)
    (keyed : ∀ id, key (make id) = id)
    : (table.insert make keyed).rows = table.rows ++ [make table.nextId] :=
  rfl

@[simp] theorem rows_delete (table : SerialTable Row key) (condition : Row → Bool)
    : (table.delete condition).rows = table.rows.filter fun row => !condition row :=
  rfl

/-- An update that matches no row changes nothing. -/
theorem update_of_unmatched {table : SerialTable Row key} {condition : Row → Bool}
    {set : Row → Row} {keeps : ∀ row, condition row = true → key (set row) = key row}
    (unmatched : ∀ row ∈ table.rows, ¬condition row = true)
    : table.update condition set keeps = table := by
  have same : table.rows.map (fun row => if condition row then set row else row) = table.rows :=
    (List.map_congr_left fun row stored => if_neg (unmatched row stored)).trans
      (List.map_id' table.rows)
  obtain ⟨⟨rows, _⟩, _, _⟩ := table
  simp only at same
  simp only [update, Table.update, same]

/-- An update acts on the row found under a key. -/
theorem find?_update (table : SerialTable Row key) (condition : Row → Bool) (set : Row → Row)
    (keeps : ∀ row, condition row = true → key (set row) = key row) (wanted : Int)
    : (table.update condition set keeps).find? wanted
      = (table.find? wanted).map fun row => if condition row then set row else row :=
  Table.find?_update table.toTable condition set keeps wanted

/-- A found row that meets the condition is set. -/
theorem find?_update_of_matched {table : SerialTable Row key} {condition : Row → Bool}
    {set : Row → Row} {keeps : ∀ row, condition row = true → key (set row) = key row}
    {wanted : Int} {row : Row} (found : table.find? wanted = some row)
    (matched : condition row = true)
    : (table.update condition set keeps).find? wanted = some (set row) := by
  rw [find?_update, found, Option.map_some, if_pos matched]

/-- A key under which no row meets the condition finds what it found before. -/
theorem find?_update_of_unmatched {table : SerialTable Row key} {condition : Row → Bool}
    {set : Row → Row} {keeps : ∀ row, condition row = true → key (set row) = key row}
    {wanted : Int}
    (unmatched : ∀ row, table.find? wanted = some row → ¬condition row = true)
    : (table.update condition set keeps).find? wanted = table.find? wanted := by
  rw [find?_update]
  cases found : table.find? wanted with
  | none => rfl
  | some row => rw [Option.map_some, if_neg (unmatched row found)]

/-- An inserted row is found under the key it was issued, the others as before. -/
theorem find?_insert (table : SerialTable Row key) (make : Int → Row)
    (keyed : ∀ id, key (make id) = id) (wanted : Int)
    : (table.insert make keyed).find? wanted
      = if wanted = table.nextId then some (make table.nextId) else table.find? wanted := by
  have found := Table.find?_append table.toTable (make table.nextId)
    ((keyed _).symm ▸ table.nextId_unused) wanted
  exact found.trans (by rw [keyed])

/-- The row inserted is found under the key it was issued. -/
theorem find?_insert_nextId (table : SerialTable Row key) (make : Int → Row)
    (keyed : ∀ id, key (make id) = id)
    : (table.insert make keyed).find? table.nextId = some (make table.nextId) := by
  rw [find?_insert, if_pos rfl]

theorem rows_insert_ne (table : SerialTable Row key) (make : Int → Row)
    (keyed : ∀ id, key (make id) = id)
    : (table.insert make keyed).rows ≠ table.rows := by
  rw [rows_insert]
  exact fun same => List.cons_ne_nil _ _ (List.append_right_eq_self.mp same)

/-- Claiming picked rows: an update of the rows under the given keys, read back under the same
keys. A row is either passed over, or it met the condition and is set and read back.
-/
theorem update_select_cases (table : SerialTable Row key) {condition : Row → Bool}
    (set : Row → Row) {keys : List Int}
    (picked : ∀ wanted ∈ keys, ∃ row ∈ table.rows, condition row = true ∧ key row = wanted)
    (keeps : ∀ row, key (set row) = key row) (wanted : Int)
    : let updated := table.update (fun row => key row ∈ keys) set fun row _ => keeps row
      let claimed := updated.select fun row => key row ∈ keys
      (updated.find? wanted = table.find? wanted ∧ claimed.find? wanted = none)
      ∨ ∃ row,
          table.find? wanted = some row
          ∧ condition row = true
          ∧ updated.find? wanted = some (set row)
          ∧ claimed.find? wanted = some (set row) := by
  intro updated claimed
  have after : updated.find? wanted = _ := find?_update table _ set _ wanted
  have read : claimed.find? wanted = _ := Table.find?_select updated.toTable _ wanted
  cases found : table.find? wanted with
  | none =>
      rw [found] at after
      rw [after] at read
      exact .inl ⟨after, read⟩
  | some row =>
      obtain ⟨stored, same⟩ := Table.mem_of_find? found
      rw [found, Option.map_some] at after
      by_cases member : key row ∈ keys
      · obtain ⟨other, otherStored, met, otherKey⟩ := picked (key row) member
        have one : other = row := Table.eq_of_key_eq otherStored stored otherKey
        rw [if_pos (decide_eq_true member)] at after
        rw [after, Option.filter_some, keeps row, if_pos (decide_eq_true member)] at read
        exact .inr ⟨row, rfl, one ▸ met, after, read⟩
      · rw [if_neg (by simpa using member)] at after
        rw [after, Option.filter_some, if_neg (by simpa using member)] at read
        exact .inl ⟨after, read⟩

/-- A row under a picked key is set and read back. -/
theorem find?_select_update {table : SerialTable Row key} (set : Row → Row) {keys : List Int}
    {wanted : Int} {row : Row} (keeps : ∀ row, key (set row) = key row)
    (picked : wanted ∈ keys) (found : table.find? wanted = some row)
    : ((table.update (fun row => key row ∈ keys) set fun row _ => keeps row).select
        fun row => key row ∈ keys).find? wanted
      = some (set row) := by
  have same : key row = wanted := (Table.mem_of_find? found).2
  have member : key row ∈ keys := same.symm ▸ picked
  have updated
      : (table.update (fun row => key row ∈ keys) set fun row _ => keeps row).find? wanted
        = some (set row) :=
    find?_update_of_matched found (decide_eq_true member)
  rw [Table.find?_select]
  exact Option.filter_eq_some_iff.mpr ⟨updated, by simpa [keeps row] using member⟩

/-- The next key finds no row. -/
theorem find?_nextId (table : SerialTable Row key) : table.find? table.nextId = none :=
  Table.find?_eq_none.mpr fun row stored => ne_of_lt (table.belowNext row stored)

/-- Setting the row under a key changes a count by what that row counts. -/
theorem countP_update {table : SerialTable Row key} {wanted : Int} {row : Row}
    (found : table.find? wanted = some row) (set : Row → Row)
    (keeps : ∀ row, decide (key row = wanted) = true → key (set row) = key row)
    (counts : Row → Bool)
    : (table.update (fun row => key row = wanted) set keeps).rows.countP counts
        + (if counts row then 1 else 0)
      = table.rows.countP counts + if counts (set row) then 1 else 0 := by
  obtain ⟨before, after, rows, others⟩ := Table.around_of_find? found
  have isKey : key row = wanted := (Table.mem_of_find? found).2
  have unchanged (part : List Row) (subset : part ⊆ before ++ after)
      : part.map (fun row => if decide (key row = wanted) then set row else row) = part := by
    refine (List.map_congr_left fun other member => if_neg ?_).trans (List.map_id' part)
    simpa using others other (subset member)
  rw [rows_update, rows, List.map_append, List.map_cons,
    unchanged before (List.subset_append_left _ _), unchanged after (List.subset_append_right _ _),
    if_pos (decide_eq_true isKey)]
  simp only [List.countP_append, List.countP_cons]
  omega

/-- Deleting the row under a key lowers a count by what that row counts. -/
theorem countP_delete {table : SerialTable Row key} {wanted : Int} {row : Row}
    (found : table.find? wanted = some row) (counts : Row → Bool)
    : (table.delete fun row => key row = wanted).rows.countP counts
        + (if counts row then 1 else 0)
      = table.rows.countP counts := by
  obtain ⟨before, after, rows, others⟩ := Table.around_of_find? found
  have isKey : key row = wanted := (Table.mem_of_find? found).2
  have kept (part : List Row) (subset : part ⊆ before ++ after)
      : part.filter (fun row => !decide (key row = wanted)) = part := by
    refine List.filter_eq_self.mpr fun other member => ?_
    simpa using others other (subset member)
  rw [rows_delete, rows, List.filter_append, List.filter_cons,
    kept before (List.subset_append_left _ _), kept after (List.subset_append_right _ _)]
  simp only [isKey, decide_true, Bool.not_true, Bool.false_eq_true, if_false,
    List.countP_append, List.countP_cons]
  omega

/-- A key that was issued and is no longer in use. -/
structure Retired (table : SerialTable Row key) (wanted : Int) : Prop where
  unused : ∀ row ∈ table.rows, key row ≠ wanted
  issued : wanted < table.nextId

theorem Retired.find? {table : SerialTable Row key} {wanted : Int}
    (retired : table.Retired wanted)
    : table.find? wanted = none :=
  Table.find?_eq_none.mpr retired.unused

/-- Deleting the row under a key retires the key. -/
theorem retired_delete {table : SerialTable Row key} {wanted : Int} {row : Row}
    (found : table.find? wanted = some row)
    : (table.delete fun stored => key stored = wanted).Retired wanted := by
  obtain ⟨stored, isKey⟩ := Table.mem_of_find? found
  refine ⟨fun other left => ?_, isKey ▸ table.belowNext row stored⟩
  simpa using (List.mem_filter.mp left).2

/-- A retired key is not issued again. -/
theorem Retired.append {table after : SerialTable Row key} {wanted : Int} {new : Row}
    (retired : table.Retired wanted) (rows : after.rows = table.rows ++ [new])
    (isKey : key new = table.nextId) (nextId : after.nextId = table.nextId + 1)
    : after.Retired wanted := by
  refine ⟨fun row member => ?_, nextId ▸ retired.issued.trans (Int.lt_succ _)⟩
  rw [rows] at member
  rcases List.mem_append.mp member with stored | isNew
  · exact retired.unused row stored
  · rw [List.mem_singleton.mp isNew, isKey]
    exact (ne_of_lt retired.issued).symm

theorem Retired.update {table : SerialTable Row key} {wanted : Int}
    (retired : table.Retired wanted) (condition : Row → Bool) (set : Row → Row)
    (keeps : ∀ row, condition row = true → key (set row) = key row)
    : (table.update condition set keeps).Retired wanted := by
  refine ⟨fun row member => ?_, retired.issued⟩
  obtain ⟨stored, isStored, rfl⟩ := List.mem_map.mp member
  by_cases met : condition stored = true
  · rw [if_pos met, keeps stored met]
    exact retired.unused stored isStored
  · rw [if_neg met]
    exact retired.unused stored isStored

theorem Retired.delete {table : SerialTable Row key} {wanted : Int}
    (retired : table.Retired wanted) (condition : Row → Bool)
    : (table.delete condition).Retired wanted :=
  ⟨fun row left => retired.unused row (List.mem_filter.mp left).1, retired.issued⟩

end SerialTable

end KeyedTable
