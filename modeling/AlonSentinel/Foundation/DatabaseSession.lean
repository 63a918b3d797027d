import Mathlib.Data.List.Basic
import AlonSentinel.Foundation.Fallible

/-! Programs that execute statements against a database, any of which may fail for a reason outside
the program. A statement outside a transaction is committed by itself; a transaction is committed
by its last statement, and undone by whatever fails before. A program that is interrupted between
two statements does what it does when the second one fails.
-/

namespace DatabaseSession

/-- What a program leaves behind, and the number of the next statement. -/
@[ext]
structure Ran (Db Error Result : Type) where
  result : Except Error Result
  next : Nat
  db : Db

/-- A program on a database. Its statements are numbered from an index on, and `faults` tells which
numbers fail.
-/
structure Session (Fault Db Error Result : Type) where
  run : (faults : Nat → Option Fault) → (index : Nat) → Db → Ran Db Error Result

namespace Session

variable {Fault Db Error Value Result : Type}

instance : Monad (Session Fault Db Error) where
  pure value := ⟨fun _ index db => ⟨.ok value, index, db⟩⟩
  bind first next :=
    { run := fun faults index db =>
        match first.run faults index db with
        | ⟨.ok value, mid, after⟩ => (next value).run faults mid after
        | ⟨.error error, mid, after⟩ => ⟨.error error, mid, after⟩ }

/-- A computation without statements. -/
def ofExcept (computed : Except Error Result) : Session Fault Db Error Result where
  run _ index db := ⟨computed, index, db⟩

/-- The session with its errors in another type. -/
def mapError {OtherError : Type} (convert : Error → OtherError)
    (session : Session Fault Db Error Result)
    : Session Fault Db OtherError Result where
  run faults index db :=
    let ran := session.run faults index db
    ⟨ran.result.mapError convert, ran.next, ran.db⟩

/-- One statement; it changes nothing if it fails. -/
def statement (execute : Db → Except Fault (Result × Db)) : Session Fault Db Fault Result where
  run faults index db :=
    match faults index with
    | some fault => ⟨.error fault, index + 1, db⟩
    | none =>
        match execute db with
        | .ok (result, after) => ⟨.ok result, index + 1, after⟩
        | .error fault => ⟨.error fault, index + 1, db⟩

/-- A statement that reads. -/
def query (read : Db → Result) : Session Fault Db Fault Result :=
  statement fun db => .ok (read db, db)

/-- A statement for each item of a list, up to the first that fails. -/
def executeAll {Item : Type} (execute : Item → Db → Except Fault Db)
    : List Item → Session Fault Db Fault Unit
  | [] => pure ()
  | item :: rest => do
      statement fun db => (execute item db).map fun after => ((), after)
      executeAll execute rest

/-- Begins a transaction, runs a session in it, and commits. -/
def transaction (body : Session Fault Db Fault Result) : Session Fault Db Fault Result where
  run faults index db :=
    match faults index with
    | some fault => ⟨.error fault, index + 1, db⟩
    | none =>
        match body.run faults (index + 1) db with
        | ⟨.error error, mid, _⟩ => ⟨.error error, mid, db⟩
        | ⟨.ok result, mid, after⟩ =>
            match faults mid with
            | some fault => ⟨.error fault, mid + 1, db⟩
            | none => ⟨.ok result, mid + 1, after⟩

/-- Begins a transaction, runs a session with errors of its own in it, and commits. -/
def transactionWith (convert : Fault → Error) (body : Session Fault Db Error Result)
    : Session Fault Db Error Result where
  run faults index db :=
    match faults index with
    | some fault => ⟨.error (convert fault), index + 1, db⟩
    | none =>
        match body.run faults (index + 1) db with
        | ⟨.error error, mid, _⟩ => ⟨.error error, mid, db⟩
        | ⟨.ok result, mid, after⟩ =>
            match faults mid with
            | some fault => ⟨.error (convert fault), mid + 1, db⟩
            | none => ⟨.ok result, mid + 1, after⟩

/-- A change of the program's own memory, which is no statement. -/
def act (change : Db → Db) : Session Fault Db Error Unit where
  run _ index db := ⟨.ok (), index, change db⟩

/-- A session on a part of a larger state. -/
def within {Whole : Type} (part : Whole → Db) (put : Db → Whole → Whole)
    (session : Session Fault Db Error Result)
    : Session Fault Whole Error Result where
  run faults index whole :=
    let ran := session.run faults index (part whole)
    ⟨ran.result, ran.next, put ran.db whole⟩

/-- No statement fails for an outside reason, for a number of statements from an index on. -/
def NoFaults (faults : Nat → Option Fault) (index count : Nat) : Prop :=
  ∀ offset < count, faults (index + offset) = none

theorem noFaults_zero {faults : Nat → Option Fault} {index : Nat} : NoFaults faults index 0 :=
  fun _ below => absurd below (Nat.not_lt_zero _)

theorem noFaults_succ {faults : Nat → Option Fault} {index count : Nat}
    : NoFaults faults index (count + 1)
      ↔ faults index = none ∧ NoFaults faults (index + 1) count := by
  constructor
  · intro none
    refine ⟨none 0 (Nat.succ_pos _), fun offset below => ?_⟩
    have later := none (offset + 1) (Nat.succ_lt_succ below)
    rwa [Nat.add_comm offset 1, ← Nat.add_assoc] at later
  · rintro ⟨first, later⟩ offset below
    cases offset with
    | zero => exact first
    | succ offset =>
        rw [← Nat.add_assoc, Nat.add_right_comm]
        exact later offset (Nat.lt_of_succ_lt_succ below)

theorem noFaults_add {faults : Nat → Option Fault} {index count more : Nat}
    : NoFaults faults index (count + more)
      ↔ NoFaults faults index count ∧ NoFaults faults (index + count) more := by
  induction count generalizing index with
  | zero => simp [noFaults_zero]
  | succ count ih =>
      rw [Nat.add_right_comm, noFaults_succ, noFaults_succ, ih, and_assoc, Nat.add_right_comm,
        Nat.add_assoc]

theorem noFaults_succ_last {faults : Nat → Option Fault} {index count : Nat}
    : NoFaults faults index (count + 1)
      ↔ NoFaults faults index count ∧ faults (index + count) = none := by
  rw [noFaults_add, noFaults_succ, and_iff_left noFaults_zero]

------------------------------------------------------------
-- Successful runs
------------------------------------------------------------

variable {faults : Nat → Option Fault} {index next : Nat} {db after : Db} {result : Result}

theorem run_pure {value : Result}
    : (pure value : Session Fault Db Error Result).run faults index db = ⟨.ok value, index, db⟩ :=
  rfl

theorem run_bind {first : Session Fault Db Error Value}
    {later : Value → Session Fault Db Error Result}
    : (first >>= later).run faults index db
      = match first.run faults index db with
        | ⟨.ok value, mid, after⟩ => (later value).run faults mid after
        | ⟨.error error, mid, after⟩ => ⟨.error error, mid, after⟩ :=
  rfl

theorem run_mapError {OtherError : Type} {convert : Error → OtherError}
    {session : Session Fault Db Error Result}
    : (session.mapError convert).run faults index db
      = ⟨(session.run faults index db).result.mapError convert,
          (session.run faults index db).next, (session.run faults index db).db⟩ :=
  rfl

theorem run_statement {execute : Db → Except Fault (Result × Db)}
    : (statement execute).run faults index db
      = match faults index with
        | some fault => ⟨.error fault, index + 1, db⟩
        | none =>
            match execute db with
            | .ok (result, after) => ⟨.ok result, index + 1, after⟩
            | .error fault => ⟨.error fault, index + 1, db⟩ :=
  rfl

theorem run_transaction {body : Session Fault Db Fault Result}
    : (transaction body).run faults index db
      = match faults index with
        | some fault => ⟨.error fault, index + 1, db⟩
        | none =>
            match body.run faults (index + 1) db with
            | ⟨.error error, mid, _⟩ => ⟨.error error, mid, db⟩
            | ⟨.ok result, mid, after⟩ =>
                match faults mid with
                | some fault => ⟨.error fault, mid + 1, db⟩
                | none => ⟨.ok result, mid + 1, after⟩ :=
  rfl

theorem run_transactionWith {convert : Fault → Error} {body : Session Fault Db Error Result}
    : (transactionWith convert body).run faults index db
      = match faults index with
        | some fault => ⟨.error (convert fault), index + 1, db⟩
        | none =>
            match body.run faults (index + 1) db with
            | ⟨.error error, mid, _⟩ => ⟨.error error, mid, db⟩
            | ⟨.ok result, mid, after⟩ =>
                match faults mid with
                | some fault => ⟨.error (convert fault), mid + 1, db⟩
                | none => ⟨.ok result, mid + 1, after⟩ :=
  rfl

theorem transactionWith_self {body : Session Fault Db Fault Result}
    : transactionWith (fun fault => fault) body = transaction body := by
  refine congrArg Session.mk ?_
  funext faults index db
  cases faults index with
  | some fault => rfl
  | none =>
      rcases body.run faults (index + 1) db with ⟨error | result, mid, after⟩
      · rfl
      · cases faults mid <;> rfl

theorem pure_eq_ok {value : Result}
    : (pure value : Session Fault Db Error Result).run faults index db = ⟨.ok result, next, after⟩
      ↔ value = result ∧ index = next ∧ db = after := by
  simp [run_pure]

theorem bind_eq_ok {first : Session Fault Db Error Value}
    {later : Value → Session Fault Db Error Result}
    : (first >>= later).run faults index db = ⟨.ok result, next, after⟩
      ↔ ∃ value mid inner,
          first.run faults index db = ⟨.ok value, mid, inner⟩
          ∧ (later value).run faults mid inner = ⟨.ok result, next, after⟩ := by
  rw [run_bind]
  rcases first.run faults index db with ⟨error | value, mid, inner⟩
  · simp
  · simp

theorem ofExcept_eq_ok {computed : Except Error Result}
    : (ofExcept computed : Session Fault Db Error Result).run faults index db
        = ⟨.ok result, next, after⟩
      ↔ computed = .ok result ∧ index = next ∧ db = after := by
  change Ran.mk _ _ _ = _ ↔ _
  simp

theorem mapError_eq_ok {OtherError : Type} {convert : Error → OtherError}
    {session : Session Fault Db Error Result}
    : (session.mapError convert).run faults index db = ⟨.ok result, next, after⟩
      ↔ session.run faults index db = ⟨.ok result, next, after⟩ := by
  rw [run_mapError]
  rcases session.run faults index db with ⟨error | value, mid, inner⟩
  · simp [Except.mapError]
  · simp [Except.mapError]

theorem statement_eq_ok {execute : Db → Except Fault (Result × Db)}
    : (statement execute).run faults index db = ⟨.ok result, next, after⟩
      ↔ faults index = none ∧ execute db = .ok (result, after) ∧ index + 1 = next := by
  rw [run_statement]
  cases faults index with
  | some fault => simp
  | none =>
      rcases execute db with fault | ⟨value, changed⟩
      · simp
      · simp only [Ran.mk.injEq, Except.ok.injEq, Prod.mk.injEq, true_and]
        rw [and_assoc, and_comm (a := index + 1 = next)]

theorem query_eq_ok {read : Db → Result}
    : (query read).run faults index db = ⟨.ok result, next, after⟩
      ↔ faults index = none ∧ (read db = result ∧ db = after) ∧ index + 1 = next := by
  simp [query, statement_eq_ok]

theorem transaction_eq_ok {body : Session Fault Db Fault Result}
    : (transaction body).run faults index db = ⟨.ok result, next, after⟩
      ↔ faults index = none
        ∧ ∃ mid,
            body.run faults (index + 1) db = ⟨.ok result, mid, after⟩
            ∧ faults mid = none
            ∧ mid + 1 = next := by
  rw [run_transaction]
  cases faults index with
  | some fault => simp
  | none =>
      rcases body.run faults (index + 1) db with ⟨error | value, mid, inner⟩
      · simp
      · simp only [true_and]
        cases committed : faults mid with
        | some fault =>
            simp only [Ran.mk.injEq, reduceCtorEq, false_and, false_iff]
            rintro ⟨_, ⟨⟨_, rfl, _⟩, unfaulted, _⟩⟩
            simp [committed] at unfaulted
        | none =>
            simp only [Ran.mk.injEq]
            constructor
            · rintro ⟨same, isNext, isAfter⟩
              exact ⟨mid, ⟨same, rfl, isAfter⟩, committed, isNext⟩
            · rintro ⟨_, ⟨same, rfl, isAfter⟩, _, isNext⟩
              exact ⟨same, isNext, isAfter⟩

/-- All items are executed if no statement fails, by induction over the items. -/
theorem executeAll_eq_ok {Item : Type} {execute : Item → Db → Except Fault Db}
    {items : List Item} {result : Unit}
    : (executeAll execute items).run faults index db = ⟨.ok result, next, after⟩
      ↔ NoFaults faults index items.length
        ∧ items.foldlM (fun db item => execute item db) db = .ok after
        ∧ index + items.length = next := by
  induction items generalizing index db with
  | nil =>
      rw [executeAll, pure_eq_ok]
      simp [noFaults_zero, pure, Except.pure, and_comm]
  | cons item rest ih =>
      simp only [executeAll, bind_eq_ok, statement_eq_ok, Fallible.map_eq_ok, ih, Prod.mk.injEq,
        true_and, List.foldlM_cons, Fallible.bind_eq_ok, List.length_cons, noFaults_succ]
      constructor
      · rintro ⟨_, _, _, ⟨unfaulted, ⟨inner, executed, rfl⟩, rfl⟩, later, folded, rfl⟩
        exact ⟨⟨unfaulted, later⟩, ⟨inner, executed, folded⟩, by omega⟩
      · rintro ⟨⟨unfaulted, later⟩, ⟨inner, executed, folded⟩, rfl⟩
        exact ⟨(), _, inner, ⟨unfaulted, ⟨inner, executed, rfl⟩, rfl⟩, later, folded, by omega⟩

/-- A transaction of one statement and then one for each item of a list. -/
theorem transaction_executeAll_eq_ok {Item : Type} {clear : Db → Db}
    {execute : Item → Db → Except Fault Db} {items : List Item} {result : Unit}
    : (transaction do
          statement fun db => .ok ((), clear db)
          executeAll execute items).run faults index db
        = ⟨.ok result, next, after⟩
      ↔ NoFaults faults index (items.length + 3)
        ∧ items.foldlM (fun db item => execute item db) (clear db) = .ok after
        ∧ index + items.length + 3 = next := by
  simp only [transaction_eq_ok, bind_eq_ok, statement_eq_ok, executeAll_eq_ok]
  have faultless
      : NoFaults faults index (items.length + 3)
        ↔ faults index = none ∧ faults (index + 1) = none
          ∧ NoFaults faults (index + 1 + 1) items.length
          ∧ faults (index + 1 + 1 + items.length) = none := by
    rw [noFaults_succ, noFaults_succ, noFaults_add, noFaults_succ]
    simp [noFaults_zero]
  rw [faultless]
  constructor
  · rintro ⟨begun, _, ⟨_, _, _, ⟨cleared, ⟨⟩, rfl⟩, all, folded, rfl⟩, committed, rfl⟩
    exact ⟨⟨begun, cleared, all, committed⟩, folded, by omega⟩
  · rintro ⟨⟨begun, cleared, all, committed⟩, folded, rfl⟩
    exact ⟨begun, _, ⟨(), _, _, ⟨cleared, rfl, rfl⟩, all, folded, rfl⟩, committed, by omega⟩

------------------------------------------------------------
-- All or nothing
------------------------------------------------------------

/-- Whenever a program fails, a property of the database holds behind it. -/
def FailsWith (ran : Ran Db Error Result) (property : Db → Prop) : Prop :=
  ∀ error, ran.result = .error error → property ran.db

/-- A session that changes nothing if it fails. -/
def AllOrNothing (session : Session Fault Db Error Result) : Prop :=
  ∀ faults index db, FailsWith (session.run faults index db) (· = db)

/-- A session that never changes anything. -/
def ReadOnly (session : Session Fault Db Error Result) : Prop :=
  ∀ faults index db, (session.run faults index db).db = db

theorem ReadOnly.allOrNothing {session : Session Fault Db Error Result}
    (readOnly : session.ReadOnly)
    : session.AllOrNothing :=
  fun faults index db _ _ => readOnly faults index db

theorem readOnly_ofExcept (computed : Except Error Result)
    : (ofExcept computed : Session Fault Db Error Result).ReadOnly := fun _ _ _ => rfl

theorem readOnly_pure (value : Result)
    : (pure value : Session Fault Db Error Result).ReadOnly := fun _ _ _ => rfl

theorem readOnly_query (read : Db → Result) : (query read : Session Fault Db Fault _).ReadOnly := by
  intro faults index db
  rw [query, run_statement]
  cases faults index <;> rfl

theorem ReadOnly.mapError {OtherError : Type} {convert : Error → OtherError}
    {session : Session Fault Db Error Result} (readOnly : session.ReadOnly)
    : (session.mapError convert).ReadOnly :=
  fun faults index db => readOnly faults index db

theorem ReadOnly.bind {first : Session Fault Db Error Value}
    {later : Value → Session Fault Db Error Result} (readOnly : first.ReadOnly)
    (laterReadOnly : ∀ value, (later value).ReadOnly)
    : (first >>= later).ReadOnly := by
  intro faults index db
  have keeps := readOnly faults index db
  rw [run_bind]
  rcases ran : first.run faults index db with ⟨error | value, mid, inner⟩ <;> rw [ran] at keeps
  · exact keeps
  · exact (laterReadOnly value faults mid inner).trans keeps

/-- What only reads behind a session leaves what the session has left. -/
theorem db_bind_of_readOnly {first : Session Fault Db Error Value}
    {later : Value → Session Fault Db Error Result} (readOnly : ∀ value, (later value).ReadOnly)
    : ((first >>= later).run faults index db).db = (first.run faults index db).db := by
  rw [run_bind]
  rcases first.run faults index db with ⟨error | value, mid, inner⟩
  · rfl
  · exact readOnly value faults mid inner

theorem allOrNothing_statement (execute : Db → Except Fault (Result × Db))
    : (statement execute).AllOrNothing := by
  intro faults index db error failed
  rw [run_statement] at failed ⊢
  cases faulted : faults index with
  | some fault => rfl
  | none =>
      rcases executed : execute db with fault | ⟨value, changed⟩
      · rfl
      · simp [faulted, executed] at failed

theorem allOrNothing_transaction (body : Session Fault Db Fault Result)
    : (transaction body).AllOrNothing := by
  intro faults index db error failed
  rw [run_transaction] at failed ⊢
  cases faulted : faults index with
  | some fault => rfl
  | none =>
      rcases ran : body.run faults (index + 1) db with ⟨bodyError | value, mid, inner⟩
      · rfl
      · cases committed : faults mid with
        | some fault => simp only [committed]
        | none => simp [faulted, ran, committed] at failed

theorem AllOrNothing.mapError {OtherError : Type} {convert : Error → OtherError}
    {session : Session Fault Db Error Result} (allOrNothing : session.AllOrNothing)
    : (session.mapError convert).AllOrNothing := by
  intro faults index db error failed
  rw [run_mapError] at failed ⊢
  rcases ran : session.run faults index db with ⟨sessionError | value, mid, inner⟩
  · have keeps := allOrNothing faults index db sessionError
    rw [ran] at keeps
    exact keeps rfl
  · simp [ran, Except.mapError] at failed

/-- A failure of a sequence is one of its first part, or one behind it. -/
theorem failsWith_bind {first : Session Fault Db Error Value}
    {later : Value → Session Fault Db Error Result} {property : Db → Prop}
    : FailsWith ((first >>= later).run faults index db) property
      ↔ FailsWith (first.run faults index db) property
        ∧ ∀ value mid inner,
            first.run faults index db = ⟨.ok value, mid, inner⟩
            → FailsWith ((later value).run faults mid inner) property := by
  rw [run_bind]
  rcases first.run faults index db with ⟨error | value, mid, inner⟩
  · simp [FailsWith]
  · simp [FailsWith]

/-- A part that does nothing when it fails keeps whatever holds before it. -/
theorem AllOrNothing.failsWith {session : Session Fault Db Error Result} {property : Db → Prop}
    (allOrNothing : session.AllOrNothing) (holds : property db)
    : FailsWith (session.run faults index db) property :=
  fun error failed => (allOrNothing faults index db error failed).symm ▸ holds

theorem ReadOnly.bind_allOrNothing {first : Session Fault Db Error Value}
    {later : Value → Session Fault Db Error Result} (readOnly : first.ReadOnly)
    (allOrNothing : ∀ value, (later value).AllOrNothing)
    : (first >>= later).AllOrNothing := by
  intro faults index db error failed
  have keeps := readOnly faults index db
  rw [run_bind] at failed ⊢
  rcases ran : first.run faults index db with ⟨firstError | value, mid, inner⟩ <;>
    rw [ran] at keeps failed
  · exact keeps
  · exact (allOrNothing value faults mid inner error failed).trans keeps

/-- What holds behind each failure of the first part, and behind the second part whenever it runs,
holds behind both.
-/
theorem leaves_bind {first : Session Fault Db Error Value}
    {later : Value → Session Fault Db Error Result} (property : Db → Prop)
    (fails : FailsWith (first.run faults index db) property)
    (continues
      : ∀ value mid inner,
          first.run faults index db = ⟨.ok value, mid, inner⟩
          → property ((later value).run faults mid inner).db)
    : property ((first >>= later).run faults index db).db := by
  rw [run_bind]
  rcases ran : first.run faults index db with ⟨error | value, mid, inner⟩
  · rw [ran] at fails
    exact fails error rfl
  · exact continues value mid inner ran

/-- However far it gets, a list of statements stays within a relation that contains each of them,
by induction over the items.
-/
theorem executeAll_leaves {Item : Type} {execute : Item → Db → Except Fault Db}
    {items : List Item} {relation : Db → Db → Prop} (reflexive : ∀ db, relation db db)
    (transitive
      : ∀ first second third,
          relation first second → relation second third → relation first third)
    (executes : ∀ item db after, execute item db = .ok after → relation db after)
    : relation db ((executeAll execute items).run faults index db).db := by
  induction items generalizing index db with
  | nil => exact reflexive db
  | cons item rest ih =>
      apply leaves_bind (relation db)
      · exact (allOrNothing_statement _).failsWith (reflexive db)
      · intro _ mid inner ran
        obtain ⟨_, executed, _⟩ := statement_eq_ok.mp ran
        obtain ⟨after, isOk, same⟩ := Fallible.map_eq_ok.mp executed
        cases same
        exact transitive _ _ _ (executes item db inner isOk) ih

/-- Behind a part that does nothing when it fails, only what follows its success matters. -/
theorem AllOrNothing.failsWith_bind {first : Session Fault Db Error Value}
    {later : Value → Session Fault Db Error Result} {property : Db → Prop}
    (allOrNothing : first.AllOrNothing) (holds : property db)
    : FailsWith ((first >>= later).run faults index db) property
      ↔ ∀ value mid inner,
          first.run faults index db = ⟨.ok value, mid, inner⟩
          → FailsWith ((later value).run faults mid inner) property := by
  rw [Session.failsWith_bind]
  exact and_iff_right (allOrNothing.failsWith holds)

theorem failsWith_ofExcept_bind {computed : Except Error Value}
    {later : Value → Session Fault Db Error Result} {property : Db → Prop} (holds : property db)
    : FailsWith ((ofExcept computed >>= later).run faults index db) property
      ↔ ∀ value, computed = .ok value → FailsWith ((later value).run faults index db) property := by
  rw [(readOnly_ofExcept computed).allOrNothing.failsWith_bind holds]
  simp only [ofExcept_eq_ok]
  constructor
  · exact fun fails value isOk => fails value index db ⟨isOk, rfl, rfl⟩
  · rintro fails value _ _ ⟨isOk, rfl, rfl⟩
    exact fails value isOk

theorem failsWith_mapError {OtherError : Type} {convert : Error → OtherError}
    {session : Session Fault Db Error Result} {property : Db → Prop}
    : FailsWith ((session.mapError convert).run faults index db) property
      ↔ FailsWith (session.run faults index db) property := by
  rw [run_mapError]
  rcases session.run faults index db with ⟨error | value, mid, inner⟩
  · simp [FailsWith, Except.mapError]
  · simp [FailsWith, Except.mapError]

/-- A session behind whose failures a property is lost must not fail. -/
theorem failsWith_iff_succeeds {session : Session Fault Db Error Result} {property : Db → Prop}
    (lost : FailsWith (session.run faults index db) fun after => ¬property after)
    : FailsWith (session.run faults index db) property
      ↔ ∃ result next after, session.run faults index db = ⟨.ok result, next, after⟩ := by
  rcases ran : session.run faults index db with ⟨error | value, mid, inner⟩
  · rw [ran] at lost
    refine iff_of_false (fun fails => lost error rfl (fails error rfl)) ?_
    simp
  · exact iff_of_true (fun error failed => by cases failed) ⟨value, mid, inner, rfl⟩

/-- An answer put together from the result of a session adds no failure. -/
theorem failsWith_bind_pure {session : Session Fault Db Error Value} {answer : Value → Result}
    {property : Db → Prop}
    : FailsWith ((session >>= fun value => pure (answer value)).run faults index db) property
      ↔ FailsWith (session.run faults index db) property := by
  rw [failsWith_bind]
  exact and_iff_left fun _ _ _ _ _ failed => by cases failed

/-- A read behind which a property is lost must not fail. -/
theorem failsWith_query_iff {read : Db → Result} {property : Db → Prop} (lost : ¬property db)
    : FailsWith ((query read : Session Fault Db Fault _).run faults index db) property
      ↔ faults index = none := by
  rw [failsWith_iff_succeeds ((readOnly_query read).allOrNothing.failsWith lost)]
  simp only [query_eq_ok]
  constructor
  · rintro ⟨_, _, _, unfaulted, _⟩
    exact unfaulted
  · exact fun unfaulted => ⟨_, _, _, unfaulted, ⟨rfl, rfl⟩, rfl⟩

/-- Sequences run alike if their first parts do, and their later parts behind these. -/
theorem run_bind_congr {first other : Session Fault Db Error Value}
    {later otherLater : Value → Session Fault Db Error Result}
    (same : first.run faults index db = other.run faults index db)
    (sameLater
      : ∀ value mid inner,
          other.run faults index db = ⟨.ok value, mid, inner⟩
          → (later value).run faults mid inner = (otherLater value).run faults mid inner)
    : (first >>= later).run faults index db = (other >>= otherLater).run faults index db := by
  rw [run_bind, run_bind, same]
  rcases ran : other.run faults index db with ⟨error | value, mid, inner⟩
  · rfl
  · exact sameLater value mid inner ran

/-- A check before two sessions that run alike. -/
theorem run_ofExcept_bind_congr {computed : Except Error Value}
    {later otherLater : Value → Session Fault Db Error Result}
    (same : ∀ value, (later value).run faults index db = (otherLater value).run faults index db)
    : (ofExcept computed >>= later).run faults index db
      = (ofExcept computed >>= otherLater).run faults index db := by
  refine run_bind_congr rfl fun value mid inner ran => ?_
  obtain ⟨_, rfl, rfl⟩ := ofExcept_eq_ok.mp ran
  exact same value

theorem run_within {Whole : Type} {part : Whole → Db} {put : Db → Whole → Whole}
    {session : Session Fault Db Error Result} {whole : Whole}
    : (session.within part put).run faults index whole
      = ⟨(session.run faults index (part whole)).result,
          (session.run faults index (part whole)).next,
          put (session.run faults index (part whole)).db whole⟩ :=
  rfl

theorem within_eq_ok {Whole : Type} {part : Whole → Db} {put : Db → Whole → Whole}
    {session : Session Fault Db Error Result} {whole changed : Whole}
    : (session.within part put).run faults index whole = ⟨.ok result, next, changed⟩
      ↔ ∃ inner,
          session.run faults index (part whole) = ⟨.ok result, next, inner⟩
          ∧ put inner whole = changed := by
  rw [run_within]
  rcases session.run faults index (part whole) with ⟨error | value, mid, inner⟩
  · simp
  · simp [and_assoc]

------------------------------------------------------------
-- Runs without failures
------------------------------------------------------------

/-- As long as no statement fails for an outside reason, a session returns a result, and a property
of the result and of what it leaves behind holds.
-/
def Succeeds (session : Session Fault Db Error Result) (db : Db) (post : Result → Db → Prop)
    : Prop :=
  ∀ index, ∃ result next after,
    session.run (fun _ => none) index db = ⟨.ok result, next, after⟩ ∧ post result after

section Succeeds

variable {post : Result → Db → Prop}

theorem succeeds_pure {value : Result} (holds : post value db)
    : (pure value : Session Fault Db Error Result).Succeeds db post :=
  fun index => ⟨value, index, db, rfl, holds⟩

theorem succeeds_ofExcept {computed : Except Error Result} {value : Result}
    (isOk : computed = .ok value) (holds : post value db)
    : (ofExcept computed : Session Fault Db Error Result).Succeeds db post :=
  fun index => ⟨value, index, db, ofExcept_eq_ok.mpr ⟨isOk, rfl, rfl⟩, holds⟩

theorem succeeds_statement {execute : Db → Except Fault (Result × Db)}
    (executed : execute db = .ok (result, after)) (holds : post result after)
    : (statement execute).Succeeds db post :=
  fun index => ⟨result, index + 1, after, statement_eq_ok.mpr ⟨rfl, executed, rfl⟩, holds⟩

theorem succeeds_query {read : Db → Result} (holds : post (read db) db)
    : (query read : Session Fault Db Fault Result).Succeeds db post :=
  succeeds_statement rfl holds

theorem Succeeds.mono {session : Session Fault Db Error Result} {weaker : Result → Db → Prop}
    (succeeds : session.Succeeds db post)
    (weaken : ∀ result after, post result after → weaker result after)
    : session.Succeeds db weaker := by
  intro index
  obtain ⟨result, next, after, ran, holds⟩ := succeeds index
  exact ⟨result, next, after, ran, weaken result after holds⟩

theorem Succeeds.bind {first : Session Fault Db Error Value}
    {later : Value → Session Fault Db Error Result} {between : Value → Db → Prop}
    (succeeds : first.Succeeds db between)
    (continues : ∀ value inner, between value inner → (later value).Succeeds inner post)
    : (first >>= later).Succeeds db post := by
  intro index
  obtain ⟨value, mid, inner, ran, holds⟩ := succeeds index
  obtain ⟨result, next, after, ranLater, holdsLater⟩ := continues value inner holds mid
  exact ⟨result, next, after, bind_eq_ok.mpr ⟨value, mid, inner, ran, ranLater⟩, holdsLater⟩

theorem Succeeds.mapError {OtherError : Type} {convert : Error → OtherError}
    {session : Session Fault Db Error Result} (succeeds : session.Succeeds db post)
    : (session.mapError convert).Succeeds db post := by
  intro index
  obtain ⟨result, next, after, ran, holds⟩ := succeeds index
  exact ⟨result, next, after, mapError_eq_ok.mpr ran, holds⟩

theorem Succeeds.within {Whole : Type} {part : Whole → Db} {put : Db → Whole → Whole}
    {session : Session Fault Db Error Result} {whole : Whole} {post : Result → Whole → Prop}
    (succeeds : session.Succeeds (part whole) fun result after => post result (put after whole))
    : (session.within part put).Succeeds whole post := by
  intro index
  obtain ⟨result, next, after, ran, holds⟩ := succeeds index
  refine ⟨result, next, put after whole, ?_, holds⟩
  change Ran.mk _ _ _ = _
  rw [ran]

/-- Statements that all execute as long as an invariant holds, by induction over the items. -/
theorem succeeds_executeAll {Item : Type} {execute : Item → Db → Except Fault Db}
    {items : List Item} (invariant : Db → Prop)
    (executes
      : ∀ item ∈ items, ∀ db,
          invariant db → ∃ after, execute item db = .ok after ∧ invariant after)
    (holds : invariant db)
    : (executeAll execute items).Succeeds db fun _ => invariant := by
  induction items generalizing db with
  | nil => exact succeeds_pure holds
  | cons item rest ih =>
      obtain ⟨after, executed, kept⟩ := executes item List.mem_cons_self db holds
      have first
          : (statement fun db => (execute item db).map fun after => ((), after)).Succeeds db
              fun _ => invariant :=
        succeeds_statement (Fallible.map_eq_ok.mpr ⟨after, executed, rfl⟩) kept
      apply first.bind
      intro _ inner keptInner
      exact ih (fun other member => executes other (List.mem_cons_of_mem _ member)) keptInner

/-- Rows are replaced: a statement clears them, and one for each item inserts. -/
theorem succeeds_replace {Item : Type} {clear : Db → Db} {insert : Item → Db → Except Fault Db}
    {items : List Item} (invariant : Db → Prop) (cleared : invariant (clear db))
    (inserts
      : ∀ item ∈ items, ∀ db,
          invariant db → ∃ after, insert item db = .ok after ∧ invariant after)
    : (do
        statement fun db => .ok ((), clear db)
        executeAll insert items : Session Fault Db Fault Unit).Succeeds db fun _ => invariant := by
  have clears
      : (statement fun db => .ok ((), clear db) : Session Fault Db Fault Unit).Succeeds db
          fun _ => invariant :=
    succeeds_statement rfl cleared
  apply clears.bind
  intro _ inner holds
  exact succeeds_executeAll invariant inserts holds

theorem Succeeds.transactionWith {convert : Fault → Error} {body : Session Fault Db Error Result}
    (succeeds : body.Succeeds db post)
    : (transactionWith convert body).Succeeds db post := by
  intro index
  obtain ⟨result, mid, after, ran, holds⟩ := succeeds (index + 1)
  refine ⟨result, mid + 1, after, ?_, holds⟩
  rw [run_transactionWith, ran]

theorem Succeeds.transaction {body : Session Fault Db Fault Result}
    (succeeds : body.Succeeds db post)
    : (transaction body).Succeeds db post :=
  transactionWith_self ▸ succeeds.transactionWith

end Succeeds

------------------------------------------------------------
-- Invariants
------------------------------------------------------------

/-- However far a session gets, it keeps a property of the database. -/
def Keeps (session : Session Fault Db Error Result) (property : Db → Prop) : Prop :=
  ∀ faults index db, property db → property (session.run faults index db).db

section Keeps

variable {property : Db → Prop}

theorem ReadOnly.keeps {session : Session Fault Db Error Result} (readOnly : session.ReadOnly)
    : session.Keeps property :=
  fun faults index db holds => (readOnly faults index db).symm ▸ holds

theorem keeps_act {change : Db → Db} (keeps : ∀ db, property db → property (change db))
    : (act change : Session Fault Db Error Unit).Keeps property :=
  fun _ _ db holds => keeps db holds

theorem keeps_statement {execute : Db → Except Fault (Result × Db)}
    (keeps
      : ∀ db result after, execute db = .ok (result, after) → property db → property after)
    : (statement execute).Keeps property := by
  intro faults index db holds
  rw [run_statement]
  cases faults index with
  | some fault => exact holds
  | none =>
      rcases executed : execute db with fault | ⟨result, after⟩
      · exact holds
      · exact keeps db result after executed holds

theorem Keeps.bind {first : Session Fault Db Error Value}
    {later : Value → Session Fault Db Error Result} (keeps : first.Keeps property)
    (keepsLater : ∀ value, (later value).Keeps property)
    : (first >>= later).Keeps property := by
  intro faults index db holds
  have kept := keeps faults index db holds
  rw [run_bind]
  rcases ran : first.run faults index db with ⟨error | value, mid, inner⟩ <;> rw [ran] at kept
  · exact kept
  · exact keepsLater value faults mid inner kept

theorem Keeps.mapError {OtherError : Type} {convert : Error → OtherError}
    {session : Session Fault Db Error Result} (keeps : session.Keeps property)
    : (session.mapError convert).Keeps property :=
  fun faults index db holds => keeps faults index db holds

theorem Keeps.within {Whole : Type} {part : Whole → Db} {put : Db → Whole → Whole}
    {session : Session Fault Db Error Result} {property : Whole → Prop} {partly : Db → Prop}
    (keeps : session.Keeps partly) (isPart : ∀ whole, property whole → partly (part whole))
    (isPut : ∀ db whole, partly db → property whole → property (put db whole))
    : (session.within part put).Keeps property :=
  fun faults index whole holds =>
    isPut _ whole (keeps faults index (part whole) (isPart whole holds)) holds

theorem keeps_executeAll {Item : Type} {execute : Item → Db → Except Fault Db}
    {items : List Item}
    (keeps : ∀ item db after, execute item db = .ok after → property db → property after)
    : (executeAll execute items).Keeps property := by
  intro faults index db
  let relation (db after : Db) : Prop := property db → property after
  have leaves : relation db ((executeAll execute items).run faults index db).db :=
    executeAll_leaves (fun _ holds => holds)
      (fun _ _ _ first second holds => second (first holds)) keeps
  exact leaves

/-- A session for each item of a list, by induction over the items. -/
theorem keeps_forM {Item : Type} {session : Item → Session Fault Db Error Unit} {items : List Item}
    (keeps : ∀ item, (session item).Keeps property)
    : (items.forM session).Keeps property := by
  induction items with
  | nil => exact (readOnly_pure ()).keeps
  | cons item rest ih => exact (keeps item).bind fun _ => ih

theorem Keeps.transactionWith {convert : Fault → Error} {body : Session Fault Db Error Result}
    (keeps : body.Keeps property)
    : (transactionWith convert body).Keeps property := by
  intro faults index db holds
  have kept := keeps faults (index + 1) db holds
  rw [run_transactionWith]
  cases faults index with
  | some fault => exact holds
  | none =>
      rcases ran : body.run faults (index + 1) db with ⟨error | result, mid, after⟩
      · exact holds
      · rw [ran] at kept
        cases committed : faults mid with
        | some fault => simpa only [committed] using holds
        | none => simpa only [committed] using kept

theorem Keeps.transaction {body : Session Fault Db Fault Result} (keeps : body.Keeps property)
    : (transaction body).Keeps property :=
  transactionWith_self ▸ keeps.transactionWith

end Keeps

end Session

end DatabaseSession
