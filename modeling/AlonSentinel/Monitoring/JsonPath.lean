import AlonSentinel.Foundation.IntegerText
import AlonSentinel.Foundation.MachineIntegers
import AlonSentinel.Foundation.SerdeJson
import AlonSentinel.Foundation.UnicodeText

/-! Paths into a JSON value. A path is read character by character into fields and positions; one
that leads nowhere has no value, and a malformed one is an error.
-/

namespace AlonSentinel.Monitoring

open IntegerText
open MachineInteger
open SerdeJson

------------------------------------------------------------
-- Reading a path
------------------------------------------------------------

inductive JsonPathToken where
  | field (name : String)
  | index (position : Nat)
  deriving DecidableEq

/-- How far a path is read; `index` has the digits behind an open bracket. -/
structure JsonPathReader where
  tokens : List JsonPathToken
  currentField : String
  justClosedIndex : Bool
  index : Option String
  deriving DecidableEq

def JsonPathReader.start : JsonPathReader where
  tokens := []
  currentField := ""
  justClosedIndex := false
  index := none

/-- Pushes the current field, if it has begun. -/
def JsonPathReader.pushField (reader : JsonPathReader) : JsonPathReader :=
  if reader.currentField.isEmpty then reader
  else
    { reader with
      tokens := reader.tokens ++ [.field reader.currentField]
      currentField := "" }

/-- Reads a character; `none` is a malformed path. -/
def JsonPathReader.read (reader : JsonPathReader) (char : Char) : Option JsonPathReader :=
  match reader.index with
  | some digits =>
      if char = ']' then
        match IntegerText.parseUnsigned u64Max digits with
        | .error _ => none
        | .ok position =>
            some
              { reader with
                tokens := reader.tokens ++ [.index position]
                justClosedIndex := true
                index := none }
      else if char.isDigit then some { reader with index := some (digits.push char) }
      else none
  | none =>
      if char = '.' then
        if !reader.currentField.isEmpty || reader.justClosedIndex then
          some { reader.pushField with justClosedIndex := false }
        else none
      else if char = '[' then some { reader.pushField with index := some "" }
      else
        some
          { reader with
            currentField := reader.currentField.push char
            justClosedIndex := false }

/-- Ends a path: a bracket is still open, or there are tokens. -/
def JsonPathReader.finish (reader : JsonPathReader) : Option (List JsonPathToken) :=
  if reader.index.isSome then none
  else some reader.pushField.tokens |>.filter (!·.isEmpty)

/-- The characters behind `$`, and behind a dot that follows it. -/
def behindRoot : List Char → List Char
  | '$' :: '.' :: rest => rest
  | '$' :: rest => rest
  | chars => chars

def parseJsonPath (path : String) : Except String (List JsonPathToken) :=
  let trimmed := UnicodeText.trim path
  if trimmed.isEmpty then .error "JSON path must not be blank"
  else
    match (behindRoot trimmed.toList).foldlM JsonPathReader.read .start with
    | none => .error s!"Invalid JSON path: {trimmed}"
    | some reader =>
        match reader.finish with
        | none => .error s!"Invalid JSON path: {trimmed}"
        | some tokens => .ok tokens

------------------------------------------------------------
-- Following a path
------------------------------------------------------------

/-- One token of the loop. -/
def followToken : Value → JsonPathToken → Option Value
  | .object fields, .field name => fields.lookup name
  | .array items, .index position => items[position]?
  | _, _ => none

def resolveJsonPath (value : Value) (path : String) : Except String (Option Value) :=
  match parseJsonPath path with
  | .error error => .error error
  | .ok tokens => .ok (tokens.foldlM followToken value)

/-- A value lies behind tokens: each field is one of an object, each position one of an array. -/
inductive LiesBehind : Value → List JsonPathToken → Value → Prop where
  | here {value : Value} : LiesBehind value [] value
  | field {fields : List (String × Value)} {name : String} {inner target : Value}
      {tokens : List JsonPathToken} (found : fields.lookup name = some inner)
      (behind : LiesBehind inner tokens target)
      : LiesBehind (.object fields) (.field name :: tokens) target
  | index {items : List Value} {position : Nat} {inner target : Value}
      {tokens : List JsonPathToken} (found : items[position]? = some inner)
      (behind : LiesBehind inner tokens target)
      : LiesBehind (.array items) (.index position :: tokens) target

/-- A path parses, and a value lies behind its tokens. -/
def PathLeadsTo (value : Value) (path : String) (target : Value) : Prop :=
  ∃ tokens, parseJsonPath path = .ok tokens ∧ LiesBehind value tokens target

/-- The loop follows tokens to the value behind them, by induction over the tokens. -/
theorem foldlM_followToken {value target : Value} {tokens : List JsonPathToken}
    : tokens.foldlM followToken value = some target ↔ LiesBehind value tokens target := by
  induction tokens generalizing value with
  | nil =>
      constructor
      · rintro ⟨⟩
        exact .here
      · rintro ⟨⟩
        rfl
  | cons token rest ih =>
      rw [List.foldlM_cons, Option.bind_eq_bind, Option.bind_eq_some_iff]
      constructor
      · rintro ⟨inner, found, followed⟩
        have behind := ih.mp followed
        cases value <;> cases token <;> try cases found
        · exact .index found behind
        · exact .field found behind
      · intro behind
        cases behind with
        | field found behind => exact ⟨_, found, ih.mpr behind⟩
        | index found behind => exact ⟨_, found, ih.mpr behind⟩

/-- A path is resolved to the value it leads to. -/
theorem resolveJsonPath_eq_some {value target : Value} {path : String}
    : resolveJsonPath value path = .ok (some target) ↔ PathLeadsTo value path target := by
  unfold resolveJsonPath PathLeadsTo
  cases parseJsonPath path with
  | error error => exact ⟨nofun, fun ⟨_, parsed, _⟩ => nomatch parsed⟩
  | ok tokens =>
      simp only [Except.ok.injEq, foldlM_followToken, exists_eq_left']

------------------------------------------------------------
-- The paths that are read
------------------------------------------------------------

/-- The characters of a field: none is a dot or opens a bracket. -/
structure IsFieldName (name : List Char) : Prop where
  nonempty : name ≠ []
  plain : ∀ char ∈ name, char ≠ '.' ∧ char ≠ '['

/-- The digits of a position that fits a `usize`. -/
structure IsPosition (digits : List Char) : Prop where
  nonempty : digits ≠ []
  allDigits : digits.all Char.isDigit = true
  fits : Nat.ofDigitChars 10 digits 0 ≤ u64Max

/-- What may stand behind the root of a path: characters of fields, positions in brackets, and dots,
of which none is the first or stands behind another; `true` is where a dot may stand.
-/
inductive PathText : Bool → List Char → Prop where
  | nil {mayDot : Bool} : PathText mayDot []
  | dot {rest : List Char} (behind : PathText false rest) : PathText true ('.' :: rest)
  | letter {mayDot : Bool} {char : Char} {rest : List Char} (notDot : char ≠ '.')
      (notBracket : char ≠ '[') (behind : PathText true rest)
      : PathText mayDot (char :: rest)
  | position {mayDot : Bool} {digits rest : List Char} (isPosition : IsPosition digits)
      (behind : PathText true rest)
      : PathText mayDot ('[' :: (digits ++ ']' :: rest))

theorem parseUnsigned_isOk {digits : List Char} (allDigits : digits.all Char.isDigit = true)
    : (∃ position, parseUnsigned u64Max (.ofList digits) = .ok position) ↔ IsPosition digits := by
  cases digits with
  | nil => exact iff_of_false nofun fun isPosition => isPosition.nonempty rfl
  | cons digit rest =>
      rw [parseUnsigned_ofList (List.cons_ne_nil _ _) allDigits]
      simp only [parseDigits_eq_ok (Nat.zero_le u64Max)]
      constructor
      · rintro ⟨position, _, rfl, fits⟩
        exact ⟨List.cons_ne_nil _ _, allDigits, fits⟩
      · rintro ⟨_, _, fits⟩
        exact ⟨_, allDigits, rfl, fits⟩

theorem pathText_dot {mayDot : Bool} {rest : List Char}
    : PathText mayDot ('.' :: rest) ↔ mayDot = true ∧ PathText false rest := by
  constructor
  · intro text
    cases text with
    | dot behind => exact ⟨rfl, behind⟩
    | letter notDot => exact absurd rfl notDot
  · rintro ⟨rfl, behind⟩
    exact .dot behind

theorem pathText_letter {mayDot : Bool} {char : Char} {rest : List Char} (notDot : char ≠ '.')
    (notBracket : char ≠ '[')
    : PathText mayDot (char :: rest) ↔ PathText true rest := by
  constructor
  · intro text
    cases text with
    | dot => exact absurd rfl notDot
    | letter _ _ behind => exact behind
    | position => exact absurd rfl notBracket
  · exact .letter notDot notBracket

theorem pathText_bracket {mayDot : Bool} {chars : List Char}
    : PathText mayDot ('[' :: chars)
      ↔ ∃ digits rest,
          chars = digits ++ ']' :: rest ∧ IsPosition digits ∧ PathText true rest := by
  constructor
  · intro text
    cases text with
    | letter _ notBracket => exact absurd rfl notBracket
    | position isPosition behind => exact ⟨_, _, rfl, isPosition, behind⟩
  · rintro ⟨digits, rest, rfl, isPosition, behind⟩
    exact .position isPosition behind

/-- How a position goes on: it ends here, or it has another digit. -/
theorem position_cons {digits : List Char} {char : Char} {chars : List Char}
    : (∃ more rest,
        char :: chars = more ++ ']' :: rest ∧ IsPosition (digits ++ more) ∧ PathText true rest)
      ↔ (char = ']' ∧ IsPosition digits ∧ PathText true chars)
        ∨ (char.isDigit = true
          ∧ ∃ more rest,
              chars = more ++ ']' :: rest
              ∧ IsPosition (digits ++ [char] ++ more)
              ∧ PathText true rest) := by
  constructor
  · rintro ⟨more, rest, same, isPosition, behind⟩
    cases more with
    | nil =>
        obtain ⟨rfl, rfl⟩ := List.cons.inj same
        exact .inl ⟨rfl, by simpa using isPosition, behind⟩
    | cons head more =>
        obtain ⟨rfl, sameRest⟩ := List.cons.inj same
        refine .inr ⟨List.all_eq_true.mp isPosition.allDigits char (by simp), more, rest, sameRest,
          ?_, behind⟩
        rw [List.append_assoc]
        exact isPosition
  · rintro (⟨rfl, isPosition, behind⟩ | ⟨_, more, rest, rfl, isPosition, behind⟩)
    · exact ⟨[], chars, rfl, by simpa using isPosition, behind⟩
    · refine ⟨char :: more, rest, rfl, ?_, behind⟩
      rw [List.append_assoc] at isPosition
      exact isPosition

namespace JsonPathReader

/-- A reader reads the rest of a path. -/
def Accepts (reader : JsonPathReader) (chars : List Char) : Prop :=
  ∃ tokens, (chars.foldlM read reader).bind finish = some tokens

/-- Something stands before: tokens, or a field that has begun. -/
def HasBegun (reader : JsonPathReader) : Prop :=
  reader.tokens ≠ [] ∨ reader.currentField.isEmpty = false

/-- A dot may stand behind a field or a position. -/
def mayDot (reader : JsonPathReader) : Bool :=
  !reader.currentField.isEmpty || reader.justClosedIndex

variable {reader : JsonPathReader} {char : Char} {chars : List Char}

theorem accepts_cons
    : reader.Accepts (char :: chars)
      ↔ ∃ next, reader.read char = some next ∧ next.Accepts chars := by
  unfold Accepts
  rw [List.foldlM_cons]
  cases reader.read char with
  | none => exact ⟨nofun, nofun⟩
  | some next =>
      constructor
      · exact fun accepts => ⟨next, rfl, accepts⟩
      · rintro ⟨_, ⟨⟩, accepts⟩
        exact accepts

theorem pushField_index : reader.pushField.index = reader.index := by
  unfold pushField
  split <;> rfl

theorem pushField_justClosedIndex
    : reader.pushField.justClosedIndex = reader.justClosedIndex := by
  unfold pushField
  split <;> rfl

theorem pushField_isEmpty : reader.pushField.currentField.isEmpty = true := by
  unfold pushField
  split
  · assumption
  · rfl

theorem pushField_tokens : reader.pushField.tokens ≠ [] ↔ reader.HasBegun := by
  unfold pushField HasBegun
  cases reader.currentField.isEmpty with
  | true => simp
  | false => simp

theorem accepts_nil (outside : reader.index = none) : reader.Accepts [] ↔ reader.HasBegun := by
  rw [← pushField_tokens]
  simp [Accepts, finish, outside]

theorem read_dot (outside : reader.index = none)
    : reader.read '.'
      = if reader.mayDot then some { reader.pushField with justClosedIndex := false }
        else none := by
  simp only [read, outside, if_true, mayDot]
  rfl

theorem read_bracket (outside : reader.index = none)
    : reader.read '[' = some { reader.pushField with index := some "" } := by
  simp [read, outside]

theorem read_letter (outside : reader.index = none) (notDot : char ≠ '.') (notBracket : char ≠ '[')
    : reader.read char
      = some
          { reader with
            currentField := reader.currentField.push char
            justClosedIndex := false } := by
  simp only [read, outside, if_neg notDot, if_neg notBracket]

/-- What a reader accepts, by induction over the rest of the path: outside of brackets a path text,
and inside of them the rest of a position with a path text behind it.
-/
theorem accepts_iff (closed : reader.justClosedIndex = true → reader.tokens ≠ [])
    : (reader.index = none
        → (reader.Accepts chars ↔ PathText reader.mayDot chars ∧ (chars = [] → reader.HasBegun)))
      ∧ ∀ digits,
          digits.all Char.isDigit = true
          → reader.index = some (.ofList digits)
          → (reader.Accepts chars
            ↔ ∃ more rest,
                chars = more ++ ']' :: rest
                ∧ IsPosition (digits ++ more)
                ∧ PathText true rest) := by
  induction chars generalizing reader with
  | nil =>
      refine ⟨fun outside => ?_, fun digits _ inside => ?_⟩
      · rw [accepts_nil outside]
        exact ⟨fun begun => ⟨.nil, fun _ => begun⟩, fun both => both.2 rfl⟩
      · refine iff_of_false ?_ ?_
        · rintro ⟨tokens, finished⟩
          simp [finish, inside] at finished
        · rintro ⟨more, rest, same, _⟩
          simp at same
  | cons char chars ih =>
      refine ⟨fun outside => ?_, fun digits allDigits inside => ?_⟩
      · rw [accepts_cons]
        simp only [reduceCtorEq, false_implies, and_true]
        by_cases isDot : char = '.'
        · subst isDot
          rw [pathText_dot, read_dot outside]
          cases may : reader.mayDot with
          | false => simp
          | true =>
              have begun : reader.pushField.tokens ≠ [] := by
                rw [pushField_tokens]
                rcases Bool.or_eq_true_iff.mp may with field | index
                · exact .inr (by simpa using field)
                · exact .inl (closed index)
              have next := (@ih { reader.pushField with justClosedIndex := false } nofun).1
                (pushField_index.trans outside)
              have noDot
                  : mayDot { reader.pushField with justClosedIndex := false } = false := by
                simp [mayDot, pushField_isEmpty]
              simp only [if_true, Option.some.injEq, exists_eq_left', true_and, next, noDot]
              exact ⟨fun both => both.1, fun text => ⟨text, fun _ => .inl begun⟩⟩
        · by_cases isBracket : char = '['
          · subst isBracket
            have closedNext
                : reader.pushField.justClosedIndex = true → reader.pushField.tokens ≠ [] := by
              rw [pushField_justClosedIndex, pushField_tokens]
              exact fun index => .inl (closed index)
            have next := (@ih { reader.pushField with index := some "" } closedNext).2 [] rfl rfl
            rw [pathText_bracket, read_bracket outside]
            simp only [Option.some.injEq, exists_eq_left', next, List.nil_append]
          · have next := (@ih
              { reader with
                currentField := reader.currentField.push char
                justClosedIndex := false } nofun).1 outside
            have begun : (reader.currentField.push char).isEmpty = false := by simp
            rw [pathText_letter isDot isBracket, read_letter outside isDot isBracket]
            simp only [Option.some.injEq, exists_eq_left', next, mayDot, begun, Bool.not_false,
              Bool.true_or]
            exact ⟨fun both => both.1, fun text => ⟨text, fun _ => .inr begun⟩⟩
      · rw [accepts_cons, position_cons]
        by_cases closes : char = ']'
        · subst closes
          have notDigit : Char.isDigit ']' = false := rfl
          simp only [true_and, notDigit, Bool.false_eq_true, false_and, or_false]
          cases parsed : parseUnsigned u64Max (.ofList digits) with
          | error error =>
              have noPosition : ¬IsPosition digits := by
                rw [← parseUnsigned_isOk allDigits, parsed]
                exact nofun
              refine iff_of_false ?_ fun both => noPosition both.1
              simp [read, inside, parsed]
          | ok position =>
              have isPosition := (parseUnsigned_isOk allDigits).mp ⟨position, parsed⟩
              have next := (@ih
                { reader with
                  tokens := reader.tokens ++ [.index position]
                  justClosedIndex := true
                  index := none } fun _ => by simp).1 rfl
              have begun
                  : HasBegun
                      { reader with
                        tokens := reader.tokens ++ [.index position]
                        justClosedIndex := true
                        index := none } :=
                .inl (by simp)
              simp only [read, inside, parsed, if_true, Option.some.injEq, exists_eq_left', next,
                mayDot, Bool.or_true]
              exact ⟨fun both => ⟨isPosition, both.1⟩, fun both => ⟨both.2, fun _ => begun⟩⟩
        · simp only [closes, false_and, false_or]
          cases isDigit : char.isDigit with
          | false =>
              refine iff_of_false ?_ fun both => nomatch both.1
              simp [read, inside, closes, isDigit]
          | true =>
              have pushed : (String.ofList digits).push char = .ofList (digits ++ [char]) := by
                simp
              have next := (@ih
                { reader with index := some (.ofList (digits ++ [char])) } closed).2
                (digits ++ [char]) (by simp [allDigits, isDigit]) rfl
              simp only [read, inside, closes, isDigit, pushed, if_false, if_true,
                Option.some.injEq, exists_eq_left', true_and, next]

end JsonPathReader

/-- The paths that are read: behind the root there is a path text, and not nothing. -/
def IsJsonPath (path : String) : Prop :=
  let chars := behindRoot (UnicodeText.trim path).toList
  chars ≠ [] ∧ PathText false chars

theorem parseJsonPath_isOk {path : String}
    : (∃ tokens, parseJsonPath path = .ok tokens) ↔ IsJsonPath path := by
  have accepts
      : JsonPathReader.start.Accepts (behindRoot (UnicodeText.trim path).toList)
        ↔ IsJsonPath path := by
    have closed
        : JsonPathReader.start.justClosedIndex = true → JsonPathReader.start.tokens ≠ [] := by
      rintro ⟨⟩
    rw [(JsonPathReader.accepts_iff closed).1 rfl, IsJsonPath, and_comm]
    refine and_congr_left fun _ => ?_
    simp [JsonPathReader.HasBegun, JsonPathReader.start]
  rw [← accepts]
  unfold parseJsonPath
  simp only
  split
  · rename_i blank
    refine iff_of_false (by simp) ?_
    rw [accepts, IsJsonPath, String.isEmpty_iff.mp blank]
    exact fun both => both.1 rfl
  · unfold JsonPathReader.Accepts
    cases (behindRoot (UnicodeText.trim path).toList).foldlM JsonPathReader.read .start with
    | none => simp
    | some reader =>
        simp only [Option.bind_some]
        cases reader.finish with
        | none => simp
        | some tokens => exact iff_of_true ⟨tokens, rfl⟩ ⟨tokens, rfl⟩

end AlonSentinel.Monitoring
