import AlonSentinel.Monitoring.JsonPath

/-! Paths that are written from tokens. Reading one back gives its tokens, so that it leads to the
value behind them.
-/

namespace AlonSentinel.Monitoring

open IntegerText
open MachineInteger
open SerdeJson
open UnicodeText

/-- A token as a path has it. -/
def JsonPathToken.render : JsonPathToken → List Char
  | .field name => '.' :: name.toList
  | .index position => '[' :: ((toString position).toList ++ [']'])

/-- The path of tokens, behind a root. -/
def renderJsonPath (tokens : List JsonPathToken) : String :=
  .ofList ('$' :: tokens.flatMap JsonPathToken.render)

/-- A field that a path can have, with no white space around it, or a position within `usize`. -/
def JsonPathToken.IsRenderable : JsonPathToken → Prop
  | .field name => IsFieldName name.toList ∧ trim name = name
  | .index position => position ≤ u64Max

/-- A token cannot be followed: what it asks for is missing, or the value is of another kind. -/
inductive StepFails : Value → JsonPathToken → Prop where
  | missingField {fields : List (String × Value)} {name : String}
      (missing : ∀ inner, (name, inner) ∉ fields)
      : StepFails (.object fields) (.field name)
  | missingPosition {items : List Value} {position : Nat} (missing : items.length ≤ position)
      : StepFails (.array items) (.index position)
  | noObject {value : Value} {name : String} (otherKind : ∀ fields, value ≠ .object fields)
      : StepFails value (.field name)
  | noArray {value : Value} {position : Nat} (otherKind : ∀ items, value ≠ .array items)
      : StepFails value (.index position)

/-- Some token cannot be followed from the value behind those before it. -/
def SomeStepFails (value : Value) (tokens : List JsonPathToken) : Prop :=
  ∃ before token after inner,
    tokens = before ++ token :: after ∧ LiesBehind value before inner ∧ StepFails inner token

variable {value : Value} {token next : JsonPathToken} {tokens before : List JsonPathToken}

------------------------------------------------------------
-- Following tokens
------------------------------------------------------------

theorem lookup_eq_none {fields : List (String × Value)} {name : String}
    : fields.lookup name = none ↔ ∀ inner, (name, inner) ∉ fields := by
  rw [List.lookup_eq_none_iff]
  constructor
  · intro differs inner member
    simpa using differs (name, inner) member
  · rintro missing ⟨other, inner⟩ member
    rw [bne_iff_ne]
    rintro rfl
    exact missing inner member

theorem followToken_eq_none : followToken value token = none ↔ StepFails value token := by
  constructor
  · intro lost
    cases token with
    | field name =>
        cases value with
        | object fields => exact .missingField (lookup_eq_none.mp lost)
        | _ => exact .noObject nofun
    | index position =>
        cases value with
        | array items => exact .missingPosition (List.getElem?_eq_none_iff.mp lost)
        | _ => exact .noArray nofun
  · intro fails
    cases fails with
    | missingField missing => exact lookup_eq_none.mpr missing
    | missingPosition missing => exact List.getElem?_eq_none_iff.mpr missing
    | noObject otherKind =>
        cases value with
        | object fields => exact absurd rfl (otherKind fields)
        | _ => rfl
    | noArray otherKind =>
        cases value with
        | array items => exact absurd rfl (otherKind items)
        | _ => rfl

/-- A step is lost on the way exactly if some token cannot be followed, by induction over them. -/
theorem foldlM_followToken_eq_none
    : tokens.foldlM followToken value = none ↔ SomeStepFails value tokens := by
  induction tokens generalizing value with
  | nil =>
      refine iff_of_false nofun ?_
      rintro ⟨before, token, after, inner, same, _⟩
      simp at same
  | cons token rest ih =>
      rw [List.foldlM_cons, Option.bind_eq_bind]
      constructor
      · intro lost
        cases found : followToken value token with
        | none => exact ⟨[], token, rest, value, rfl, .here, followToken_eq_none.mp found⟩
        | some inner =>
            rw [found, Option.bind_some] at lost
            obtain ⟨before, failing, after, last, rfl, behind, fails⟩ := ih.mp lost
            refine ⟨token :: before, failing, after, last, rfl, ?_, fails⟩
            rw [← foldlM_followToken] at behind ⊢
            rw [List.foldlM_cons, found]
            exact behind
      · rintro ⟨before, failing, after, last, same, behind, fails⟩
        cases before with
        | nil =>
            obtain ⟨rfl, rfl⟩ := List.cons.inj same
            cases behind
            rw [followToken_eq_none.mpr fails, Option.bind_none]
        | cons first before =>
            obtain ⟨rfl, rfl⟩ := List.cons.inj same
            rw [← foldlM_followToken, List.foldlM_cons, Option.bind_eq_bind,
              Option.bind_eq_some_iff] at behind
            obtain ⟨inner, found, followed⟩ := behind
            rw [found, Option.bind_some, ih]
            exact ⟨before, failing, after, last, rfl, foldlM_followToken.mp followed, fails⟩

------------------------------------------------------------
-- Reading rendered tokens
------------------------------------------------------------

namespace JsonPathReader

/-- The reader behind tokens of which the last is rendered completely. -/
def behind (before : List JsonPathToken) : JsonPathToken → JsonPathReader
  | .field name =>
      { tokens := before
        currentField := name
        justClosedIndex := false
        index := none }
  | .index position =>
      { tokens := before ++ [.index position]
        currentField := ""
        justClosedIndex := true
        index := none }

theorem push_append_ofList (text : String) (char : Char) (rest : List Char)
    : text.push char ++ .ofList rest = text ++ .ofList (char :: rest) := by
  rw [← String.toList_inj]
  simp

/-- Characters of a field are added to it, by induction over them. -/
theorem foldlM_read_field {begun : String} {name : List Char}
    (plain : ∀ char ∈ name, char ≠ '.' ∧ char ≠ '[')
    : name.foldlM read ⟨before, begun, false, none⟩
      = some ⟨before, begun ++ .ofList name, false, none⟩ := by
  induction name generalizing begun with
  | nil => simp
  | cons char rest ih =>
      obtain ⟨⟨notDot, notBracket⟩, plain⟩ := List.forall_mem_cons.mp plain
      have step
          : read ⟨before, begun, false, none⟩ char = some ⟨before, begun.push char, false, none⟩ :=
        read_letter rfl notDot notBracket
      rw [List.foldlM_cons, step, Option.bind_eq_bind, Option.bind_some, ih plain,
        push_append_ofList]

/-- Digits are added to those behind an open bracket, by induction over them. -/
theorem foldlM_read_digits {closed : Bool} {begun opened : String} {digits : List Char}
    (allDigits : digits.all Char.isDigit = true)
    : digits.foldlM read ⟨before, begun, closed, some opened⟩
      = some ⟨before, begun, closed, some (opened ++ .ofList digits)⟩ := by
  induction digits generalizing opened with
  | nil => simp
  | cons digit rest ih =>
      rw [List.all_cons, Bool.and_eq_true] at allDigits
      have notClosing : digit ≠ ']' := by
        rintro rfl
        cases allDigits.1
      have step
          : read ⟨before, begun, closed, some opened⟩ digit
            = some ⟨before, begun, closed, some (opened.push digit)⟩ := by
        simp only [read, if_neg notClosing, allDigits.1, if_true]
      rw [List.foldlM_cons, step, Option.bind_eq_bind, Option.bind_some, ih allDigits.2,
        push_append_ofList]

/-- A rendered position becomes a token behind the field that it ends. -/
theorem foldlM_read_index {reader : JsonPathReader} {position : Nat}
    (outside : reader.index = none) (pushed : reader.pushField.tokens = before)
    (fits : position ≤ u64Max)
    : (JsonPathToken.index position).render.foldlM read reader
      = some (behind before (.index position)) := by
  have digits : (toString position).toList = Nat.toDigits 10 position := Nat.toList_repr
  have opens
      : reader.read '['
        = some ⟨before, "", reader.justClosedIndex, some ""⟩ := by
    have empty : reader.pushField.currentField = "" := String.isEmpty_iff.mp pushField_isEmpty
    simp only [read_bracket outside, pushed, empty, pushField_justClosedIndex]
  have closes
      : read ⟨before, "", reader.justClosedIndex, some (.ofList (Nat.toDigits 10 position))⟩ ']'
        = some (behind before (.index position)) := by
    simp only [read, if_true, parseUnsigned_toDigits fits, behind]
  rw [JsonPathToken.render, digits, List.foldlM_cons, opens, Option.bind_eq_bind, Option.bind_some,
    List.foldlM_append, foldlM_read_digits (all_isDigit_toDigits position), String.empty_append,
    Option.bind_eq_bind, Option.bind_some, List.foldlM_cons, closes]
  rfl

/-- Behind a rendered token it is pushed with the next one, and a dot may stand. -/
theorem pushField_behind (before : List JsonPathToken) (renderable : token.IsRenderable)
    : (behind before token).mayDot = true
      ∧ { (behind before token).pushField with justClosedIndex := false }
        = ⟨before ++ [token], "", false, none⟩ := by
  cases token with
  | field name =>
      have begun : name.isEmpty = false := by
        have nonempty := renderable.1.nonempty
        simpa using nonempty
      simp [behind, pushField, mayDot, begun]
  | index position => simp [behind, pushField, mayDot]

/-- A rendered token is read behind others. -/
theorem foldlM_read_render (renderable : token.IsRenderable) (renderableNext : next.IsRenderable)
    : next.render.foldlM read (behind before token) = some (behind (before ++ [token]) next) := by
  have outside : (behind before token).index = none := by
    cases token <;> rfl
  obtain ⟨may, pushed⟩ := pushField_behind before renderable
  cases next with
  | index position =>
      exact foldlM_read_index outside (congrArg JsonPathReader.tokens pushed) renderableNext
  | field name =>
      rw [JsonPathToken.render, List.foldlM_cons, read_dot outside, if_pos may, pushed,
        Option.bind_eq_bind, Option.bind_some,
        foldlM_read_field renderableNext.1.plain]
      simp [behind]

/-- Rendered tokens are read behind others and finished, by induction over them. -/
theorem finish_render (renderable : ∀ each ∈ token :: tokens, each.IsRenderable)
    : ((tokens.flatMap JsonPathToken.render).foldlM read (behind before token)).bind finish
      = some (before ++ token :: tokens) := by
  induction tokens generalizing before token with
  | nil =>
      obtain ⟨_, pushed⟩ := pushField_behind before (renderable token (by simp))
      have outside : (behind before token).index = none := by
        cases token <;> rfl
      have tokens : (behind before token).pushField.tokens = before ++ [token] :=
        congrArg JsonPathReader.tokens pushed
      simp [finish, outside, tokens]
  | cons next rest ih =>
      obtain ⟨first, later⟩ := List.forall_mem_cons.mp renderable
      rw [List.flatMap_cons, List.foldlM_append,
        foldlM_read_render first (later next List.mem_cons_self), Option.bind_eq_bind,
        Option.bind_some, ih later, List.append_assoc]
      rfl

end JsonPathReader

------------------------------------------------------------
-- Parsing a rendered path
------------------------------------------------------------

theorem render_eq_cons (token : JsonPathToken) : ∃ char rest, token.render = char :: rest := by
  cases token <;> exact ⟨_, _, rfl⟩

/-- A rendered token does not end with white space. -/
theorem isWhitespace_getLast_render (renderable : token.IsRenderable)
    : ∀ last ∈ token.render.getLast?, isWhitespace last = false := by
  cases token with
  | index position =>
      intro last isLast
      simp only [JsonPathToken.render, ← List.cons_append, List.getLast?_concat,
        Option.mem_some] at isLast
      subst isLast
      decide
  | field name =>
      have trimmed : trimChars name.toList = name.toList := by
        have same := congrArg String.toList renderable.2
        rwa [trim, String.toList_ofList] at same
      obtain ⟨char, rest, isName⟩ := List.exists_cons_of_ne_nil renderable.1.nonempty
      have last := (trimChars_eq_self_iff.mp trimmed).2
      rw [JsonPathToken.render, isName, List.getLast?_cons_cons]
      rwa [isName] at last

/-- A rendered path has no white space around it. -/
theorem trim_renderJsonPath (nonempty : tokens ≠ [])
    (renderable : ∀ token ∈ tokens, token.IsRenderable)
    : trim (renderJsonPath tokens) = renderJsonPath tokens := by
  obtain ⟨before, last, rfl⟩ := (List.eq_nil_or_concat tokens).resolve_left nonempty
  rw [trim, renderJsonPath, String.toList_ofList, trimChars_eq_self_iff.mpr]
  refine ⟨fun first isFirst => ?_, ?_⟩
  · rw [List.head?_cons, Option.mem_some] at isFirst
    subst isFirst
    decide
  · obtain ⟨char, rest, isRender⟩ := render_eq_cons last
    have ends := isWhitespace_getLast_render (renderable last (by simp))
    rw [List.concat_eq_append, List.flatMap_append, List.flatMap_singleton, ← List.cons_append,
      List.getLast?_append_of_ne_nil _ (by simp [isRender])]
    exact ends

/-- Tokens are read behind the root of their path. -/
theorem finish_behindRoot (renderable : ∀ each ∈ token :: tokens, each.IsRenderable)
    : ((behindRoot ('$' :: (token :: tokens).flatMap JsonPathToken.render)).foldlM
        JsonPathReader.read .start).bind JsonPathReader.finish
      = some (token :: tokens) := by
  obtain ⟨first, later⟩ := List.forall_mem_cons.mp renderable
  have behindFirst
      : ∃ chars,
          behindRoot ('$' :: (token :: tokens).flatMap JsonPathToken.render)
              = chars ++ tokens.flatMap JsonPathToken.render
            ∧ chars.foldlM JsonPathReader.read .start = some (.behind [] token) := by
    cases token with
    | field name =>
        refine ⟨name.toList, rfl, ?_⟩
        rw [JsonPathReader.start, JsonPathReader.foldlM_read_field first.1.plain]
        simp [JsonPathReader.behind]
    | index position => exact ⟨_, rfl, JsonPathReader.foldlM_read_index rfl rfl first⟩
  obtain ⟨chars, isBehind, read⟩ := behindFirst
  rw [isBehind, List.foldlM_append, read, Option.bind_eq_bind, Option.bind_some,
    JsonPathReader.finish_render renderable, List.nil_append]

theorem parseJsonPath_renderJsonPath (nonempty : tokens ≠ [])
    (renderable : ∀ token ∈ tokens, token.IsRenderable)
    : parseJsonPath (renderJsonPath tokens) = .ok tokens := by
  obtain ⟨token, rest, rfl⟩ := List.exists_cons_of_ne_nil nonempty
  have finished := finish_behindRoot renderable
  unfold parseJsonPath
  rw [trim_renderJsonPath nonempty renderable]
  simp only
  split
  · rename_i blank
    simp [renderJsonPath] at blank
  · rw [renderJsonPath, String.toList_ofList]
    cases read
        : (behindRoot ('$' :: (token :: rest).flatMap JsonPathToken.render)).foldlM
            JsonPathReader.read .start with
    | none =>
        rw [read] at finished
        cases finished
    | some reader =>
        rw [read, Option.bind_some] at finished
        simp only [finished]

/-- A rendered path is read back as its tokens, and it leads to what is found by following them: to
nothing exactly if some step is missing or of the wrong kind.
-/
theorem renderedPath_isResolved (nonempty : tokens ≠ [])
    (renderable : ∀ token ∈ tokens, token.IsRenderable)
    : parseJsonPath (renderJsonPath tokens) = .ok tokens
      ∧ ∀ value,
          ∃ found,
            resolveJsonPath value (renderJsonPath tokens) = .ok found
            ∧ (∀ target, found = some target ↔ LiesBehind value tokens target)
            ∧ (found = none ↔ SomeStepFails value tokens) := by
  have parsed := parseJsonPath_renderJsonPath nonempty renderable
  refine ⟨parsed, fun value => ⟨tokens.foldlM followToken value, ?_, fun target => ?_, ?_⟩⟩
  · rw [resolveJsonPath, parsed]
  · exact foldlM_followToken
  · exact foldlM_followToken_eq_none

/-- Names with brackets, roots and digits in a nested value. -/
theorem renderedPath_isResolved_nested
    : parseJsonPath (renderJsonPath [.field "$0]", .index 18446744073709551615, .field "a b"])
        = .ok [.field "$0]", .index 18446744073709551615, .field "a b"]
      ∧ ∀ value,
          ∃ found,
            resolveJsonPath value
                (renderJsonPath [.field "$0]", .index 18446744073709551615, .field "a b"])
              = .ok found
            ∧ (∀ target,
                found = some target
                ↔ LiesBehind value
                    [.field "$0]", .index 18446744073709551615, .field "a b"] target)
            ∧ (found = none
              ↔ SomeStepFails value
                  [.field "$0]", .index 18446744073709551615, .field "a b"]) := by
  refine renderedPath_isResolved (by decide) ?_
  rw [List.forall_mem_cons, List.forall_mem_cons, List.forall_mem_singleton]
  exact ⟨⟨⟨by decide, by simp⟩, by decide⟩, Nat.le_refl u64Max, ⟨by decide, by simp⟩,
    by decide⟩

end AlonSentinel.Monitoring
