import AlonSentinel.Monitoring.JsonPath

/-! The segments of a path. By its grammar a dot stands before every field but a first one without a
root, and nowhere else. The reader also takes loose places: dots without a field, and fields without
a dot.
-/

namespace AlonSentinel.Monitoring

open MachineInteger

------------------------------------------------------------
-- The grammar
------------------------------------------------------------

/-- Segments: fields, each behind a dot, and positions in brackets. -/
inductive IsSegments : List Char → Prop where
  | nil : IsSegments []
  | field {name rest : List Char} (isName : IsFieldName name) (behind : IsSegments rest)
      : IsSegments ('.' :: (name ++ rest))
  | position {digits rest : List Char} (isPosition : IsPosition digits)
      (behind : IsSegments rest)
      : IsSegments ('[' :: (digits ++ ']' :: rest))

/-- A path by its grammar: segments behind a root, or a first field or position and segments. -/
inductive IsSegmented : List Char → Prop where
  | rooted {segments : List Char} (nonempty : segments ≠ []) (areSegments : IsSegments segments)
      : IsSegmented ('$' :: segments)
  | field {name rest : List Char} (isName : IsFieldName name) (noRoot : name.head? ≠ some '$')
      (behind : IsSegments rest)
      : IsSegmented (name ++ rest)
  | position {digits rest : List Char} (isPosition : IsPosition digits)
      (behind : IsSegments rest)
      : IsSegmented ('[' :: (digits ++ ']' :: rest))

------------------------------------------------------------
-- Loose places
------------------------------------------------------------

/-- What stands directly before a place in a path. -/
inductive PathPlace where
  | inField
  | behindDot
  | inBrackets
  | behindSegment
  deriving DecidableEq

/-- Whether a path goes on with a loose place: a dot before a bracket or at the end, or a field that
directly follows a root or a bracket.
-/
def hasLoosePlace : PathPlace → List Char → Bool
  | place, [] => place = .behindDot
  | place, char :: rest =>
      if place = .inBrackets then
        hasLoosePlace (if char = ']' then .behindSegment else .inBrackets) rest
      else if char = '.' then hasLoosePlace .behindDot rest
      else if char = '[' then place = .behindDot || hasLoosePlace .inBrackets rest
      else place = .behindSegment || hasLoosePlace .inField rest

/-- A path has a loose place. -/
def isLoosePath : List Char → Bool
  | '$' :: rest => hasLoosePlace .behindSegment rest
  | chars => hasLoosePlace .inField chars

variable {char : Char} {chars digits rest : List Char}

/-- The rest of a field, and segments behind it. -/
def EndsField (chars : List Char) : Prop :=
  ∃ name rest,
    chars = name ++ rest ∧ (∀ char ∈ name, char ≠ '.' ∧ char ≠ '[') ∧ IsSegments rest

/-- By the grammar, a path may go on so. -/
def PathPlace.Allows : PathPlace → List Char → Prop
  | .inField, chars => EndsField chars
  | .behindDot, chars =>
      ∃ char rest, chars = char :: rest ∧ char ≠ '.' ∧ char ≠ '[' ∧ EndsField rest
  | .inBrackets, _ => False
  | .behindSegment, chars => IsSegments chars

/-- Behind a dot none may stand. -/
def PathPlace.mayDot (place : PathPlace) : Bool := place ≠ .behindDot

theorem IsPosition.noClosing (isPosition : IsPosition digits) : ']' ∉ digits := by
  intro member
  have isDigit := List.all_eq_true.mp isPosition.allDigits ']' member
  cases isDigit

/-- A position ends at the first closing bracket, by induction over its digits. -/
theorem rest_eq_of_noClosing {other otherRest : List Char} (noClosing : ']' ∉ digits)
    (otherNoClosing : ']' ∉ other) (same : digits ++ ']' :: rest = other ++ ']' :: otherRest)
    : rest = otherRest := by
  induction digits generalizing other with
  | nil =>
      cases other with
      | nil => exact (List.cons.inj same).2
      | cons first later =>
          rw [List.mem_cons, not_or] at otherNoClosing
          exact absurd (List.cons.inj same).1 otherNoClosing.1
  | cons digit digits ih =>
      rw [List.mem_cons, not_or] at noClosing
      cases other with
      | nil => exact absurd (List.cons.inj same).1.symm noClosing.1
      | cons first later =>
          rw [List.mem_cons, not_or] at otherNoClosing
          exact ih noClosing.2 otherNoClosing.2 (List.cons.inj same).2

/-- Behind the digits of a position the scan goes on, by induction over them. -/
theorem hasLoosePlace_inBrackets (noClosing : ']' ∉ digits)
    : hasLoosePlace .inBrackets (digits ++ ']' :: rest) = hasLoosePlace .behindSegment rest := by
  induction digits with
  | nil => simp [hasLoosePlace]
  | cons digit digits ih =>
      rw [List.mem_cons, not_or] at noClosing
      rw [List.cons_append, hasLoosePlace, if_pos rfl, if_neg (Ne.symm noClosing.1)]
      exact ih noClosing.2

------------------------------------------------------------
-- How segments go on
------------------------------------------------------------

theorem isSegments_dot : IsSegments ('.' :: chars) ↔ PathPlace.behindDot.Allows chars := by
  constructor
  · intro segments
    cases segments with
    | field isName behind =>
        obtain ⟨first, later, rfl⟩ := List.exists_cons_of_ne_nil isName.nonempty
        obtain ⟨⟨notDot, notBracket⟩, plain⟩ := List.forall_mem_cons.mp isName.plain
        exact ⟨first, _, rfl, notDot, notBracket, later, _, rfl, plain, behind⟩
  · rintro ⟨first, _, rfl, notDot, notBracket, later, rest, rfl, plain, behind⟩
    exact @IsSegments.field (first :: later) rest
      ⟨List.cons_ne_nil _ _, List.forall_mem_cons.mpr ⟨⟨notDot, notBracket⟩, plain⟩⟩ behind

theorem isSegments_position (isPosition : IsPosition digits)
    : IsSegments ('[' :: (digits ++ ']' :: rest)) ↔ IsSegments rest := by
  constructor
  · intro segments
    generalize same : digits ++ ']' :: rest = chars at segments
    cases segments with
    | position otherPosition behind =>
        rwa [rest_eq_of_noClosing isPosition.noClosing otherPosition.noClosing same]
  · exact .position isPosition

theorem not_isSegments_letter (notDot : char ≠ '.') (notBracket : char ≠ '[')
    : ¬IsSegments (char :: chars) := by
  intro segments
  cases segments with
  | field => exact notDot rfl
  | position => exact notBracket rfl

theorem endsField_letter (notDot : char ≠ '.') (notBracket : char ≠ '[')
    : EndsField (char :: chars) ↔ EndsField chars := by
  constructor
  · rintro ⟨name, rest, same, plain, behind⟩
    cases name with
    | nil =>
        subst same
        exact absurd behind (not_isSegments_letter notDot notBracket)
    | cons first later =>
        obtain ⟨rfl, rfl⟩ := List.cons.inj same
        exact ⟨later, rest, rfl, (List.forall_mem_cons.mp plain).2, behind⟩
  · rintro ⟨name, rest, rfl, plain, behind⟩
    exact ⟨char :: name, rest, rfl, List.forall_mem_cons.mpr ⟨⟨notDot, notBracket⟩, plain⟩, behind⟩

/-- A field ends where a dot or a bracket stands. -/
theorem endsField_iff (ends : char = '.' ∨ char = '[')
    : EndsField (char :: chars) ↔ IsSegments (char :: chars) := by
  constructor
  · rintro ⟨name, rest, same, plain, behind⟩
    cases name with
    | nil => rwa [same]
    | cons first later =>
        obtain ⟨rfl, _⟩ := List.cons.inj same
        obtain ⟨⟨notDot, notBracket⟩, _⟩ := List.forall_mem_cons.mp plain
        rcases ends with isDot | isBracket
        · exact absurd isDot notDot
        · exact absurd isBracket notBracket
  · intro segments
    exact ⟨[], _, rfl, List.forall_mem_nil _, segments⟩

/-- The characters of a field are the text of a path, by induction over them. -/
theorem pathText_name {name : List Char} (plain : ∀ char ∈ name, char ≠ '.' ∧ char ≠ '[')
    (behind : PathText true rest)
    : PathText true (name ++ rest) := by
  induction name with
  | nil => exact behind
  | cons first later ih =>
      obtain ⟨⟨notDot, notBracket⟩, plain⟩ := List.forall_mem_cons.mp plain
      exact .letter notDot notBracket (ih plain)

/-- Segments are the text of a path, by induction over them. -/
theorem IsSegments.pathText (segments : IsSegments chars) : PathText true chars := by
  induction segments with
  | nil => exact .nil
  | field isName _ ih =>
      obtain ⟨first, later, rfl⟩ := List.exists_cons_of_ne_nil isName.nonempty
      obtain ⟨⟨notDot, notBracket⟩, plain⟩ := List.forall_mem_cons.mp isName.plain
      apply PathText.dot
      apply PathText.letter notDot notBracket
      exact pathText_name plain ih
  | position isPosition _ ih => exact .position isPosition ih

theorem EndsField.pathText (ends : EndsField chars) : PathText true chars := by
  obtain ⟨name, rest, rfl, plain, behind⟩ := ends
  exact pathText_name plain behind.pathText

theorem PathPlace.Allows.pathText {place : PathPlace} (allows : place.Allows chars)
    : PathText place.mayDot chars := by
  cases place with
  | inField => exact EndsField.pathText allows
  | behindSegment => exact IsSegments.pathText allows
  | inBrackets => exact allows.elim
  | behindDot =>
      obtain ⟨char, rest, rfl, notDot, notBracket, ends⟩ := allows
      exact .letter notDot notBracket ends.pathText

/-- A path text goes on by the grammar exactly if it has no loose place, by induction over it. -/
theorem allows_iff_of_pathText {place : PathPlace} (outside : place ≠ .inBrackets)
    (text : PathText place.mayDot chars)
    : place.Allows chars ↔ hasLoosePlace place chars = false := by
  generalize isMayDot : place.mayDot = mayDot at text
  induction text generalizing place with
  | nil =>
      cases place with
      | inField => exact iff_of_true ⟨[], [], rfl, by simp, .nil⟩ rfl
      | behindSegment => exact iff_of_true .nil rfl
      | inBrackets => exact absurd rfl outside
      | behindDot =>
          refine iff_of_false ?_ (by simp [hasLoosePlace])
          rintro ⟨char, rest, same, _⟩
          cases same
  | dot behind ih =>
      have next := @ih .behindDot (by decide) rfl
      rw [hasLoosePlace, if_neg outside, if_pos rfl, ← next, ← isSegments_dot]
      cases place with
      | inField => exact endsField_iff (.inl rfl)
      | behindSegment => rfl
      | inBrackets => exact absurd rfl outside
      | behindDot => cases isMayDot
  | letter notDot notBracket behind ih =>
      have next := @ih .inField (by decide) rfl
      rw [hasLoosePlace, if_neg outside, if_neg notDot, if_neg notBracket]
      cases place with
      | inField =>
          simp only [reduceCtorEq, decide_false, Bool.false_or]
          rw [← next]
          exact endsField_letter notDot notBracket
      | behindSegment =>
          refine iff_of_false (not_isSegments_letter notDot notBracket) ?_
          simp
      | inBrackets => exact absurd rfl outside
      | behindDot =>
          simp only [reduceCtorEq, decide_false, Bool.false_or]
          rw [← next]
          constructor
          · rintro ⟨_, _, same, _, _, ends⟩
            obtain ⟨rfl, rfl⟩ := List.cons.inj same
            exact ends
          · exact fun ends => ⟨_, _, rfl, notDot, notBracket, ends⟩
  | position isPosition behind ih =>
      have next := @ih .behindSegment (by decide) rfl
      rw [hasLoosePlace, if_neg outside, if_neg (by decide), if_pos rfl,
        hasLoosePlace_inBrackets isPosition.noClosing]
      cases place with
      | inField =>
          simp only [reduceCtorEq, decide_false, Bool.false_or]
          rw [← next]
          exact (endsField_iff (.inr rfl)).trans (isSegments_position isPosition)
      | behindSegment =>
          simp only [reduceCtorEq, decide_false, Bool.false_or]
          rw [← next]
          exact isSegments_position isPosition
      | inBrackets => exact absurd rfl outside
      | behindDot =>
          refine iff_of_false ?_ (by simp)
          rintro ⟨_, _, same, _, notBracket, _⟩
          exact notBracket (List.cons.inj same).1.symm

theorem allows_iff {place : PathPlace} (outside : place ≠ .inBrackets)
    : place.Allows chars
      ↔ PathText place.mayDot chars ∧ hasLoosePlace place chars = false := by
  constructor
  · intro allows
    exact ⟨allows.pathText, (allows_iff_of_pathText outside allows.pathText).mp allows⟩
  · rintro ⟨text, tight⟩
    exact (allows_iff_of_pathText outside text).mpr tight

theorem pathText_false : PathText false chars ↔ PathText true chars ∧ chars.head? ≠ some '.' := by
  constructor
  · intro text
    cases text with
    | nil => exact ⟨.nil, nofun⟩
    | letter notDot notBracket behind => exact ⟨.letter notDot notBracket behind, by simpa⟩
    | position isPosition behind => exact ⟨.position isPosition behind, by simp⟩
  · rintro ⟨text, noDot⟩
    cases text with
    | nil => exact .nil
    | dot => exact absurd rfl noDot
    | letter notDot notBracket behind => exact .letter notDot notBracket behind
    | position isPosition behind => exact .position isPosition behind

------------------------------------------------------------
-- Whole paths
------------------------------------------------------------

theorem isSegmented_root : IsSegmented ('$' :: chars) ↔ chars ≠ [] ∧ IsSegments chars := by
  constructor
  · intro segmented
    generalize same : '$' :: chars = path at segmented
    cases segmented with
    | rooted nonempty areSegments =>
        obtain ⟨_, rfl⟩ := List.cons.inj same
        exact ⟨nonempty, areSegments⟩
    | field isName noRoot =>
        obtain ⟨first, later, rfl⟩ := List.exists_cons_of_ne_nil isName.nonempty
        obtain ⟨rfl, _⟩ := List.cons.inj same
        exact absurd rfl noRoot
    | position => exact absurd (List.cons.inj same).1 (by decide)
  · rintro ⟨nonempty, areSegments⟩
    exact .rooted nonempty areSegments

theorem isSegmented_iff_of_noRoot (noRoot : chars.head? ≠ some '$')
    : IsSegmented chars ↔ chars ≠ [] ∧ chars.head? ≠ some '.' ∧ EndsField chars := by
  constructor
  · intro segmented
    cases segmented with
    | rooted => exact absurd rfl noRoot
    | field isName _ behind =>
        obtain ⟨first, later, rfl⟩ := List.exists_cons_of_ne_nil isName.nonempty
        refine ⟨List.cons_ne_nil _ _, ?_, _, _, rfl, isName.plain, behind⟩
        rintro ⟨⟩
        exact (isName.plain '.' List.mem_cons_self).1 rfl
    | position isPosition behind =>
        exact ⟨List.cons_ne_nil _ _, by simp,
          (endsField_iff (.inr rfl)).mpr (.position isPosition behind)⟩
  · rintro ⟨nonempty, startsNoDot, name, rest, rfl, plain, behind⟩
    cases name with
    | nil =>
        cases behind with
        | nil => exact absurd rfl nonempty
        | field => exact absurd rfl startsNoDot
        | position isPosition behind => exact .position isPosition behind
    | cons first later =>
        exact .field ⟨List.cons_ne_nil _ _, plain⟩ noRoot behind

/-- Behind a root that no dot follows, and without a root, no dot comes first. -/
theorem behindRoot_cases (chars : List Char)
    : (∃ rest, chars = '$' :: '.' :: rest ∧ behindRoot chars = rest)
      ∨ (∃ rest, chars = '$' :: rest ∧ rest.head? ≠ some '.' ∧ behindRoot chars = rest)
      ∨ (chars.head? ≠ some '$' ∧ behindRoot chars = chars) := by
  unfold behindRoot
  split
  · exact .inl ⟨_, rfl, rfl⟩
  · rename_i rest noDot
    refine .inr (.inl ⟨rest, rfl, ?_, rfl⟩)
    intro isDot
    obtain ⟨later, rfl⟩ := List.head?_eq_some_iff.mp isDot
    exact noDot later rfl
  · rename_i noRootDot noRoot
    refine .inr (.inr ⟨?_, rfl⟩)
    intro isRoot
    obtain ⟨later, rfl⟩ := List.head?_eq_some_iff.mp isRoot
    exact noRoot later rfl

theorem isLoosePath_of_noRoot (noRoot : chars.head? ≠ some '$')
    : isLoosePath chars = hasLoosePlace .inField chars := by
  unfold isLoosePath
  split
  · exact absurd rfl noRoot
  · rfl

/-- The grammar has exactly the paths that the reader takes and that have no loose place. -/
theorem isSegmented_iff
    : IsSegmented chars
      ↔ (behindRoot chars ≠ [] ∧ PathText false (behindRoot chars))
        ∧ isLoosePath chars = false := by
  rcases behindRoot_cases chars with
    ⟨rest, rfl, isBehind⟩ | ⟨rest, rfl, startsNoDot, isBehind⟩ | ⟨noRoot, isBehind⟩
  · have scan : isLoosePath ('$' :: '.' :: rest) = hasLoosePlace .behindDot rest := by
      simp [isLoosePath, hasLoosePlace]
    have nonempty : PathPlace.behindDot.Allows rest → rest ≠ [] := by
      rintro ⟨_, _, rfl, _⟩
      exact List.cons_ne_nil _ _
    have allows
        : PathPlace.behindDot.Allows rest
          ↔ PathText false rest ∧ hasLoosePlace .behindDot rest = false :=
      allows_iff (by decide)
    rw [isBehind, scan, isSegmented_root, isSegments_dot, and_assoc, ← allows]
    exact ⟨fun both => ⟨nonempty both.2, both.2⟩, fun both => ⟨List.cons_ne_nil _ _, both.2⟩⟩
  · have allows := @allows_iff rest .behindSegment (by decide)
    rw [isBehind, isSegmented_root, pathText_false, and_iff_left startsNoDot, and_assoc]
    exact and_congr_right fun _ => allows
  · have allows := @allows_iff chars .inField (by decide)
    rw [isBehind, isSegmented_iff_of_noRoot noRoot, isLoosePath_of_noRoot noRoot, pathText_false,
      and_assoc]
    refine and_congr_right fun _ => ?_
    rw [and_assoc, and_left_comm]
    exact and_congr_right fun _ => allows

/-- The parser reads exactly the grammar's paths, except that it also reads the paths that have a
loose place and are well formed otherwise.
-/
theorem parse_isSegmented_iff {path : String}
    : ((∃ tokens, parseJsonPath path = .ok tokens)
        ↔ IsSegmented (UnicodeText.trim path).toList)
      ↔ ¬(IsJsonPath path ∧ isLoosePath (UnicodeText.trim path).toList = true) := by
  rw [parseJsonPath_isOk, isSegmented_iff]
  change (IsJsonPath path ↔ IsJsonPath path ∧ _) ↔ _
  cases isLoosePath (UnicodeText.trim path).toList with
  | false => simp
  | true => simp

/-- A last dot is taken for nothing. -/
theorem lastDot_isParsed
    : ¬((∃ tokens, parseJsonPath "items." = .ok tokens)
        ↔ IsSegmented (UnicodeText.trim "items.").toList) := by
  have parsed : parseJsonPath "items." = .ok [.field "items"] := by decide +kernel
  intro same
  have segmented := same.mp ⟨_, parsed⟩
  rw [isSegmented_iff] at segmented
  exact absurd segmented.2 (by decide +kernel)

end AlonSentinel.Monitoring
