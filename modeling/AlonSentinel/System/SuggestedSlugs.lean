import AlonSentinel.Api.StatusPages
import AlonSentinel.Foundation.Fallible

/-! The slug that is suggested for a status page. It is made of permitted characters and is a slug
of itself, but nothing bounds its length, and so some suggestions cannot be saved.
-/

namespace AlonSentinel.System

open Api
open Api.Sites
open Domain
open KeyedTable
open SeparatedText
open UnicodeText

------------------------------------------------------------
-- The characters of a slug
------------------------------------------------------------

/-- A character of a word of a slug. -/
def isSlugWordChar (char : Char) : Bool := char.isLower || char.isDigit

theorem isSlugWordChar_iff {char : Char}
    : isSlugWordChar char = true
      ↔ (97 ≤ char.toNat ∧ char.toNat ≤ 122) ∨ (48 ≤ char.toNat ∧ char.toNat ≤ 57) := by
  unfold isSlugWordChar Char.isLower Char.isDigit
  simp only [Bool.or_eq_true, Bool.and_eq_true, decide_eq_true_eq, ge_iff_le,
    UInt32.le_iff_toNat_le]
  rfl

/-- A capital letter in lower case is a letter. -/
theorem isSlugWordChar_toLower {char : Char} (isLetter : char.isAlphanum = true)
    : isSlugWordChar char.toLower = true := by
  rw [isSlugWordChar_iff]
  by_cases isUpper : char.val ≥ 'A'.val ∧ char.val ≤ 'Z'.val
  · left
    have low : 65 ≤ char.toNat := UInt32.le_iff_toNat_le.mp isUpper.1
    have high : char.toNat ≤ 90 := UInt32.le_iff_toNat_le.mp isUpper.2
    have lowered : char.toLower.toNat = char.toNat + 32 := by
      unfold Char.toLower
      rw [dif_pos isUpper]
      change (char.val + ('a'.val - 'A'.val)).toNat = char.val.toNat + 32
      rw [UInt32.toNat_add]
      change (char.val.toNat + 32) % 2 ^ 32 = char.val.toNat + 32
      change 65 ≤ char.val.toNat at low
      change char.val.toNat ≤ 90 at high
      omega
    omega
  · have same : char.toLower = char := by
      unfold Char.toLower
      rw [dif_neg isUpper]
    rw [same, ← isSlugWordChar_iff, isSlugWordChar]
    have notUpper : char.isUpper = false := by
      unfold Char.isUpper
      simpa using isUpper
    unfold Char.isAlphanum Char.isAlpha at isLetter
    simpa [notUpper] using isLetter

theorem slugChar_of_alphanum {char : Char} (isLetter : char.isAlphanum = true)
    : slugChar char = char.toLower := if_pos isLetter

theorem slugChar_of_other {char : Char} (isOther : char.isAlphanum = false)
    : slugChar char = '-' :=
  if_neg (by rw [isOther]; exact Bool.false_ne_true)

/-- What becomes a hyphen is no letter and no digit. -/
theorem slugChar_ne_hyphen_iff {char : Char} : slugChar char ≠ '-' ↔ char.isAlphanum = true := by
  cases isLetter : char.isAlphanum with
  | false => simp [slugChar_of_other isLetter]
  | true =>
      rw [slugChar_of_alphanum isLetter]
      refine iff_of_true (fun isHyphen => ?_) rfl
      have isWord := isSlugWordChar_toLower isLetter
      rw [isHyphen] at isWord
      exact absurd isWord (by decide)

/-- The characters of words stay as they are. -/
theorem slugChar_of_word {char : Char} (isWord : isSlugWordChar char = true)
    : slugChar char = char := by
  have range := isSlugWordChar_iff.mp isWord
  have isLetter : char.isAlphanum = true := by
    simp only [isSlugWordChar, Bool.or_eq_true] at isWord
    unfold Char.isAlphanum Char.isAlpha
    rcases isWord with isLower | isDigit
    · simp [isLower]
    · simp [isDigit]
  have notUpper : ¬(char.val ≥ 'A'.val ∧ char.val ≤ 'Z'.val) := by
    rintro ⟨low, high⟩
    have low : 65 ≤ char.toNat := UInt32.le_iff_toNat_le.mp low
    have high : char.toNat ≤ 90 := UInt32.le_iff_toNat_le.mp high
    omega
  rw [slugChar_of_alphanum isLetter]
  unfold Char.toLower
  rw [dif_neg notUpper]

------------------------------------------------------------
-- The words of a slug
------------------------------------------------------------

/-- The words of a name: its runs of letters and digits, in lower case. -/
def slugWords (name : String) : List (List Char) := words '-' (name.toList.map slugChar)

theorem isSlugWordChar_of_mem {name : String} {word : List Char} {char : Char}
    (isWord : word ∈ slugWords name) (member : char ∈ word)
    : isSlugWordChar char = true := by
  have notHyphen : char ≠ '-' := fun same => not_mem_of_mem_words isWord (same ▸ member)
  have inFlat : char ∈ (slugWords name).flatten := List.mem_flatten.mpr ⟨word, isWord, member⟩
  rw [slugWords, flatten_words] at inFlat
  obtain ⟨source, _, rfl⟩ := List.mem_map.mp (List.mem_of_mem_filter inFlat)
  have isLetter := slugChar_ne_hyphen_iff.mp notHyphen
  rw [slugChar_of_alphanum isLetter]
  exact isSlugWordChar_toLower isLetter

theorem toList_slugify (name : String)
    : (slugify name).toList = ['-'].intercalate (slugWords name) :=
  String.toList_ofList

/-- A slug is made of word characters and hyphens. -/
theorem slugify_chars {name : String} {char : Char} (member : char ∈ (slugify name).toList)
    : isSlugWordChar char = true ∨ char = '-' := by
  rw [toList_slugify] at member
  rcases mem_intercalate member with isHyphen | ⟨word, isWord, inWord⟩
  · exact .inr isHyphen
  · exact .inl (isSlugWordChar_of_mem isWord inWord)

/-- The words of a slug are those of the name. -/
theorem slugWords_slugify (name : String) : slugWords (slugify name) = slugWords name := by
  have same : (slugify name).toList.map slugChar = (slugify name).toList := by
    refine (List.map_congr_left fun char member => ?_).trans (List.map_id' _)
    rcases slugify_chars member with isWord | rfl
    · exact slugChar_of_word isWord
    · rfl
  rw [slugWords, same, toList_slugify]
  exact words_intercalate (fun _ => ne_nil_of_mem_words) fun _ => not_mem_of_mem_words

/-- A slug is a slug of itself. -/
theorem slugify_slugify (name : String) : slugify (slugify name) = slugify name := by
  rw [← String.toList_inj, toList_slugify, slugWords_slugify, ← toList_slugify]

------------------------------------------------------------
-- Its length
------------------------------------------------------------

/-- The letters and digits of a name, and one more for each gap between two runs of them. -/
def slugSize (name : String) : Nat :=
  name.toList.countP Char.isAlphanum + (runs Char.isAlphanum name.toList - 1)

theorem length_slugify (name : String) : (slugify name).toList.length = slugSize name := by
  have isLetter (char : Char) : decide (slugChar char ≠ '-') = char.isAlphanum :=
    Bool.eq_iff_iff.mpr (decide_eq_true_iff.trans slugChar_ne_hyphen_iff)
  rw [toList_slugify, length_intercalate, slugWords, flatten_words, length_words, runs_map,
    ← List.countP_eq_length_filter, List.countP_map, slugSize]
  simp only [Function.comp_def, isLetter]

theorem utf8ByteSize_slugify (name : String) : (slugify name).utf8ByteSize = slugSize name := by
  have isAscii : ∀ char ∈ (slugify name).toList, char.toNat < 128 := by
    intro char member
    rcases slugify_chars member with isWord | rfl
    · rcases isSlugWordChar_iff.mp isWord with range | range
      · omega
      · omega
    · decide
  rw [← length_slugify, ← utf8ByteSize_ofList isAscii, String.ofList_toList]

/-- A slug can be saved exactly if its length is permitted. -/
theorem validateSlug_slugify_iff (name : String)
    : validateSlug (slugify name) = .ok () ↔ 3 ≤ slugSize name ∧ slugSize name ≤ 60 := by
  have permitted
      : (slugify name).toList.all (fun char => char.isLower || char.isDigit || char = '-')
        = true := by
    rw [List.all_eq_true]
    intro char member
    rcases slugify_chars member with isWord | isHyphen
    · rw [← isSlugWordChar, isWord, Bool.true_or]
    · simp [isHyphen]
  unfold validateSlug
  rw [permitted, utf8ByteSize_slugify]
  by_cases bounded : 3 ≤ slugSize name ∧ slugSize name ≤ 60
  · have notRefused : (decide (slugSize name < 3) || decide (60 < slugSize name)) = false := by
      simp
      omega
    simp [notRefused, bounded]
  · have refused : (decide (slugSize name < 3) || decide (60 < slugSize name)) = true := by
      simp
      omega
    simp [refused, bounded]

------------------------------------------------------------
-- Saving the suggestion
------------------------------------------------------------

section Saving

variable {chrono : Rfc3339} {db after : Database} {request : SaveSiteRequest}
  {response : SiteResponse}

theorem createSite_stores {now : Timestamp} {name baseUrl : String} {site : Site}
    (created : Api.createSite db now name baseUrl = .ok (site, after))
    : after.sites.find? site.id = some site ∧ site.name = name := by
  unfold Api.createSite at created
  split at created
  · cases created
  · cases created
    exact ⟨SerialTable.find?_insert_nextId _ _ fun _ => rfl, rfl⟩

theorem updateSite_stores {now : Timestamp} {siteId : Int} {name baseUrl : String}
    {isActive : Bool} {site : Site}
    (updated : Api.updateSite db now siteId name baseUrl isActive = .ok (some site, after))
    : after.sites.find? site.id = some site ∧ site.name = name := by
  unfold Api.updateSite at updated
  split at updated
  · cases updated
  · rename_i stored found
    have isId : stored.id = siteId := (Table.mem_of_find? found).2
    split at updated
    · cases updated
    · cases updated
      refine ⟨?_, rfl⟩
      subst isId
      exact SerialTable.find?_update_of_matched found (decide_eq_true rfl)

/-- A saved site is stored under the trimmed name of the request, which is not blank. -/
theorem saveSite_stores (saved : saveSite chrono db request = .ok (response, after))
    : trim request.name ≠ ""
      ∧ ∃ site, after.sites.find? response.id = some site ∧ site.name = trim request.name := by
  cases request with
  | create now payload =>
      simp only [saveSite, Sites.createSite] at saved
      split at saved
      · cases saved
      · rename_i named
        split at saved
        · cases saved
        · cases saved
        · rename_i site created isCreated
          cases saved
          obtain ⟨found, isName⟩ := createSite_stores isCreated
          exact ⟨(not_or.mp named).1, site, found, isName⟩
  | update updatedAt resolvedAt siteId payload =>
      simp only [saveSite, Sites.updateSite] at saved
      split at saved
      · cases saved
      · rename_i named
        split at saved
        · cases saved
        · cases saved
        · rename_i site updated isUpdated
          obtain ⟨found, isName⟩ := updateSite_stores isUpdated
          cases saved
          refine ⟨(not_or.mp named).1, site, ?_, isName⟩
          -- Resolving incidents leaves the sites as they are.
          cases payload.isActive <;> exact found

/-- The suggestion for a site without a page is the slug of its name. -/
theorem getStatusPageConfig_unconfigured {tables : StatusPageTables} {siteId : Int} {site : Site}
    (found : tables.db.sites.find? siteId = some site)
    (unconfigured : tables.getBySiteId siteId = none)
    : ∃ config,
        getStatusPageConfig tables siteId = .ok config ∧ config.slug = slugify site.name := by
  unfold getStatusPageConfig ensureSiteExists
  rw [found, unconfigured]
  exact ⟨_, rfl, rfl⟩

/-- A slug is not trimmed any further. -/
theorem trim_slugify (name : String) : trim (slugify name) = slugify name := by
  rw [trim, trimChars_eq_self, String.ofList_toList]
  intro char member
  rcases slugify_chars member with isWord | rfl
  · rcases isSlugWordChar_iff.mp isWord with range | range
    · simp [isWhitespace]
      omega
    · simp [isWhitespace]
      omega
  · decide

theorem validateSlug_cases (slug : String)
    : validateSlug slug = .ok () ∨ ∃ message, validateSlug slug = .error (.badRequest message) := by
  unfold validateSlug
  split
  · exact .inr ⟨_, rfl⟩
  · split
    · exact .inr ⟨_, rfl⟩
    · exact .inl rfl

/-- A page of a stored site is refused as malformed exactly if its slug is. -/
theorem upsertStatusPageConfig_malformed_iff {tables : StatusPageTables} {siteId : Int}
    {site : Site} {body : UpsertStatusPageConfigBody} {message : String}
    (found : tables.db.sites.find? siteId = some site)
    : upsertStatusPageConfig tables siteId body = .error (.badRequest message)
      ↔ validateSlug (trim body.slug) = .error (.badRequest message) := by
  unfold upsertStatusPageConfig ensureSiteExists
  rw [found]
  cases valid : validateSlug (trim body.slug) with
  | error error => simp [bind, Except.bind, valid]
  | ok _ =>
      simp only [bind, Except.bind, valid]
      split
      · simp [pure, Except.pure]
      · simp [throw, throwThe, MonadExceptOf.throw]
      · simp [throw, throwThe, MonadExceptOf.throw]

/-- The slug of a name is never refused as malformed exactly if it has a permitted length. -/
theorem slugify_isSaved_iff {tables : StatusPageTables} {siteId : Int} {site : Site} {name : String}
    (found : tables.db.sites.find? siteId = some site)
    : (∀ (body : UpsertStatusPageConfigBody) message,
          upsertStatusPageConfig tables siteId { body with slug := slugify name }
          ≠ .error (.badRequest message))
      ↔ 3 ≤ slugSize name ∧ slugSize name ≤ 60 := by
  rw [← validateSlug_slugify_iff]
  simp only [ne_eq, upsertStatusPageConfig_malformed_iff found, trim_slugify]
  constructor
  · intro never
    rcases validateSlug_cases (slugify name) with isOk | ⟨message, refused⟩
    · exact isOk
    · exact absurd refused (never ⟨true, "", none, true, true⟩ message)
  · intro isOk _ message refused
    rw [isOk] at refused
    cases refused

end Saving

/-- The slug that is suggested for a saved site without a page is a slug of itself, and a page with
it is never refused as malformed exactly if the slug of the name has a permitted length.
-/
theorem suggestedSlug_isSaved_iff (chrono : Rfc3339) (db : Database) (request : SaveSiteRequest)
    (response : SiteResponse) (tables : StatusPageTables)
    (saved : saveSite chrono db request = .ok (response, tables.db))
    (unconfigured : tables.getBySiteId response.id = none)
    : ∃ config,
        getStatusPageConfig tables response.id = .ok config
        ∧ config.slug = slugify (trim request.name)
        ∧ slugify config.slug = config.slug
        ∧ ((∀ (body : UpsertStatusPageConfigBody) message,
              upsertStatusPageConfig tables response.id { body with slug := config.slug }
              ≠ .error (.badRequest message))
            ↔ 3 ≤ slugSize (trim request.name) ∧ slugSize (trim request.name) ≤ 60) := by
  obtain ⟨_, site, found, isName⟩ := saveSite_stores saved
  obtain ⟨config, answered, isSlug⟩ := getStatusPageConfig_unconfigured found unconfigured
  rw [isName] at isSlug
  refine ⟨config, answered, isSlug, ?_, ?_⟩
  · rw [isSlug, slugify_slugify]
  · rw [isSlug]
    exact slugify_isSaved_iff found

/-- A clock without any text for its instants. -/
def silentChrono : Rfc3339 where
  toRfc3339 := fun _ => ""
  parseFromRfc3339 := fun _ => none

/-- The request that creates a site of a name. -/
def siteNamed (name : String) : SaveSiteRequest := .create 0 ⟨name, "https://example.org"⟩

/-- An installation without sites accepts any name that is not blank. -/
theorem saveSite_first (name : String) (named : trim name ≠ "")
    : ∃ response after, saveSite silentChrono .empty (siteNamed name) = .ok (response, after) := by
  have based : trim "https://example.org" ≠ "" := by decide +kernel
  exact ⟨_, _, if_neg (not_or.mpr ⟨named, based⟩)⟩

/-- A page of the site `Status Page` can be saved under the slug that is suggested. -/
theorem suggestedSlug_isSaved_twoWords
    : ∃ tables siteId config,
        getStatusPageConfig tables siteId = .ok config
        ∧ config.slug = "status-page"
        ∧ ∀ (body : UpsertStatusPageConfigBody) message,
            upsertStatusPageConfig tables siteId { body with slug := config.slug }
            ≠ .error (.badRequest message) := by
  obtain ⟨response, after, saved⟩ := saveSite_first "Status Page" (by decide +kernel)
  obtain ⟨config, answered, isSlug, _, isSaved⟩ := suggestedSlug_isSaved_iff silentChrono .empty
    (siteNamed "Status Page") response ⟨after, .empty⟩ saved rfl
  refine ⟨⟨after, .empty⟩, response.id, config, answered, ?_, isSaved.mpr ?_⟩
  · rw [isSlug]
    decide +kernel
  · decide +kernel

/-- The name `QA` is accepted, but the slug that is suggested for it is too short to be saved. -/
theorem shortName_suggestsUnsavableSlug
    : ¬∀ (chrono : Rfc3339) (db : Database) (request : SaveSiteRequest) (response : SiteResponse)
        (tables : StatusPageTables) (config : StatusPageConfigResponse),
        saveSite chrono db request = .ok (response, tables.db)
        → tables.getBySiteId response.id = none
        → getStatusPageConfig tables response.id = .ok config
        → ∀ (body : UpsertStatusPageConfigBody) message,
            upsertStatusPageConfig tables response.id { body with slug := config.slug }
            ≠ .error (.badRequest message) := by
  intro saves
  obtain ⟨response, after, saved⟩ := saveSite_first "QA" (by decide +kernel)
  obtain ⟨_, site, found, isName⟩ := saveSite_stores saved
  let tables : StatusPageTables := ⟨after, .empty⟩
  have unconfigured : tables.getBySiteId response.id = none := rfl
  obtain ⟨config, answered, isSlug⟩ := getStatusPageConfig_unconfigured found unconfigured
  have never := saves silentChrono .empty (siteNamed "QA") response tables config saved
    unconfigured answered
  rw [isSlug, isName] at never
  have bounded := (slugify_isSaved_iff found).mp never
  exact absurd bounded.1 (by decide +kernel)

end AlonSentinel.System
