import VeltrixEye.Billing.SnapshotStore
import VeltrixEye.Mutations.Vocabulary
import VeltrixEye.Risk.DecimalText

/-!
# Observed rates (`billing/fx-source-observations.ts`, `billing/fx-validation.ts`)

A published row is read to an observation, three figures at one scale, and a history of observations to a
staleness report.

* `parseFxRateDecimal` — an exact decimal as a scaled integer.
* `parsePublishedOn` — the date cell of a row.
* `analyzeFxSourceObservations` — the report.
-/

namespace VeltrixEye.Billing.FxSources

open Prices (BillingFxPolicy isSha256Hex)

/-! ## Exact decimals -/

/-- `{ scaled, scale }`. -/
structure ScaledRate where
  scaled : ℕ
  scale : ℕ

/-- `BILLING_FX_POLICY.minScale`. -/
def minFxScale : ℕ := 1

/-- `DECIMAL_PATTERN`: the digits before and after the point. -/
def matchRate (text : List Char) : Option (List Char × List Char) :=
  let whole := text.takeWhile Char.isDigit
  if whole = [] ∨ whole.head? = some '0' ∧ whole ≠ ['0'] then none
  else
    match text.dropWhile Char.isDigit with
    | [] => some (whole, [])
    | c :: frac => if c = '.' ∧ frac ≠ [] ∧ frac.all Char.isDigit then some (whole, frac) else none

def parseFxRateDecimal (rate : String) : Option ScaledRate :=
  match matchRate (jsTrim rate).toList with
  | none => none
  | some (whole, frac) =>
    if maxFxScale < frac.length then none
    else
      let scale := max frac.length minFxScale
      let scaled := digitsValue (whole ++ frac ++ List.replicate (scale - frac.length) '0')
      if scaled = 0 ∨ MAX_SAFE_INTEGER < scaled then none else some ⟨scaled, scale⟩

/-! ## Dates -/

def MONTHS : List String :=
  ["jan", "feb", "mar", "apr", "may", "jun", "jul", "aug", "sep", "oct", "nov", "dec"]

def isLeapYear (year : ℕ) : Bool := year % 4 = 0 && (year % 100 ≠ 0 || year % 400 = 0)

def daysInMonth (year month : ℕ) : ℕ :=
  if month = 2 then if isLeapYear year then 29 else 28
  else if month ∈ [4, 6, 9, 11] then 30 else 31

/-- `String(value).padStart(width, '0')`. -/
def pad (value width : ℕ) : List Char :=
  List.replicate (width - (Nat.toDigits 10 value).length) '0' ++ Nat.toDigits 10 value

/-- `isoDate`: `Date.UTC` moves the years before 100 to the twentieth century, so none of them is kept. -/
def isoDate (year month day : ℕ) : Option String :=
  if 100 ≤ year ∧ 1 ≤ month ∧ month ≤ 12 ∧ 1 ≤ day ∧ day ≤ daysInMonth year month then
    some (String.ofList (pad year 4 ++ '-' :: pad month 2 ++ '-' :: pad day 2))
  else none

/-- `DATE_DMY`: day, month and year. -/
def matchDmy (text : List Char) : Option (ℕ × List Char × ℕ) :=
  let (day, rest) := text.span Char.isDigit
  let (gap, rest) := rest.span isJsSpace
  let (month, rest) := rest.span Char.isAlpha
  let (gap', rest) := rest.span isJsSpace
  let (year, rest) := rest.span Char.isDigit
  if 1 ≤ day.length ∧ day.length ≤ 2 ∧ gap ≠ [] ∧ 3 ≤ month.length ∧ (month.drop 3).all Char.isLower ∧
    gap' ≠ [] ∧ year.length = 4 ∧ rest = [] then some (digitsValue day, month.take 3, digitsValue year)
  else none

/-- `DATE_MDY`. -/
def matchMdy (text : List Char) : Option (ℕ × List Char × ℕ) :=
  let (month, rest) := text.span Char.isAlpha
  let (gap, rest) := rest.span isJsSpace
  let (day, rest) := rest.span Char.isDigit
  let rest := if rest.head? = some ',' then rest.tail else rest
  let (gap', rest) := rest.span isJsSpace
  let (year, rest) := rest.span Char.isDigit
  if 3 ≤ month.length ∧ (month.drop 3).all Char.isLower ∧ gap ≠ [] ∧ 1 ≤ day.length ∧ day.length ≤ 2 ∧
    gap' ≠ [] ∧ year.length = 4 ∧ rest = [] then some (digitsValue day, month.take 3, digitsValue year)
  else none

def parsePublishedOn (text : String) : Option String :=
  let value := (jsTrim text).toList
  match (matchDmy value).or (matchMdy value) with
  | none => none
  | some (day, month, year) =>
    match MONTHS.idxOf? (String.ofList (month.map Char.toLower)) with
    | none => none
    | some index => isoDate year (index + 1) day

/-- The days before a year, from the year 0 on. -/
def daysBeforeYear (year : ℕ) : ℕ := 365 * year + (year + 3) / 4 - (year + 99) / 100 + (year + 399) / 400

/-- Midnight UTC of a date, in milliseconds. -/
def midnight (year month day : ℕ) : ℤ :=
  ((daysBeforeYear year + ((List.range' 1 (month - 1)).map (daysInMonth year)).sum + (day - 1) : ℕ) - 719528) *
    86400000

def publishedOnInstant (publishedOn : String) : Option ℤ :=
  match publishedOn.toList with
  | [y₁, y₂, y₃, y₄, '-', m₁, m₂, '-', d₁, d₂] =>
    if [y₁, y₂, y₃, y₄, m₁, m₂, d₁, d₂].all Char.isDigit then
      let year := digitsValue [y₁, y₂, y₃, y₄]
      let month := digitsValue [m₁, m₂]
      let day := digitsValue [d₁, d₂]
      if (isoDate year month day).isSome then some (midnight year month day) else none
    else none
  | _ => none

/-! ## Rows -/

/-- What `FxSourceObservationPolicy` bounds. -/
structure FxSourceObservationPolicy where
  baseCurrency : String
  quoteCurrency : String
  maxRateScale : ℕ
  publicationIntervalSeconds : ℚ
  warningAfterSeconds : ℚ
  staleAfterSeconds : ℚ
  maxRetrievedByLength : ℕ

def FX_SOURCE_OBSERVATION_POLICY : FxSourceObservationPolicy :=
  ⟨"USD", "GHS", maxFxScale, 86400, 172800, 345600, 64⟩

def FX_SOURCE_IDS : List String := ["bank_of_ghana"]

def FX_SOURCE_BANK_OF_GHANA_URL : String :=
  "https://www.bog.gov.gh/treasury-and-the-markets/daily-interbank-fx-rates/"

/-- The cells of a row; one that is absent or no text reads as empty. -/
structure FxSourceRowTexts where
  publishedOnText : String
  currencyText : String
  pairText : String
  buyingText : String
  sellingText : String
  midText : String

/-- A retrieval; the instant is none when it is no `Date` or an invalid one. -/
structure FxSourceRetrievalInput where
  sourceId : String
  sourceUrl : String
  retrievedAt : Option ℤ
  bodyDigest : String
  rowDigest : String
  row : Option FxSourceRowTexts

/-- `FxSourceObservation`: three figures at one scale. -/
structure FxSourceObservation where
  sourceId : String
  observationKey : String
  baseCurrency : String
  quoteCurrency : String
  publishedOn : String
  buyingScaled : ℕ
  sellingScaled : ℕ
  midRateScaled : ℕ
  rateScale : ℕ
  buyingDecimal : String
  sellingDecimal : String
  midRateDecimal : String
  bodyDigest : String
  rowDigest : String
  sourceUrl : String
  retrievedAt : ℤ
  retrievedBy : String
  deriving DecidableEq

inductive FxSourceValidationIssueCode where
  | invalid
  | unsupported_source
  | unsupported_currency
  | unparseable
  | incoherent
  | missing_evidence
  | credential_shaped
  deriving DecidableEq

/-- The field of an issue and its code. -/
structure FxSourceValidationIssue where
  field : String
  code : FxSourceValidationIssueCode
  deriving DecidableEq

/-- The digest and the case conversions. -/
structure FxSourceRuntime where
  sha256Hex : String → String
  toUpperCase : String → String
  toLowerCase : String → String

def sourceIssues (input : FxSourceRetrievalInput) : List FxSourceValidationIssue :=
  if input.sourceId ∉ FX_SOURCE_IDS then [⟨"sourceId", .unsupported_source⟩]
  else if FX_SOURCE_BANK_OF_GHANA_URL ≠ input.sourceUrl then [⟨"sourceUrl", .unsupported_source⟩] else []

def evidenceIssues (input : FxSourceRetrievalInput) : List FxSourceValidationIssue :=
  (if input.retrievedAt = none then [⟨"retrievedAt", .invalid⟩] else []) ++
    (if isSha256Hex input.bodyDigest then [] else [⟨"bodyDigest", .invalid⟩]) ++
    if isSha256Hex input.rowDigest then [] else [⟨"rowDigest", .invalid⟩]

def labelIssues (policy : FxSourceObservationPolicy) (retrievedBy : String) : List FxSourceValidationIssue :=
  if jsTrim retrievedBy = "" ∨ policy.maxRetrievedByLength < jsLength retrievedBy then
    [⟨"retrievedBy", .missing_evidence⟩]
  else if credentialShaped retrievedBy then [⟨"retrievedBy", .credential_shaped⟩] else []

/-- `text.includes(word)`. -/
def includes (text word : String) : Bool := text.toList.tails.any fun tail => word.toList.isPrefixOf tail

def currencyIssues (runtime : FxSourceRuntime) (policy : FxSourceObservationPolicy) (row : FxSourceRowTexts) :
    List FxSourceValidationIssue :=
  let pairText := runtime.toUpperCase
    (String.ofList ((jsTrim row.pairText).toList.filter fun c => !isJsSpace c))
  let currencyText := runtime.toLowerCase (jsTrim row.currencyText)
  (if pairText ≠ policy.baseCurrency ++ policy.quoteCurrency then [⟨"pairText", .unsupported_currency⟩]
    else []) ++
    if includes currencyText "usd" || includes currencyText "dollar" then []
    else [⟨"currencyText", .unsupported_currency⟩]

/-- A published figure within the precision of the policy. -/
def figure (policy : FxSourceObservationPolicy) (text : String) : Option ScaledRate :=
  (parseFxRateDecimal (jsTrim text)).filter fun parsed => parsed.scale ≤ policy.maxRateScale

/-- The figure at a larger scale. -/
def ScaledRate.rescale (value : ScaledRate) (rateScale : ℕ) : ℕ :=
  value.scaled * 10 ^ (rateScale - value.scale)

def fxSourceObservationKey (runtime : FxSourceRuntime) (sourceId baseCurrency quoteCurrency publishedOn : String)
    (buyingScaled sellingScaled midRateScaled rateScale : ℕ) : String :=
  runtime.sha256Hex ("|".intercalate [sourceId, baseCurrency, quoteCurrency, publishedOn,
    toString buyingScaled, toString sellingScaled, toString midRateScaled, toString rateScale])

/-- The publication date must not be after the retrieval. -/
def dateIssues (publishedOn : Option String) (retrievedAt : Option ℤ) : List FxSourceValidationIssue :=
  match publishedOn, retrievedAt with
  | some publishedOn, some retrievedAt =>
    match publishedOnInstant publishedOn with
    | none => [⟨"publishedOnText", .invalid⟩]
    | some instant => if retrievedAt < instant then [⟨"publishedOnText", .invalid⟩] else []
  | _, _ => []

/-- The three figures at the largest of their scales. -/
structure Figures where
  buying : ℕ
  selling : ℕ
  mid : ℕ
  scale : ℕ

def commonScale (buying selling mid : ScaledRate) : Figures :=
  let rateScale := max (max buying.scale selling.scale) mid.scale
  ⟨buying.rescale rateScale, selling.rescale rateScale, mid.rescale rateScale, rateScale⟩

def readFigures (policy : FxSourceObservationPolicy) (row : FxSourceRowTexts) : Option Figures :=
  match figure policy row.buyingText, figure policy row.sellingText, figure policy row.midText with
  | some buying, some selling, some mid => some (commonScale buying selling mid)
  | _, _, _ => none

def coherenceIssues (figures : Figures) : List FxSourceValidationIssue :=
  (if figures.mid < figures.buying then [⟨"buyingText", .incoherent⟩] else []) ++
    if figures.selling < figures.mid then [⟨"sellingText", .incoherent⟩] else []

/-- What is wrong with a retrieval before its row is read. -/
def retrievalIssues (policy : FxSourceObservationPolicy) (retrievedBy : String) (input : FxSourceRetrievalInput) :
    List FxSourceValidationIssue :=
  sourceIssues input ++ evidenceIssues input ++ labelIssues policy retrievedBy

/-- What is wrong with the cells of a row and its date. -/
def rowIssues (runtime : FxSourceRuntime) (policy : FxSourceObservationPolicy) (row : FxSourceRowTexts)
    (retrievedAt : Option ℤ) : List FxSourceValidationIssue :=
  currencyIssues runtime policy row ++
    (if parsePublishedOn row.publishedOnText = none then [⟨"publishedOnText", .unparseable⟩] else []) ++
    (if figure policy row.buyingText = none then [⟨"buyingText", .invalid⟩] else []) ++
    (if figure policy row.sellingText = none then [⟨"sellingText", .invalid⟩] else []) ++
    (if figure policy row.midText = none then [⟨"midText", .invalid⟩] else []) ++
    dateIssues (parsePublishedOn row.publishedOnText) retrievedAt

/-- The observation of a row without issues. -/
def observationOf (runtime : FxSourceRuntime) (policy : FxSourceObservationPolicy) (retrievedBy : String)
    (input : FxSourceRetrievalInput) (row : FxSourceRowTexts) (publishedOn : String) (retrievedAt : ℤ)
    (figures : Figures) : FxSourceObservation where
  sourceId := input.sourceId
  observationKey := fxSourceObservationKey runtime input.sourceId policy.baseCurrency policy.quoteCurrency
    publishedOn figures.buying figures.selling figures.mid figures.scale
  baseCurrency := policy.baseCurrency
  quoteCurrency := policy.quoteCurrency
  publishedOn := publishedOn
  buyingScaled := figures.buying
  sellingScaled := figures.selling
  midRateScaled := figures.mid
  rateScale := figures.scale
  buyingDecimal := jsTrim row.buyingText
  sellingDecimal := jsTrim row.sellingText
  midRateDecimal := jsTrim row.midText
  bodyDigest := input.bodyDigest
  rowDigest := input.rowDigest
  sourceUrl := input.sourceUrl
  retrievedAt := retrievedAt
  retrievedBy := retrievedBy

/-- The observation of a retrieval, or every issue in the order they are found. -/
def validateFxSourceRow (runtime : FxSourceRuntime) (policy : FxSourceObservationPolicy) (retrievedBy : String) :
    Option FxSourceRetrievalInput → Except (List FxSourceValidationIssue) FxSourceObservation
  | none => .error [⟨"input", .missing_evidence⟩]
  | some input =>
    match input.row with
    | none => .error (retrievalIssues policy retrievedBy input ++ [⟨"row", .missing_evidence⟩])
    | some row =>
      let issues := retrievalIssues policy retrievedBy input ++ rowIssues runtime policy row input.retrievedAt ++
        ((readFigures policy row).map coherenceIssues).getD []
      match parsePublishedOn row.publishedOnText, input.retrievedAt, readFigures policy row with
      | some publishedOn, some retrievedAt, some figures =>
        if issues = [] then .ok (observationOf runtime policy retrievedBy input row publishedOn retrievedAt figures)
        else .error issues
      | _, _, _ => .error issues

/-! ## The report -/

inductive FxSourceStalenessState where
  | never
  | fresh
  | warning
  | stale

/-- `summarizeFxSourceObservation`. -/
structure FxSourceObservationSummary where
  observationKey : String
  publishedOn : String
  midRateDecimal : String
  buyingDecimal : String
  sellingDecimal : String
  rateScale : ℕ
  retrievedAt : ℤ
  bodyDigest : String
  rowDigest : String
  retrievedBy : String

def summarizeFxSourceObservation (observation : FxSourceObservation) : FxSourceObservationSummary where
  observationKey := observation.observationKey
  publishedOn := observation.publishedOn
  midRateDecimal := observation.midRateDecimal
  buyingDecimal := observation.buyingDecimal
  sellingDecimal := observation.sellingDecimal
  rateScale := observation.rateScale
  retrievedAt := observation.retrievedAt
  bodyDigest := observation.bodyDigest
  rowDigest := observation.rowDigest
  retrievedBy := observation.retrievedBy

/-- `FxSourceStalenessReport`, without its texts. -/
structure FxSourceStalenessReport where
  sourceId : String
  baseCurrency : String
  quoteCurrency : String
  state : FxSourceStalenessState
  observed : Bool
  latest : Option FxSourceObservationSummary
  previous : Option FxSourceObservationSummary
  ageSeconds : Option ℤ
  warningAfterSeconds : ℚ
  staleAfterSeconds : ℚ
  observationsRetained : ℕ
  changed : Option Bool
  midChangeDecimal : Option String
  publicationIntervalSeconds : ℚ
  pricingPolicyVersion : String
  pricingMaxAgeSeconds : ℚ
  pricingPolicySatisfiable : Bool

/-- The exact decimal difference of two integers at one scale. -/
def subtractScaled (a b : ℤ) (scale : ℕ) : String :=
  let difference := a - b
  let sign := if decide (difference < 0) then ['-'] else []
  if scale = 0 then String.ofList (sign ++ Nat.toDigits 10 difference.natAbs)
  else
    let digits := pad difference.natAbs (scale + 1)
    String.ofList (sign ++ digits.take (digits.length - scale) ++ '.' :: digits.drop (digits.length - scale))

/-- The comparison of the sort: the later publication first, then the later retrieval. -/
def comesFirst (left right : FxSourceObservation) : Prop :=
  right.publishedOn < left.publishedOn ∨
    left.publishedOn = right.publishedOn ∧ right.retrievedAt ≤ left.retrievedAt

instance : DecidableRel comesFirst := fun left right => by
  unfold comesFirst
  infer_instance

/-- `ordered`. -/
def newestFirst (observations : List FxSourceObservation) : List FxSourceObservation :=
  observations.insertionSort comesFirst

/-- What `analyzeFxSourceObservations` is given besides the observations. -/
structure AnalyzeParams where
  sourceId : String
  /-- None is an invalid `Date`. -/
  asOf : Option ℤ
  policy : FxSourceObservationPolicy
  pricingPolicy : BillingFxPolicy
  observationsRetained : Option ℕ

/-- The age of an observation, in whole seconds. -/
def ageSeconds (asOf : Option ℤ) (newest : FxSourceObservation) : Option ℤ :=
  match publishedOnInstant newest.publishedOn, asOf with
  | some instant, some asOf => some ((asOf - instant) / 1000)
  | _, _ => none

def stalenessState (policy : FxSourceObservationPolicy) (age : Option ℤ) : FxSourceStalenessState :=
  match age with
  | none => .never
  | some age =>
    if policy.staleAfterSeconds ≤ age then .stale
    else if policy.warningAfterSeconds ≤ age then .warning
    else .fresh

def analyzeFxSourceObservations (params : AnalyzeParams) (observations : List FxSourceObservation) :
    FxSourceStalenessReport :=
  let ordered := newestFirst observations
  let newest := ordered[0]?
  let previous := ordered[1]?
  let age := newest.bind (ageSeconds params.asOf)
  { sourceId := params.sourceId
    baseCurrency := params.policy.baseCurrency
    quoteCurrency := params.policy.quoteCurrency
    state := stalenessState params.policy age
    observed := newest.isSome
    latest := newest.map summarizeFxSourceObservation
    previous := previous.map summarizeFxSourceObservation
    ageSeconds := age
    warningAfterSeconds := params.policy.warningAfterSeconds
    staleAfterSeconds := params.policy.staleAfterSeconds
    observationsRetained := params.observationsRetained.getD observations.length
    changed :=
      match newest, previous with
      | some newest, some previous =>
        some (newest.midRateScaled ≠ previous.midRateScaled || newest.buyingScaled ≠ previous.buyingScaled ||
          newest.sellingScaled ≠ previous.sellingScaled)
      | _, _ => none
    midChangeDecimal :=
      match newest, previous with
      | some newest, some previous =>
        if newest.rateScale = previous.rateScale then
          some (subtractScaled newest.midRateScaled previous.midRateScaled newest.rateScale)
        else none
      | _, _ => none
    publicationIntervalSeconds := params.policy.publicationIntervalSeconds
    pricingPolicyVersion := params.pricingPolicy.version
    pricingMaxAgeSeconds := params.pricingPolicy.maxAgeSeconds
    pricingPolicySatisfiable := params.policy.publicationIntervalSeconds ≤ params.pricingPolicy.maxAgeSeconds }

end VeltrixEye.Billing.FxSources
