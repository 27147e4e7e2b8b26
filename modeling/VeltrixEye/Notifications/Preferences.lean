import VeltrixEye.Notifications.Secrets
import VeltrixEye.Notifications.Worker
import VeltrixEye.Lib.JsonText

/-!
# Notification preferences (`notifications/preferences.ts`)

* `PreferenceInput`, `accepted` — the two requests that save a preference and their schemas.
* `upsertRow` — the statement both run: an insert that merges into the row of the user and the channel.
* `deliveryTargets` — where an alert goes, with the secret of each target.
-/

namespace VeltrixEye.Notifications

/-! ## Requests -/

structure NotificationPreferenceRequest where
  channel : NotificationChannel
  enabled : Bool
  endpointUrl : Option String
  signingSecret : Option String

structure PushSubscriptionKeys where
  p256dh : String
  auth : String

structure PushSubscriptionRequest where
  endpoint : String
  keys : PushSubscriptionKeys

inductive PreferenceInput where
  | preference (input : NotificationPreferenceRequest)
  | pushSubscription (input : PushSubscriptionRequest)

/-- `z.string().url()`, and of `JSON.parse`, when it does not raise, whether `p256dh` and `auth` of its
    value are strings. -/
structure PreferenceChecks where
  isUrl : String → Bool
  parsedKeys : String → Option Bool

inductive PreferenceFailure where
  | invalidInput (message : String)
  /-- The statement violates a constraint. -/
  | database

/-- The length of a JavaScript string. -/
def jsLength (s : String) : ℕ := (JsonText.utf16 s).length

/-- `startsWith('https://')`. -/
def isHttps (url : String) : Bool := "https://".toList.isPrefixOf url.toList

/-- `/^[A-Za-z0-9_-]+={0,2}$/`. -/
def isBase64url (s : String) : Bool :=
  let body := s.toList.takeWhile fun c => c.isAlphanum || c = '_' || c = '-'
  let rest := s.toList.dropWhile fun c => c.isAlphanum || c = '_' || c = '-'
  body ≠ [] && rest.all (· = '=') && rest.length ≤ 2

def notificationPreferenceRequestSchema (checks : PreferenceChecks) (v : NotificationPreferenceRequest) :
    Bool :=
  v.endpointUrl.all (fun url => checks.isUrl url && jsLength url ≤ 2048) &&
    v.signingSecret.all (fun secret => 1 ≤ jsLength secret && jsLength secret ≤ 4096) &&
    (v.channel = .email || v.endpointUrl.all fun url => url = "" || isHttps url)

def pushSubscriptionRequestSchema (checks : PreferenceChecks) (v : PushSubscriptionRequest) : Bool :=
  checks.isUrl v.endpoint && jsLength v.endpoint ≤ 2048 && isHttps v.endpoint &&
    20 ≤ jsLength v.keys.p256dh && jsLength v.keys.p256dh ≤ 512 && isBase64url v.keys.p256dh &&
    10 ≤ jsLength v.keys.auth && jsLength v.keys.auth ≤ 512 && isBase64url v.keys.auth

/-- What the push branch of `validateChannelPreference` says of the keys. -/
def keysRefused (checks : PreferenceChecks) (secret : String) : Option String :=
  if secret = "" then none
  else match checks.parsedKeys secret with
    | none => some "Push subscription keys must be valid JSON with p256dh and auth"
    | some false => some "Push subscription keys must include p256dh and auth"
    | some true => none

/-- `validateChannelPreference`: the message of the exception it raises. -/
def validateChannelPreference (checks : PreferenceChecks) (v : NotificationPreferenceRequest) :
    Option String :=
  match v.channel with
  | .webhook =>
    if v.endpointUrl.all (· = "") then some "A webhook endpoint URL is required"
    else if v.endpointUrl.any fun url => !isHttps url then some "Webhook endpoints must use HTTPS"
    else none
  | .push =>
    if v.endpointUrl.all (· = "") then some "A push endpoint URL is required"
    else if v.endpointUrl.any fun url => !isHttps url then some "Push endpoints must use HTTPS"
    else v.signingSecret.bind (keysRefused checks)
  | .email =>
    if v.endpointUrl.isSome || v.signingSecret.isSome then
      some "Email preferences do not accept webhook fields"
    else none

/-- `JSON.stringify(value.keys)`. -/
def keysJson (keys : PushSubscriptionKeys) : String :=
  String.ofList ('{' :: (JsonText.quote "p256dh" ++ ':' :: JsonText.quote keys.p256dh ++ ',' ::
    JsonText.quote "auth" ++ ':' :: JsonText.quote keys.auth ++ ['}']))

def PreferenceInput.channel : PreferenceInput → NotificationChannel
  | .preference input => input.channel
  | .pushSubscription _ => .push

def PreferenceInput.enabled : PreferenceInput → Bool
  | .preference input => input.enabled
  | .pushSubscription _ => true

def PreferenceInput.endpointUrl : PreferenceInput → Option String
  | .preference input => input.endpointUrl
  | .pushSubscription input => some input.endpoint

/-- The secret a request saves. -/
def PreferenceInput.secret : PreferenceInput → Option String
  | .preference input => input.signingSecret
  | .pushSubscription input => some (keysJson input.keys)

/-- The checks before the statement. -/
def PreferenceInput.refused (checks : PreferenceChecks) : PreferenceInput → Option String
  | .preference input =>
    if notificationPreferenceRequestSchema checks input then validateChannelPreference checks input
    else some "Invalid notification preference"
  | .pushSubscription input =>
    if pushSubscriptionRequestSchema checks input then none else some "Invalid push subscription"

/-! ## The table -/

structure PreferenceRow where
  id : Uuid
  userId : Uuid
  channel : NotificationChannel
  enabled : Bool
  endpointUrl : Option String
  secrets : SecretColumns

/-- The `CHECK`s of a row. -/
def PreferenceRow.storable (row : PreferenceRow) : Bool :=
  row.endpointUrl.all (textWithin 8 2048) && (row.channel = .email || row.endpointUrl.isSome) &&
    row.secrets.storable

/-- The unique key of the table. -/
def PreferenceRow.isOf (row : PreferenceRow) (userId : Uuid) (channel : NotificationChannel) : Bool :=
  row.userId = userId && row.channel = channel

/-- The secret columns of `DO UPDATE`: a new ciphertext clears the plaintext, and a request without a
    secret keeps the old one. -/
def mergedSecrets (old excluded : SecretColumns) : SecretColumns where
  signingSecret :=
    if excluded.signingSecretEncrypted.isSome then none else excluded.signingSecret.or old.signingSecret
  signingSecretEncrypted := excluded.signingSecretEncrypted.or old.signingSecretEncrypted
  signingSecretKeyVersion := excluded.signingSecretKeyVersion.or old.signingSecretKeyVersion

/-- A row after `DO UPDATE`. -/
def merged (excluded row : PreferenceRow) : PreferenceRow :=
  { row with
    enabled := excluded.enabled
    endpointUrl := excluded.endpointUrl
    secrets := mergedSecrets row.secrets excluded.secrets }

/-- `INSERT … ON CONFLICT (user_id, channel) DO UPDATE`. -/
def upsertRow (row : PreferenceRow) (prefs : List PreferenceRow) :
    Except PreferenceFailure (List PreferenceRow) :=
  if !row.storable then .error .database
  else if prefs.any (·.isOf row.userId row.channel) then
    if (prefs.filter (·.isOf row.userId row.channel)).all fun old => (merged row old).storable then
      .ok (prefs.map fun old => if old.isOf row.userId row.channel then merged row old else old)
    else .error .database
  else .ok (prefs ++ [row])

/-- `upsert` and `upsertPushSubscription`. -/
def savePreference (checks : PreferenceChecks) (manager : Option SecretManager) (iv : Iv) (id userId : Uuid)
    (input : PreferenceInput) (prefs : List PreferenceRow) : Except PreferenceFailure (List PreferenceRow) :=
  match input.refused checks with
  | some message => .error (.invalidInput message)
  | none =>
    upsertRow ⟨id, userId, input.channel, input.enabled, input.endpointUrl,
      encryptSecret manager iv input.secret⟩ prefs

def removePreference (userId : Uuid) (channel : NotificationChannel) (prefs : List PreferenceRow) :
    List PreferenceRow := prefs.filter fun row => !row.isOf userId channel

/-! ### What the checks leave -/

theorem length_le_jsLength (text : String) : text.length ≤ jsLength text := by
  unfold jsLength JsonText.utf16
  rw [← String.length_toList]
  induction text.toList with
  | nil => exact Nat.zero_le _
  | cons c cs ih =>
    have hpos := List.length_pos_of_ne_nil (JsonText.utf16Char_ne_nil c)
    rw [List.flatMap_cons, List.length_append, List.length_cons]
    omega

theorem textWithin_url {url : String} (hlength : jsLength url ≤ 2048) (hhttps : isHttps url = true) :
    textWithin 8 2048 url = true := by
  have hstart := (List.isPrefixOf_iff_prefix.mp hhttps).length_le
  rw [String.length_toList] at hstart
  simp only [textWithin, Bool.and_eq_true, decide_eq_true_eq]
  exact ⟨hstart, (length_le_jsLength url).trans hlength⟩

theorem validate_secret {checks : PreferenceChecks} {input : NotificationPreferenceRequest} {secret : String}
    (haccepted : validateChannelPreference checks input = none) (hsecret : input.signingSecret = some secret) :
    input.channel ≠ .email ∧ ∃ url, input.endpointUrl = some url ∧ isHttps url = true := by
  unfold validateChannelPreference at haccepted
  rw [hsecret] at haccepted
  cases hurl : input.endpointUrl with
  | none =>
    rw [hurl] at haccepted
    split at haccepted <;> cases haccepted
  | some url =>
    rw [hurl] at haccepted
    split at haccepted
    · rename_i hchannel
      split at haccepted
      · cases haccepted
      split at haccepted
      · cases haccepted
      · rename_i hhttps
        exact ⟨by rw [hchannel]; decide, url, rfl, by simpa using hhttps⟩
    · rename_i hchannel
      split at haccepted
      · cases haccepted
      split at haccepted
      · cases haccepted
      · rename_i hhttps
        exact ⟨by rw [hchannel]; decide, url, rfl, by simpa using hhttps⟩
    · cases haccepted

theorem accepted_secret {checks : PreferenceChecks} {input : PreferenceInput} {secret : String}
    (haccepted : input.refused checks = none) (hsecret : input.secret = some secret) :
    input.channel ≠ .email ∧ secret ≠ "" ∧
      ∃ url, input.endpointUrl = some url ∧ textWithin 8 2048 url = true := by
  cases input with
  | preference input =>
    simp only [PreferenceInput.refused] at haccepted
    split at haccepted
    · rename_i hschema
      simp only [notificationPreferenceRequestSchema, Bool.and_eq_true] at hschema
      obtain ⟨⟨hendpoint, hsecretLength⟩, -⟩ := hschema
      obtain ⟨hchannel, url, hurl, hhttps⟩ := validate_secret haccepted (by rw [← hsecret]; rfl)
      rw [show input.signingSecret = some secret from hsecret] at hsecretLength
      rw [hurl] at hendpoint
      simp only [Option.all_some, Bool.and_eq_true, decide_eq_true_eq] at hendpoint hsecretLength
      refine ⟨hchannel, ?_, url, hurl, textWithin_url hendpoint.2 hhttps⟩
      rintro rfl
      exact absurd hsecretLength.1 (by decide)
    · cases haccepted
  | pushSubscription input =>
    simp only [PreferenceInput.refused] at haccepted
    split at haccepted
    · rename_i hschema
      simp only [pushSubscriptionRequestSchema, Bool.and_eq_true, decide_eq_true_eq] at hschema
      obtain rfl := Option.some.inj hsecret
      exact ⟨NotificationChannel.noConfusion, by simp [keysJson], _, rfl, textWithin_url (by tauto) (by tauto)⟩
    · cases haccepted

/-! ## Targets -/

structure SettingsRow where
  quietHoursStartMinute : Option ℕ
  quietHoursEndMinute : Option ℕ
  quietHoursTimezone : String

structure StrategyRow where
  muted : Bool
  channels : Option (List NotificationChannel)

structure NotificationDeliveryTarget where
  channel : NotificationChannel
  recipient : String
  signingSecret : Option String

/-- What `deliveryTargets` reads besides the preferences: the settings of the user, the route of the
    strategy, the address of the user and the minute of the day in a time zone, if there is such a zone. -/
structure TargetContext where
  settings : Option SettingsRow
  route : Option StrategyRow
  email : Option String
  minute : String → Option ℕ

def isQuiet (ctx : TargetContext) (start stop : ℕ) (timezone : String) : Except PreferenceFailure Bool :=
  match ctx.minute timezone with
  | none => .error (.invalidInput "Invalid quiet-hours timezone")
  | some minute =>
    .ok (if start < stop then start ≤ minute && minute < stop else start ≤ minute || minute < stop)

/-- The quiet hours of the user, if any are set. -/
def quietNow (ctx : TargetContext) : Except PreferenceFailure Bool :=
  match ctx.settings with
  | some ⟨some start, some stop, timezone⟩ => isQuiet ctx start stop timezone
  | _ => .ok false

def StrategyRow.allows (route : Option StrategyRow) (channel : NotificationChannel) : Bool :=
  (route.bind (·.channels)).all (·.contains channel)

/-- The preferences of the user that name a destination, `ORDER BY channel`. -/
def routedRows (userId : Uuid) (prefs : List PreferenceRow) : List PreferenceRow :=
  [.email, .push, .webhook].flatMap fun channel => prefs.filter fun row =>
    row.isOf userId channel && (channel = .email || (row.enabled && row.endpointUrl.isSome))

/-- The target of a preference. -/
def targetOf (manager : Option SecretManager) (row : PreferenceRow) : NotificationDeliveryTarget :=
  ⟨row.channel, row.endpointUrl.getD "", decryptSecret manager row.secrets⟩

def deliveryTargets (manager : Option SecretManager) (ctx : TargetContext) (userId : Uuid)
    (prefs : List PreferenceRow) : Except PreferenceFailure (List NotificationDeliveryTarget) := do
  if ← quietNow ctx then return []
  if ctx.route.any (·.muted) then return []
  let rows := routedRows userId prefs
  let targets := ((rows.filter fun row => row.enabled && StrategyRow.allows ctx.route row.channel).map
    (targetOf manager)).filter fun target => target.channel = .email || target.recipient ≠ ""
  match ctx.email with
  | some email =>
    if !rows.any (·.channel = .email) && StrategyRow.allows ctx.route .email then
      return ⟨.email, email, none⟩ :: targets
    else return targets
  | none => return targets

end VeltrixEye.Notifications
