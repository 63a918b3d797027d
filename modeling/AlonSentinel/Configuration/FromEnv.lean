import AlonSentinel.Foundation.Fallible
import AlonSentinel.Foundation.IntegerText
import AlonSentinel.Foundation.IpAddress
import AlonSentinel.Foundation.MachineIntegers
import AlonSentinel.Foundation.UnicodeText

/-! The configuration, read from environment variables. Every variable has a default except the
database URL and the webhook key, and a value that does not parse or fails a check is an error.
Addresses have 64 bits, so `usize` is `u64`.
-/

namespace AlonSentinel.Configuration

open IntegerText
open IpAddress
open MachineInteger
open UnicodeText

------------------------------------------------------------
-- Environment variables
------------------------------------------------------------

inductive VarError where
  | notPresent
  | notUnicode
  deriving DecidableEq

abbrev EnvGetter := String → Except VarError String

/-- Why a text is no list of bytes in hexadecimal. -/
inductive FromHexError where
  | oddLength
  | invalidHexCharacter (byte : UInt8) (index : Nat)
  deriving DecidableEq

inductive ConfigError where
  | message (text : String)
  | variable (error : VarError)
  | parseInt (error : ParseIntError)
  | webhookSecretEncryptionKeyHex (error : FromHexError)
  deriving DecidableEq

abbrev Reader := Except ConfigError

/-- An unsigned integer up to `upper`, or the default. -/
def parseEnvUnsignedOrDefaultWith (upper : Nat) (getEnv : EnvGetter) (key : String)
    (default : Nat)
    : Reader Nat :=
  match getEnv key with
  | .ok value =>
      match parseUnsigned upper value with
      | .ok parsed => .ok parsed
      | .error error => .error (.parseInt error)
  | .error .notPresent => .ok default
  | .error error => .error (.variable error)

/-- The check of the readers of positive numbers. -/
def requirePositive (key : String) (value : Nat) : Reader Nat :=
  if value = 0 then .error (.message s!"{key} must be greater than 0") else .ok value

def parseEnvU16OrDefaultWith (getEnv : EnvGetter) (key : String) (default : UInt16)
    : Reader UInt16 := do
  return .ofNat (← parseEnvUnsignedOrDefaultWith 65535 getEnv key default.toNat)

def parseEnvU32OrDefaultWith (getEnv : EnvGetter) (key : String) (default : UInt32)
    : Reader UInt32 := do
  return .ofNat (← parseEnvUnsignedOrDefaultWith 4294967295 getEnv key default.toNat)

def parseEnvPositiveU32OrDefaultWith (getEnv : EnvGetter) (key : String) (default : UInt32)
    : Reader UInt32 := do
  let value ← parseEnvU32OrDefaultWith getEnv key default
  return .ofNat (← requirePositive key value.toNat)

/-- The readers of `u64` and of `usize`. -/
def parseEnvU64OrDefaultWith (getEnv : EnvGetter) (key : String) (default : UInt64)
    : Reader UInt64 := do
  return .ofNat (← parseEnvUnsignedOrDefaultWith u64Max getEnv key default.toNat)

def parseEnvPositiveU64OrDefaultWith (getEnv : EnvGetter) (key : String) (default : UInt64)
    : Reader UInt64 := do
  let value ← parseEnvU64OrDefaultWith getEnv key default
  return .ofNat (← requirePositive key value.toNat)

/-- The nonblank items between commas. -/
def csvItems (value : String) : List String :=
  ((value.toList.splitOn ',').map fun item => String.ofList (trimChars item)).filter
    (!·.isEmpty)

/-- One item of a list of positive numbers. -/
def parsePositiveItem (key item : String) : Reader UInt64 :=
  match parseUnsigned u64Max item with
  | .error error => .error (.parseInt error)
  | .ok parsed =>
      if parsed = 0 then .error (.message s!"{key} values must be greater than 0")
      else .ok (.ofNat parsed)

def parseEnvPositiveU64CsvOrDefaultWith (getEnv : EnvGetter) (key : String)
    (default : List UInt64)
    : Reader (List UInt64) :=
  match getEnv key with
  | .ok value => (csvItems value).mapM (parsePositiveItem key)
  | .error .notPresent => .ok default
  | .error error => .error (.variable error)

def parseEnvBoolOrDefaultWith (getEnv : EnvGetter) (key : String) (default : Bool)
    : Reader Bool :=
  match getEnv key with
  | .ok value =>
      let value := (trim value).map Char.toLower
      if value ∈ ["1", "true", "yes", "on"] then .ok true
      else if value ∈ ["0", "false", "no", "off"] then .ok false
      else .error (.message s!"{key} must be a boolean")
  | .error .notPresent => .ok default
  | .error error => .error (.variable error)

def parseEnvIpCsvOrDefaultWith (getEnv : EnvGetter) (key : String) (default : List IpAddr)
    : Reader (List IpAddr) :=
  match getEnv key with
  | .ok value =>
      (csvItems value).mapM fun item =>
        match IpAddr.parse item with
        | some ip => .ok ip
        | none => .error (.message s!"{key} must contain valid IP addresses")
  | .error .notPresent => .ok default
  | .error error => .error (.variable error)

def parseEnvCsvOrDefaultWith (getEnv : EnvGetter) (key : String) (default : List String)
    : List String :=
  match getEnv key with
  | .ok value => csvItems value
  | .error _ => default

/-- A variable without a default. -/
def requireEnv (getEnv : EnvGetter) (key : String) : Reader String :=
  match getEnv key with
  | .ok value => .ok value
  | .error error => .error (.variable error)

------------------------------------------------------------
-- The webhook key
------------------------------------------------------------

/-- The value of a hexadecimal digit in ASCII. -/
def hexValue (byte : UInt8) (index : Nat) : Except FromHexError UInt8 :=
  if 48 ≤ byte && byte ≤ 57 then .ok (byte - 48)
  else if 97 ≤ byte && byte ≤ 102 then .ok (byte - 87)
  else if 65 ≤ byte && byte ≤ 70 then .ok (byte - 55)
  else .error (.invalidHexCharacter byte index)

/-- Decodes pairs of digits from an index on. -/
def hexPairs : Nat → List UInt8 → Except FromHexError (List UInt8)
  | index, high :: low :: rest => do
      let high ← hexValue high index
      let low ← hexValue low (index + 1)
      return (high * 16 + low) :: (← hexPairs (index + 2) rest)
  | _, _ => .ok []

def hexDecode (text : String) : Except FromHexError (List UInt8) :=
  let bytes := text.toUTF8.data.toList
  if bytes.length % 2 ≠ 0 then .error .oddLength else hexPairs 0 bytes

structure WebhookSecretEncryptionKey where
  bytes : List UInt8
  sized : bytes.length = 32
  deriving DecidableEq

def WebhookSecretEncryptionKey.fromHex (hexValue : String) : Reader WebhookSecretEncryptionKey :=
  match hexDecode (trim hexValue) with
  | .error error => .error (.webhookSecretEncryptionKeyHex error)
  | .ok bytes =>
      if sized : bytes.length = 32 then .ok ⟨bytes, sized⟩
      else .error (.message "WEBHOOK_SECRET_ENCRYPTION_KEY must be exactly 32 bytes")

def loadWebhookSecretEncryptionKeyWith (getEnv : EnvGetter)
    : Reader WebhookSecretEncryptionKey :=
  match getEnv "WEBHOOK_SECRET_ENCRYPTION_KEY" with
  | .error _ => .error (.message "WEBHOOK_SECRET_ENCRYPTION_KEY is required")
  | .ok value =>
      if (trim value).isEmpty then
        .error (.message "WEBHOOK_SECRET_ENCRYPTION_KEY is required")
      else WebhookSecretEncryptionKey.fromHex (trim value)

------------------------------------------------------------
-- The mail server
------------------------------------------------------------

structure SmtpConfig where
  host : String
  port : UInt16
  username : Option String
  password : Option String
  fromEmail : String
  fromName : Option String
  deriving DecidableEq

/-- A variable that counts as absent unless its value passes a test. -/
def optionalEnv (getEnv : EnvGetter) (key : String) (keep : String → Bool) : Option String :=
  (getEnv key).toOption.filter keep

def loadSmtpConfigWith (getEnv : EnvGetter) : Reader (Option SmtpConfig) :=
  match getEnv "SMTP_HOST" with
  | .error .notPresent => .ok none
  | .error error => .error (.variable error)
  | .ok host =>
      if (trim host).isEmpty then .ok none
      else do
        let port ← parseEnvU16OrDefaultWith getEnv "SMTP_PORT" 587
        let fromEmail ← requireEnv getEnv "SMTP_FROM_EMAIL"
        return some
          { host
            port
            username := optionalEnv getEnv "SMTP_USERNAME" fun value => !(trim value).isEmpty
            password := optionalEnv getEnv "SMTP_PASSWORD" fun value => !value.isEmpty
            fromEmail
            fromName := optionalEnv getEnv "SMTP_FROM_NAME" fun value => !(trim value).isEmpty }

------------------------------------------------------------
-- The configuration
------------------------------------------------------------

structure Config where
  databaseUrl : String
  apiBindAddress : String
  accessTokenTtlSeconds : UInt64
  corsAllowedOrigins : List String
  dbMaxConnections : UInt32
  dbMinConnections : UInt32
  dbAcquireTimeoutSeconds : UInt64
  dbIdleTimeoutSeconds : UInt64
  dbMaxLifetimeSeconds : UInt64
  apiDbMaxConnections : UInt32
  apiDbMinConnections : UInt32
  workerDbMaxConnections : UInt32
  workerDbMinConnections : UInt32
  workerMaxPollIntervalMs : UInt64
  siteWorkerCount : UInt64
  maxHttpConcurrentChecks : UInt64
  dueSitesBatchSize : UInt64
  leaseSiteCheckSeconds : UInt64
  httpCheckTimeoutSeconds : UInt64
  httpCheckMaxResponseBodyBytes : UInt64
  httpCheckMaxAttempts : UInt64
  httpCheckRetryDelaysMs : List UInt64
  httpCheckRetryJitterPercent : UInt64
  siteMonitorCheckRetentionDays : UInt64
  siteMonitorCheckRetentionIntervalSeconds : UInt64
  siteMonitorCheckRetentionBatchSize : UInt64
  dueNotificationBatchSize : UInt64
  maxNotificationConcurrentDeliveries : UInt64
  leaseNotificationDeliverySeconds : UInt64
  notificationDeliveryTimeoutSeconds : UInt64
  notificationMaxAttempts : UInt64
  notificationRetryBaseSeconds : UInt64
  authRateLimitMaxRequests : UInt64
  authRateLimitWindowSeconds : UInt64
  trustProxyHeaders : Bool
  trustedProxyIps : List IpAddr
  cookieSecure : Bool
  httpMonitorAllowPrivateTargets : Bool
  webhookSecretEncryptionKey : WebhookSecretEncryptionKey
  smtp : Option SmtpConfig
  deriving DecidableEq

/-- A check that either passes or fails with a message. -/
def require (passes : Bool) (text : String) : Reader Unit :=
  if passes then .ok () else .error (.message text)

def validateDbPoolSettings (maxConnections minConnections : UInt32) : Reader Unit :=
  require (minConnections ≤ maxConnections)
    "DB_MIN_CONNECTIONS must be less than or equal to DB_MAX_CONNECTIONS"

def validateTrustedProxySettings (trustProxyHeaders : Bool) (trustedProxyIps : List IpAddr)
    : Reader Unit :=
  require (!(trustProxyHeaders && trustedProxyIps.isEmpty))
    "TRUSTED_PROXY_IPS is required when TRUST_PROXY_HEADERS is enabled"

def validateHttpCheckRetryPolicy (maxAttempts : UInt64) (retryDelaysMs : List UInt64)
    : Reader Unit :=
  let requiredRetryCount := maxAttempts.toNat - 1
  require (requiredRetryCount ≤ retryDelaysMs.length)
    (s!"HTTP_CHECK_RETRY_DELAYS_MS must provide at least {requiredRetryCount} delay values for "
      ++ s!"HTTP_CHECK_MAX_ATTEMPTS={maxAttempts}")

def validateHttpCheckRetryJitterPercent (jitterPercent : UInt64) : Reader Unit :=
  require (jitterPercent ≤ 100) "HTTP_CHECK_RETRY_JITTER_PERCENT must be between 0 and 100"

def defaultCorsAllowedOrigins : List String :=
  ["http://127.0.0.1:5173", "http://localhost:5173", "http://127.0.0.1:4173",
    "http://localhost:4173"]

/-- `Config::from_env_getter`; `Config::from_env` applies it to the process environment. -/
def Config.fromEnvGetter (getEnv : EnvGetter) : Reader Config := do
  let databaseUrl ← requireEnv getEnv "DATABASE_URL"
  let apiBindAddress := (getEnv "API_BIND_ADDRESS").toOption.getD "127.0.0.1:3000"
  let positive := parseEnvPositiveU64OrDefaultWith getEnv
  let accessTokenTtlSeconds ← positive "ACCESS_TOKEN_TTL_SECONDS" 3600
  let corsAllowedOrigins :=
    parseEnvCsvOrDefaultWith getEnv "CORS_ALLOWED_ORIGINS" defaultCorsAllowedOrigins
  let dbMaxConnections ← parseEnvPositiveU32OrDefaultWith getEnv "DB_MAX_CONNECTIONS" 20
  let dbMinConnections ← parseEnvU32OrDefaultWith getEnv "DB_MIN_CONNECTIONS" 2
  let dbAcquireTimeoutSeconds ← positive "DB_ACQUIRE_TIMEOUT_SECONDS" 5
  let dbIdleTimeoutSeconds ← positive "DB_IDLE_TIMEOUT_SECONDS" 600
  let dbMaxLifetimeSeconds ← positive "DB_MAX_LIFETIME_SECONDS" 1800
  let apiDbMaxConnections ←
    parseEnvPositiveU32OrDefaultWith getEnv "API_DB_MAX_CONNECTIONS" dbMaxConnections
  let apiDbMinConnections ←
    parseEnvU32OrDefaultWith getEnv "API_DB_MIN_CONNECTIONS" dbMinConnections
  let workerDbMaxConnections ←
    parseEnvPositiveU32OrDefaultWith getEnv "WORKER_DB_MAX_CONNECTIONS" dbMaxConnections
  let workerDbMinConnections ←
    parseEnvU32OrDefaultWith getEnv "WORKER_DB_MIN_CONNECTIONS" dbMinConnections
  let workerMaxPollIntervalMs ← positive "WORKER_MAX_POLL_INTERVAL_MS" 5000
  let siteWorkerCount ← positive "SITE_WORKER_COUNT" 3
  let maxHttpConcurrentChecks ← positive "MAX_HTTP_CONCURRENT_CHECKS" 10
  let dueSitesBatchSize ← positive "DUE_SITES_BATCH_SIZE" 100
  let leaseSiteCheckSeconds ← positive "LEASE_SITE_CHECK_SECONDS" 60
  let httpCheckTimeoutSeconds ← positive "HTTP_CHECK_TIMEOUT_SECONDS" 10
  let httpCheckMaxResponseBodyBytes ← positive "HTTP_CHECK_MAX_RESPONSE_BODY_BYTES" 65536
  let httpCheckMaxAttempts ← positive "HTTP_CHECK_MAX_ATTEMPTS" 3
  let httpCheckRetryDelaysMs ←
    parseEnvPositiveU64CsvOrDefaultWith getEnv "HTTP_CHECK_RETRY_DELAYS_MS" [1000, 3000]
  let httpCheckRetryJitterPercent ←
    parseEnvU64OrDefaultWith getEnv "HTTP_CHECK_RETRY_JITTER_PERCENT" 20
  let siteMonitorCheckRetentionDays ← positive "SITE_MONITOR_CHECK_RETENTION_DAYS" 90
  let siteMonitorCheckRetentionIntervalSeconds ←
    positive "SITE_MONITOR_CHECK_RETENTION_INTERVAL_SECONDS" 3600
  let siteMonitorCheckRetentionBatchSize ←
    positive "SITE_MONITOR_CHECK_RETENTION_BATCH_SIZE" 5000
  let dueNotificationBatchSize ← positive "DUE_NOTIFICATION_BATCH_SIZE" 100
  let maxNotificationConcurrentDeliveries ←
    positive "MAX_NOTIFICATION_CONCURRENT_DELIVERIES" 10
  let leaseNotificationDeliverySeconds ← positive "LEASE_NOTIFICATION_DELIVERY_SECONDS" 60
  let notificationDeliveryTimeoutSeconds ←
    positive "NOTIFICATION_DELIVERY_TIMEOUT_SECONDS" 10
  let notificationMaxAttempts ← positive "NOTIFICATION_MAX_ATTEMPTS" 5
  let notificationRetryBaseSeconds ← positive "NOTIFICATION_RETRY_BASE_SECONDS" 30
  let authRateLimitMaxRequests ← positive "AUTH_RATE_LIMIT_MAX_REQUESTS" 10
  let authRateLimitWindowSeconds ← positive "AUTH_RATE_LIMIT_WINDOW_SECONDS" 60
  let trustProxyHeaders ← parseEnvBoolOrDefaultWith getEnv "TRUST_PROXY_HEADERS" false
  let trustedProxyIps ← parseEnvIpCsvOrDefaultWith getEnv "TRUSTED_PROXY_IPS" []
  let cookieSecure ← parseEnvBoolOrDefaultWith getEnv "COOKIE_SECURE" true
  let httpMonitorAllowPrivateTargets ←
    parseEnvBoolOrDefaultWith getEnv "HTTP_MONITOR_ALLOW_PRIVATE_TARGETS" false
  validateDbPoolSettings dbMaxConnections dbMinConnections
  validateDbPoolSettings apiDbMaxConnections apiDbMinConnections
  validateDbPoolSettings workerDbMaxConnections workerDbMinConnections
  validateHttpCheckRetryPolicy httpCheckMaxAttempts httpCheckRetryDelaysMs
  validateHttpCheckRetryJitterPercent httpCheckRetryJitterPercent
  validateTrustedProxySettings trustProxyHeaders trustedProxyIps
  let webhookSecretEncryptionKey ← loadWebhookSecretEncryptionKeyWith getEnv
  let smtp ← loadSmtpConfigWith getEnv
  return {
    databaseUrl, apiBindAddress, accessTokenTtlSeconds, corsAllowedOrigins, dbMaxConnections,
    dbMinConnections, dbAcquireTimeoutSeconds, dbIdleTimeoutSeconds, dbMaxLifetimeSeconds,
    apiDbMaxConnections, apiDbMinConnections, workerDbMaxConnections, workerDbMinConnections,
    workerMaxPollIntervalMs, siteWorkerCount, maxHttpConcurrentChecks, dueSitesBatchSize,
    leaseSiteCheckSeconds, httpCheckTimeoutSeconds, httpCheckMaxResponseBodyBytes,
    httpCheckMaxAttempts, httpCheckRetryDelaysMs, httpCheckRetryJitterPercent,
    siteMonitorCheckRetentionDays, siteMonitorCheckRetentionIntervalSeconds,
    siteMonitorCheckRetentionBatchSize, dueNotificationBatchSize,
    maxNotificationConcurrentDeliveries, leaseNotificationDeliverySeconds,
    notificationDeliveryTimeoutSeconds, notificationMaxAttempts, notificationRetryBaseSeconds,
    authRateLimitMaxRequests, authRateLimitWindowSeconds, trustProxyHeaders, trustedProxyIps,
    cookieSecure, httpMonitorAllowPrivateTargets, webhookSecretEncryptionKey, smtp }

------------------------------------------------------------
-- Positive settings
------------------------------------------------------------

theorem parseEnvPositiveU64OrDefaultWith_ne_zero {getEnv : EnvGetter} {key : String}
    {default value : UInt64}
    (parsed : parseEnvPositiveU64OrDefaultWith getEnv key default = .ok value)
    : value ≠ 0 := by
  unfold parseEnvPositiveU64OrDefaultWith at parsed
  simp only [Fallible.bind_eq_ok] at parsed
  obtain ⟨read, _, checked, isPositive, same⟩ := parsed
  unfold requirePositive at isPositive
  split at isPositive
  · cases isPositive
  · rename_i positive
    cases isPositive
    cases same
    rintro zero
    rw [UInt64.ofNat_toNat] at zero
    exact positive (congrArg UInt64.toNat zero)

/-- The settings that casts and clock arithmetic use, which are all read as positive numbers. -/
structure Config.PositiveSettings (config : Config) : Prop where
  accessTokenTtl : config.accessTokenTtlSeconds ≠ 0
  concurrentChecks : config.maxHttpConcurrentChecks ≠ 0
  dueSites : config.dueSitesBatchSize ≠ 0
  leaseSiteCheck : config.leaseSiteCheckSeconds ≠ 0
  retentionDays : config.siteMonitorCheckRetentionDays ≠ 0
  retentionInterval : config.siteMonitorCheckRetentionIntervalSeconds ≠ 0
  retentionBatch : config.siteMonitorCheckRetentionBatchSize ≠ 0
  dueNotifications : config.dueNotificationBatchSize ≠ 0
  concurrentDeliveries : config.maxNotificationConcurrentDeliveries ≠ 0
  maxAttempts : config.notificationMaxAttempts ≠ 0
  retryBase : config.notificationRetryBaseSeconds ≠ 0

theorem Config.positiveSettings {getEnv : EnvGetter} {config : Config}
    (accepted : Config.fromEnvGetter getEnv = .ok config)
    : config.PositiveSettings := by
  have ensures : Fallible.Ensures (Config.fromEnvGetter getEnv) Config.PositiveSettings := by
    simp only [Config.fromEnvGetter]
    refine .bind fun _ _ => .bind fun _ ttl => ?_
    iterate 11 refine .bind fun _ _ => ?_
    refine .bind fun _ checks => .bind fun _ sites => .bind fun _ lease => ?_
    iterate 5 refine .bind fun _ _ => ?_
    refine .bind fun _ days => .bind fun _ interval => .bind fun _ batch => ?_
    refine .bind fun _ notifications => .bind fun _ deliveries => ?_
    iterate 2 refine .bind fun _ _ => ?_
    refine .bind fun _ attempts => .bind fun _ base => ?_
    iterate 14 refine .bind fun _ _ => ?_
    exact .pure
      { accessTokenTtl := parseEnvPositiveU64OrDefaultWith_ne_zero ttl
        concurrentChecks := parseEnvPositiveU64OrDefaultWith_ne_zero checks
        dueSites := parseEnvPositiveU64OrDefaultWith_ne_zero sites
        leaseSiteCheck := parseEnvPositiveU64OrDefaultWith_ne_zero lease
        retentionDays := parseEnvPositiveU64OrDefaultWith_ne_zero days
        retentionInterval := parseEnvPositiveU64OrDefaultWith_ne_zero interval
        retentionBatch := parseEnvPositiveU64OrDefaultWith_ne_zero batch
        dueNotifications := parseEnvPositiveU64OrDefaultWith_ne_zero notifications
        concurrentDeliveries := parseEnvPositiveU64OrDefaultWith_ne_zero deliveries
        maxAttempts := parseEnvPositiveU64OrDefaultWith_ne_zero attempts
        retryBase := parseEnvPositiveU64OrDefaultWith_ne_zero base }
  exact ensures config accepted
------------------------------------------------------------
-- A small environment
------------------------------------------------------------

/-- The variables that have no default. -/
def requiredVariables : List (String × String) :=
  [("DATABASE_URL", "postgres://db"),
    ("WEBHOOK_SECRET_ENCRYPTION_KEY",
      "00112233445566778899aabbccddeeff00112233445566778899aabbccddeeff")]

/-- An environment with the required variables and some others. -/
def environmentWith (others : List (String × String)) : EnvGetter := fun key =>
  match (others ++ requiredVariables).lookup key with
  | some value => .ok value
  | none => .error .notPresent

end AlonSentinel.Configuration
