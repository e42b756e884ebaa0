import Provisioning.Error
import Provisioning.Text.Blank
import Provisioning.Text.Dotted
import Provisioning.Timing

/-!
The timing settings that a user may change through the environment, with their defaults and checks.
-/

namespace Provisioning

/-- These settings are milliseconds, and each of them has to be positive. -/
structure TimingConfig where
  pollInterval : UInt64
  waitTimeout : UInt64
  initialRetrySpan : UInt64
  bootRetrySpan : UInt64
  shutdownRetrySpan : UInt64
  initialRequestTimeout : UInt64
  deriving DecidableEq, Repr

instance : Inhabited TimingConfig := ⟨⟨5000, 1200000, 20000, 20000, 20000, 30000⟩⟩

namespace TimingConfig

/-- A setting has a description, a variable, a key of a settings file, and a place in the record. -/
structure Setting where
  description : String
  variableName : String
  fileKey : String
  get : TimingConfig → UInt64
  set : UInt64 → TimingConfig → TimingConfig

/-- The settings are checked in this order. -/
def settings : List Setting :=
  [⟨"poll interval", "KUMO_POLL_INTERVAL_MS", "poll_interval_ms",
      pollInterval, fun value config => { config with pollInterval := value }⟩,
    ⟨"wait timeout", "KUMO_WAIT_TIMEOUT_MS", "wait_timeout_ms",
      waitTimeout, fun value config => { config with waitTimeout := value }⟩,
    ⟨"initial retry span", "KUMO_INITIAL_RETRY_SPAN_MS", "initial_retry_span_ms",
      initialRetrySpan, fun value config => { config with initialRetrySpan := value }⟩,
    ⟨"boot retry span", "KUMO_BOOT_RETRY_SPAN_MS", "boot_retry_span_ms",
      bootRetrySpan, fun value config => { config with bootRetrySpan := value }⟩,
    ⟨"shutdown retry span", "KUMO_SHUTDOWN_RETRY_SPAN_MS", "shutdown_retry_span_ms",
      shutdownRetrySpan, fun value config => { config with shutdownRetrySpan := value }⟩,
    ⟨"initial request timeout", "KUMO_INITIAL_REQUEST_TIMEOUT_MS", "initial_request_timeout_ms",
      initialRequestTimeout, fun value config => { config with initialRequestTimeout := value }⟩]

/-- This message tells the user where to change a setting that must not be zero. -/
def Setting.zeroMessage (setting : Setting) : String :=
  s!"{setting.description} must be greater than zero: set {setting.variableName} " ++
    s!"or the top-level {setting.fileKey} key in kumo.toml"

/-- The first setting that is zero makes the configuration invalid. -/
def validate (config : TimingConfig) : Except ConfigError Unit :=
  settings.forM fun setting =>
    if setting.get config = 0 then throw (.invalid setting.zeroMessage) else pure ()

def timing (config : TimingConfig) : Except ConfigError Timing := do
  config.validate
  return {
    wait := ⟨config.pollInterval.toNat, config.waitTimeout.toNat⟩
    power := ⟨config.initialRetrySpan.toNat, config.bootRetrySpan.toNat,
      config.shutdownRetrySpan.toNat, config.initialRequestTimeout.toNat⟩ }

/-- Blanks around a number do not count, nor does a sign that leaves the number as it is. -/
def numeralOf (text : String) : List Char :=
  match Text.trimmed text.toList with
  | '+' :: digits => digits
  | '-' :: digits => if digits.all (· == '0') then digits else '-' :: digits
  | digits => digits

/-- A value is a decimal number of 64 bits. -/
def readValue? (text : String) : Option UInt64 :=
  let digits := numeralOf text
  if digits.isEmpty || !digits.all Char.isDigit then none
  else
    let number := digits.foldl (fun sum digit => 10 * sum + (digit.toNat - '0'.toNat)) 0
    if number < UInt64.size then some (UInt64.ofNat number) else none

/-- Two underscores in the name of a variable stand for a dot. -/
def withDots : List Char → List Char
  | '_' :: '_' :: rest => '.' :: withDots rest
  | char :: rest => char :: withDots rest
  | [] => []

def variablePrefix : String := "KUMO_"

/-- A variable names a key by the rest of its name; dots lead to a part of the value of that key. -/
def pathOf? (name : String) : Option (List String) :=
  let chars := Text.trimmed name.toList
  let (start, rest) := chars.splitAt variablePrefix.length
  let path := Text.splitAtDots (Text.trimmed (withDots rest))
  if start.map Char.toUpper = variablePrefix.toList ∧ [] ∉ path then
    some (path.map fun part => String.ofList (part.map Char.toLower))
  else none

/-- A variable that sets a key counts, and so does one that sets a part of it. -/
def setsKey (key : String) (entry : String × String) : Bool :=
  (pathOf? entry.1).any fun path => path.head? == some key

/-- The last variable that sets a key decides, and parts of a number are not a number. -/
def valueOf? (environment : List (String × String)) (key : String) :
    Option (Except ConfigError UInt64) :=
  (environment.reverse.find? (setsKey key)).map fun (name, text) =>
    match readValue? text, pathOf? name with
    | some value, some [_] => .ok value
    | _, _ => .error (.unreadable s!"{key} is not a number: {text}")

/-- A variable that is set replaces the default of its setting. -/
def ofEnvironment (environment : List (String × String)) : Except ConfigError TimingConfig :=
  settings.foldlM
    (fun config setting =>
      match valueOf? environment setting.fileKey with
      | none => pure config
      | some value => (setting.set · config) <$> value)
    default

end TimingConfig

/-- The timing comes from the environment and the defaults. -/
def Timing.ofEnvironment (environment : List (String × String)) : Except ProvisionError Timing :=
  (TimingConfig.ofEnvironment environment >>= TimingConfig.timing).mapError ProvisionError.config

end Provisioning
