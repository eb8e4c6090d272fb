import GrowthGauge.Field.Reading
import GrowthGauge.Text.Piece

namespace GrowthGauge

/-! ## Settings

The service is configured by environment variables. A variable's name counts in
any case, and of two variables that differ in case only the later one counts. -/

inductive LogLevel
  | debug
  | info
  | warning
  | error
deriving Repr, DecidableEq

namespace LogLevel

def all : List LogLevel :=
  [.debug, .info, .warning, .error]

def text : LogLevel → String
  | debug => "DEBUG"
  | info => "INFO"
  | warning => "WARNING"
  | error => "ERROR"

def ofText (text : Text) : Checked LogLevel :=
  .ofOption .notAmongChoices (all.find? (·.text.toList == text))

end LogLevel

structure Settings where
  host : String
  port : Int
  debug : Bool
  logLevel : LogLevel
  apiKey : String
  model : String
  timeoutSeconds : Double
  maxTokens : Int
  temperature : Double
  maxCodeLength : Int
  allowedOrigins : String
deriving Repr, DecidableEq

namespace Settings

def defaultModel : String :=
  "meta-llama/llama-4-scout-17b-16e-instruct"

def defaultMaxTokens : Nat := 500

def defaultTemperature : Double :=
  .ofDecimal false 2 (-1)

/-- The longest code that a request may carry, in characters. -/
def defaultMaxCodeLength : Nat := 50000

/-- The value of the last variable of this name. -/
def valueOf? (environment : List (String × String)) (name : String) : Option String :=
  (environment.reverse.find? fun entry =>
    Text.lowered entry.1.toList == Text.lowered name.toList).map Prod.snd

def field (default : α) (read : Text → Checked α) (name : String)
    (environment : List (String × String)) : Checked α :=
  match valueOf? environment name with
  | some value => (read value.toList).within name
  | none => .valid default

def asIs (text : Text) : Checked String :=
  .valid (String.ofList text)

def ofEnvironment (environment : List (String × String)) : Checked Settings :=
  Settings.mk
    <$> field "0.0.0.0" asIs "HOST" environment
    <*> field 8000 Field.integerOfText "PORT" environment
    <*> field false Field.boolOfText "DEBUG" environment
    <*> field .info LogLevel.ofText "LOG_LEVEL" environment
    <*> field "" asIs "GROQ_API_KEY" environment
    <*> field defaultModel asIs "GROQ_MODEL" environment
    <*> field (.ofDecimal false 60 0) Field.doubleOfText "GROQ_TIMEOUT_SECONDS" environment
    <*> field (defaultMaxTokens : Int) Field.integerOfText "MAX_TOKENS" environment
    <*> field defaultTemperature Field.doubleOfText "TEMPERATURE" environment
    <*> field (defaultMaxCodeLength : Int) Field.integerOfText "MAX_CODE_LENGTH" environment
    <*> field "*" asIs "ALLOWED_ORIGINS" environment

/-! ### Origins

The allowed origins are listed with commas between them. Blanks around an origin
and empty places do not count, and a star anywhere allows every origin. -/

def originsOf (text : Text) : List Text :=
  let origins := ((Text.pieces ',' text).map Text.strip).filter (!·.isEmpty)
  if origins.contains ['*'] then [['*']] else origins

def origins (settings : Settings) : List Text :=
  originsOf settings.allowedOrigins.toList

example : originsOf " a , ,b".toList = [['a'], ['b']] := by decide +kernel

example : originsOf "a, *".toList = [['*']] := by decide +kernel

end Settings

/-- A key that is blank is as good as none. -/
def isUsableKey (key : String) : Bool :=
  !Text.isAllBlank key.toList

/-- The assistant can be asked when a key is set. -/
def Settings.hasAssistant (settings : Settings) : Bool :=
  isUsableKey settings.apiKey

end GrowthGauge
