import DatabaseTypes.Decimal.Binary
import DatabaseTypes.Text.Basic

/-!
# Settings

* `Level`                                   how serious a log message is
* `LogFormat`, `LogOutput`, `LogSettings`   where log messages go
* `GeneratorSettings`                       what is generated, and where to
* `FormatterSettings`                       the formatting pass
* `Settings`                                all of them
-/

namespace DatabaseTypes

/-! ## levels -/

/-- how serious a log message is -/
inductive Level where
  | debug
  | info
  | warning
  | error
  | critical
  deriving DecidableEq

namespace Level

/-- the levels, least serious first -/
def all : List Level := [.debug, .info, .warning, .error, .critical]

/-- a number that grows with the level -/
def number : Level → Nat
  | .debug => 10
  | .info => 20
  | .warning => 30
  | .error => 40
  | .critical => 50

/-- the name of a level in settings -/
def name : Level → Text
  | .debug => "DEBUG"
  | .info => "INFO"
  | .warning => "WARNING"
  | .error => "ERROR"
  | .critical => "CRITICAL"

/-- the name of a level in messages -/
def word : Level → Text
  | .debug => "debug"
  | .info => "info"
  | .warning => "warning"
  | .error => "error"
  | .critical => "critical"

/-- the level of a name -/
def ofName? (name : Text) : Option Level := all.find? (·.name == name)

/-- does a message of level `l` pass where `threshold` is asked for? -/
def passes (threshold l : Level) : Bool := threshold.number ≤ l.number

end Level

/-! ## settings -/

/-- how log messages are written -/
inductive LogFormat where
  | json
  | console
  deriving DecidableEq

/-- the name of a format in settings -/
def LogFormat.name : LogFormat → Text
  | .json => "json"
  | .console => "console"

/-- one output for log messages; without a level of its own it has that of the whole log -/
structure LogOutput where
  format : LogFormat := .console
  destination : Text := "stderr"
  level : Option Level := none
  deriving DecidableEq

/-- the settings of the log -/
structure LogSettings where
  level : Level := .warning
  outputs : List LogOutput := [{}]
  deriving DecidableEq

/-- the settings of the generator -/
structure GeneratorSettings where
  documentation : Bool := true
  output : Option Text := none
  deriving DecidableEq

/-- the formatter that is run unless another one is set -/
def standardFormatter : List Text := ["npx", "--no-install", "prettier", "--parser", "typescript"]

/-- half a minute -/
def standardTimeout : Binary64 := .ofInt 30

/-- the longest time that a formatter may be given -/
def longestTimeout : Binary64 := .ofInt 600

/-- the settings of the formatting pass -/
structure FormatterSettings where
  enabled : Bool := false
  command : List Text := standardFormatter
  timeout : Binary64 := standardTimeout
  deriving DecidableEq

/-- all settings -/
structure Settings where
  logging : LogSettings := {}
  generator : GeneratorSettings := {}
  formatting : FormatterSettings := {}
  deriving DecidableEq

end DatabaseTypes
