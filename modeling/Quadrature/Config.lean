/-
# Quadrature.Config -- the settings of a run

A configuration names the free variable, says whether an odd number of partitions is made even
where the rule needs that, and sets the level of the log. Its two texts are checked when it is
built, so every `Config` is a good one. Settings can come from the environment.
-/
import Quadrature.Recorded
import Quadrature.Text.Blank
import Quadrature.Text.Identifier
import Quadrature.Text.Quoted
import Quadrature.Text.UpperCase

namespace Quadrature

set_option autoImplicit false

open Quadrature.Text

/-- Why settings make no configuration. -/
inductive ConfigError where
  | notIdentifier (name : String)
  | unknownLevel (name : String)
  /-- A setting that is on or off has another value. -/
  | notSwitch (setting value : String)
deriving DecidableEq, Repr

/-- The wording of an error. -/
def ConfigError.message : ConfigError → String
  | .notIdentifier name => "variable must be an identifier, got " ++ quoted name
  | .unknownLevel name =>
    "log_level must be one of [" ++ ", ".intercalate (Level.all.map fun l => quoted l.name) ++
      "], got " ++ quoted name
  | .notSwitch setting value =>
    setting ++ " must be a boolean (1/0, true/false, yes/no, on/off), got " ++ quoted value

/-- The level that a text names in any case. -/
def Level.ofText? (s : String) : Option Level := Level.ofName? (upperString s)

/-- The settings of a run. -/
structure Config where
  variableName : String
  /-- An odd number of partitions is raised by one where the rule needs an even number. -/
  simpsonAutoIncrement : Bool
  /-- The level of the log as it was written. -/
  levelName : String
  isIdentifier_variableName : isIdentifier variableName.toList = true
  isSome_level : (Level.ofText? levelName).isSome = true

namespace Config

/-- The free variable unless another is chosen. -/
def defaultVariableName : String := "x"

/-- The level of the log unless another is chosen. -/
def defaultLevelName : String := "WARNING"

/-- The configuration with given settings. -/
def build (variableName : String) (simpsonAutoIncrement : Bool) (levelName : String) :
    Except ConfigError Config :=
  if hv : isIdentifier variableName.toList then
    if hl : (Level.ofText? levelName).isSome then
      .ok ⟨variableName, simpsonAutoIncrement, levelName, hv, hl⟩
    else .error (.unknownLevel levelName)
  else .error (.notIdentifier variableName)

/-- The level of the log. -/
def level (c : Config) : Level := (Level.ofText? c.levelName).get c.isSome_level

/-! ## The environment -/

/-- The words for on. -/
def onWords : List String := ["1", "true", "yes", "on"]

/-- The words for off. -/
def offWords : List String := ["0", "false", "no", "off"]

/-- The value of a switch, in either case and with blanks around it. -/
def readSwitch (setting value : String) : Except ConfigError Bool :=
  let word := String.ofList ((trim value.toList).map Char.toLower)
  if onWords.contains word then .ok true
  else if offWords.contains word then .ok false
  else .error (.notSwitch setting value)

/-- The setting for the free variable. -/
def variableSetting : String := "NUMINT_VARIABLE"

/-- The setting for the number of partitions. -/
def incrementSetting : String := "NUMINT_SIMPSON_AUTO_INCREMENT"

/-- The setting for the log. -/
def levelSetting : String := "NUMINT_LOG_LEVEL"

/-- The configuration that the environment asks for. -/
def ofEnvironment (environment : String → Option String) : Except ConfigError Config := do
  let name := trimString ((environment variableSetting).getD defaultVariableName)
  let level := upperString (trimString ((environment levelSetting).getD defaultLevelName))
  let increment ← match environment incrementSetting with
    | some value => readSwitch incrementSetting value
    | none => pure true
  build name increment level

/-- The configuration with another free variable and another level, as far as they are given. -/
def override (c : Config) (variableName levelName : Option String) : Except ConfigError Config :=
  build (variableName.getD c.variableName) c.simpsonAutoIncrement
    ((levelName.map upperString).getD c.levelName)

/-- The settings that hold unless others are chosen. -/
def standard : Config :=
  ⟨defaultVariableName, true, defaultLevelName, by decide +kernel, by decide +kernel⟩

end Config

end Quadrature
