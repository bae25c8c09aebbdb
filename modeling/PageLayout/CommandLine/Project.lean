import PageLayout.CommandLine.Error
import PageLayout.Settings
import PageLayout.Yaml.Reader

/-!
# Project settings

A project can keep its settings in a file: properties, the tags that are wanted
if none are asked for, and settings of the compilation and of the check.  All of
them can be left out, but nothing else may be in the file.
-/

namespace PageLayout

/-- The settings of a project. -/
structure Project where
  /-- Properties that lines can refer to. -/
  properties : Table String
  /-- The tags that are wanted if none are asked for. -/
  tags : List String
  /-- The settings of the compilation. -/
  settings : Settings
  /-- The settings of the check. -/
  checkSettings : CheckSettings

/-- The settings of a compilation. -/
def Settings.ofYaml? (y : Yaml) : Option Settings := do
  let default : Settings := {}
  match ← y.parts? ["approximation", "drop_empty_sections"] with
  | [approximation, drop] =>
      return ⟨← approximation.withDefault Yaml.toFloat? default.approximation,
        ← drop.withDefault Yaml.toBool? default.dropEmptySections⟩
  | _ => none

/-- The settings of a check. -/
def CheckSettings.ofYaml? (y : Yaml) : Option CheckSettings := do
  let default : CheckSettings := {}
  match ← y.parts? ["max_component_depth"] with
  | [depth] => return ⟨← depth.withDefault Yaml.toNat? default.maxComponentDepth⟩
  | _ => none

namespace Project

/-- The settings of a project without a file. -/
def standard : Project := ⟨.empty, [], {}, {}⟩

/-- The names of the parts of a file with settings. -/
def partNames : List String := ["properties", "tags", "reader", "validation"]

/-- The settings that a value stands for. -/
def ofYaml? (y : Yaml) : Option Project :=
  if !y.hasOnly partNames then none
  else do
    match ← y.parts? partNames with
    | [properties, tags, settings, checkSettings] =>
        return ⟨← properties.withDefault (Yaml.toTable? Yaml.toText?) .empty,
          ← tags.withDefault (Yaml.toList? Yaml.toText?) [],
          ← settings.withDefault Settings.ofYaml? {},
          ← checkSettings.withDefault CheckSettings.ofYaml? {}⟩
    | _ => none

/-- The settings that a text spells.  The tolerance of approximate lengths is a
number that is not below zero. -/
def ofText (text : String) : Except CommandError Project :=
  match (Yaml.read? text).bind ofYaml? with
  | none => .error .malformedSettings
  | some p =>
      let tolerance := p.settings.approximation
      if tolerance < 0.0 || !Number.isFinite tolerance then .error (.badApproximation tolerance)
      else .ok p

end Project

end PageLayout
