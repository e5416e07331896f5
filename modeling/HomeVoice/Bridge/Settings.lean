import HomeVoice.Exposure
import HomeVoice.Measure.Temperature
import HomeVoice.Protocol.Category

/-!
# Settings of the bridge

What is exposed, how single entities are presented, and the unit in which the hub keeps
temperatures.
-/

namespace HomeVoice

/-- How an entity is presented instead of how it would be. -/
structure Presentation where
  name : Option String
  description : Option String
  category : Option DisplayCategory
  deriving DecidableEq

namespace Presentation

/-- The presentation as JSON. -/
def toJson (p : Presentation) : Json :=
  .object [
    ("name", .ofString? p.name),
    ("description", .ofString? p.description),
    ("display_categories", .ofString? (p.category.map DisplayCategory.name))]

/-- A presentation in a data format. -/
def decode (format : DataFormat) : Decoder Presentation :=
  Record.decodeIn format "Presentation"
    (Presentation.mk <$> .defaulted "name" (.optional Decoder.string) none
      <*> .defaulted "description" (.optional Decoder.string) none
      <*> .defaulted "display_categories" (.optional (DisplayCategory.decode format)) none)

end Presentation

/-- The settings of the bridge. -/
structure Settings where
  exposure : Exposure
  presentations : Dict Presentation
  unit : TemperatureUnit
  deriving DecidableEq

/-- How an entity is presented, when the settings say so. -/
def Settings.presentation? (s : Settings) (id : EntityId) : Option Presentation :=
  s.presentations.get? id.text

end HomeVoice
