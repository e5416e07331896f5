import HomeVoice.Hub.Declaration
import HomeVoice.Hub.Table
import HomeVoice.Measure.Temperature

/-!
# Demonstration entities

A virtual hub for which no entities are declared has one of each kind that the assistant can
control.
-/

namespace HomeVoice

namespace Hub

/-- A declaration with its attributes in any order. -/
def demoEntity (id state : String) (attributes : List (String × Json)) : EntityDeclaration :=
  ⟨id, state, Dict.ofEntries attributes⟩

/-- The declarations of the demonstration entities. -/
def demo : List EntityDeclaration := [
  demoEntity "switch.virtual_switch" "off" [
    ("friendly_name", .str "Virtual Switch")],
  demoEntity "light.virtual_light" "off" [
    ("friendly_name", .str "Virtual Light"),
    ("supported_features", .int 19),
    ("brightness", .int 0),
    ("color_temp", .int 300),
    ("min_mireds", .int 153),
    ("max_mireds", .int 500)],
  demoEntity "cover.garage_door" "closed" [
    ("friendly_name", .str "Garage Door"),
    ("device_class", .str "garage"),
    ("supported_features", .int 7),
    ("current_position", .int 0)],
  demoEntity "fan.ceiling_fan" "off" [
    ("friendly_name", .str "Ceiling Fan"),
    ("supported_features", .int 1),
    ("speed", .str "off"),
    ("speed_list", .ofStrings ["off", "low", "medium", "high"])],
  demoEntity "climate.hallway" "heat" [
    ("friendly_name", .str "Hallway"),
    ("supported_features", .int 135),
    ("operation_mode", .str "heat"),
    ("operation_list", .ofStrings ["heat", "cool", "auto", "off"]),
    ("temperature", .float 21),
    ("target_temp_low", .float 18),
    ("target_temp_high", .float 24),
    ("current_temperature", .float 20.5),
    ("min_temp", .int 7),
    ("max_temp", .int 35)],
  demoEntity "lock.front_door" "locked" [
    ("friendly_name", .str "Front Door")],
  demoEntity "media_player.living_room" "idle" [
    ("friendly_name", .str "Living Room"),
    ("supported_features", .int 23997),
    ("volume_level", .float 0.3),
    ("is_volume_muted", .bool false),
    ("source", .str "TV"),
    ("source_list", .ofStrings ["TV", "HDMI 1", "Bluetooth"])],
  demoEntity "scene.movie_night" "scening" [
    ("friendly_name", .str "Movie Night")],
  demoEntity "script.good_night" "off" [
    ("friendly_name", .str "Good Night"),
    ("can_cancel", .bool true)],
  demoEntity "sensor.virtual_temperature" "21.5" [
    ("friendly_name", .str "Virtual Temperature"),
    ("unit_of_measurement", .str TemperatureUnit.celsius.symbol)],
  demoEntity "group.downstairs" "off" [
    ("friendly_name", .str "Downstairs")]]

end Hub

/-- The table of declared entities, or of the demonstration entities when none are declared. The
first declaration with a malformed id is the one that is refused. -/
def EntityTable.ofDeclarations (now : Timestamp) (declared : List EntityDeclaration) :
    Except HubError EntityTable :=
  let declared := if declared.isEmpty then Hub.demo else declared
  match declared.mapM fun d => d.toEntity now with
  | .ok entities => .ok (ofEntities entities)
  | .error cause => .error (.validation cause)

end HomeVoice
