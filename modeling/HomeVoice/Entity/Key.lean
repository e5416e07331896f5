/-!
# Attribute keys

The names of the attributes, and of the fields of service calls, that the bridge and the hub agree
on.
-/

namespace HomeVoice.Key

abbrev deviceClass : String := "device_class"
abbrev unitOfMeasurement : String := "unit_of_measurement"
abbrev canCancel : String := "can_cancel"

abbrev brightness : String := "brightness"
abbrev brightnessPercent : String := "brightness_pct"
abbrev colorTemperature : String := "color_temp"
abbrev minMireds : String := "min_mireds"
abbrev maxMireds : String := "max_mireds"
abbrev rgbColor : String := "rgb_color"

abbrev currentPosition : String := "current_position"
abbrev position : String := "position"
abbrev speed : String := "speed"
abbrev speedList : String := "speed_list"

abbrev operationMode : String := "operation_mode"
abbrev operationList : String := "operation_list"
abbrev temperature : String := "temperature"
abbrev targetTempLow : String := "target_temp_low"
abbrev targetTempHigh : String := "target_temp_high"
abbrev currentTemperature : String := "current_temperature"
abbrev minTemp : String := "min_temp"
abbrev maxTemp : String := "max_temp"

abbrev volumeLevel : String := "volume_level"
abbrev volumeMuted : String := "is_volume_muted"
abbrev source : String := "source"
abbrev sourceList : String := "source_list"

end HomeVoice.Key
