/-!
# Thermostat modes

The modes that hubs know, each with the mode of the protocol that it is reported as. Several modes
of the hub are reported as one; their order says which of them is preferred.
-/

namespace HomeVoice.ThermostatMode

/-- The modes of the hub with their modes of the protocol. -/
def table : List (String × String) := [
  ("heat", "HEAT"), ("cool", "COOL"), ("auto", "AUTO"), ("eco", "ECO"), ("off", "OFF"),
  ("idle", "OFF"), ("fan_only", "OFF"), ("dry", "OFF")]

/-- The mode of the protocol that a mode of the hub is reported as. -/
def reported? (mode : String) : Option String :=
  (table.find? fun entry => entry.1 = mode).map Prod.snd

/-- The preferred mode of the hub for a mode of the protocol, among those that are supported. -/
def choose? (supported : List String) (requested : String) : Option String :=
  (table.find? fun entry => entry.2 = requested && supported.contains entry.1).map Prod.fst

end HomeVoice.ThermostatMode
