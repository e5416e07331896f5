import HomeVoice.Bridge.Control.Basic

/-!
# Percentages of covers and fans

A cover takes a percentage as its position, a fan takes the speed that the percentage selects.
-/

namespace HomeVoice.Control

/-- The call that sets a percentage. -/
def percentageCall (s : Situation) (percentage : Int64) : Except Refusal ServiceCall :=
  match s.entity.domain with
  | .cover => .ok ((s.call "set_cover_position").withData Key.position (.ofInt64 percentage))
  | .fan =>
    .ok ((s.call "set_speed").withData Key.speed (.str (s.entity.speedTable.speedFor percentage)))
  | domain => .error (.withoutPercentage domain)

/-- Sets a percentage. -/
def percentageOutcome (s : Situation) (percentage : Int64) : Except Refusal Outcome :=
  (percentageCall s percentage).map fun call =>
    (Outcome.respond call).withReading .percentage "percentage" (.ofInt64 percentage)

/-- The percentage that an entity has now. -/
def currentPercentage (s : Situation) : Except Refusal Int64 :=
  match s.entity.domain with
  | .cover =>
    let attributes := s.entity.attributes
    match attributes.requireInt Key.currentPosition, attributes.int? Key.position with
    | .ok n, _ => .ok n
    | .error _, some n => .ok n
    | .error fault, none => .error (.unusable s.entity.id fault)
  | .fan => .ok s.entity.speedPercentage
  | _ => .ok 0

/-- Sets the percentage asked for. -/
def setPercentage (s : Situation) : Except Refusal Outcome :=
  (s.percentArgument "percentage").bind (percentageOutcome s)

/-- Changes the percentage as asked for. -/
def adjustPercentage (s : Situation) : Except Refusal Outcome := do
  let delta ← s.payload.requireInt "percentageDelta"
  let current ← currentPercentage s
  percentageOutcome s (Percent.shift current delta)

end HomeVoice.Control
