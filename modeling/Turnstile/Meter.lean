import Turnstile.Outcome
import Turnstile.Text.Digits

namespace Turnstile

/-! What metrics show of the readings recorded so far. A counter adds up, a gauge shows
the last number it was set to and nothing before that. -/

/-- Everything that a call records: a reading for each of its events, and its own. -/
def Outcome.recorded {World : Type} (outcome : Outcome World) : List Reading :=
  outcome.events.map (fun event => .event event.kind) ++ outcome.readings

namespace Meter

/-! ## Counters -/

/-- How often a reading was recorded. -/
def total (readings : List Reading) (reading : Reading) : Nat :=
  readings.count reading

def outcomeName : (admitted : Bool) → String
  | true => "admitted"
  | false => "rejected"

def label (name value : String) : String :=
  name ++ "=\"" ++ value ++ "\""

def series (name : String) (labels : List String) : String :=
  name ++ "\x7b" ++ ",".intercalate labels ++ "\x7d"

/-- The counter that adds up a reading, if one does. -/
def counter? : Reading → Option String
  | .decision operation admitted =>
      some (series "gate_admissions_total"
        [label "operation" operation.name, label "outcome" (outcomeName admitted)])
  | .rejection reason => some (series "gate_rejections_total" [label "reason" reason])
  | .event kind => some (series "gate_events_total" [label "kind" kind])
  | .trackedPositions _ => none
  | .whitelistMembers _ => none

/-! ## Gauges -/

def trackedPositions? (readings : List Reading) : Option Nat :=
  (readings.filterMap fun
    | .trackedPositions count => some count
    | _ => none).getLast?

def whitelistMembers? (readings : List Reading) : Option Nat :=
  (readings.filterMap fun
    | .whitelistMembers count => some count
    | _ => none).getLast?

/-! ## The report -/

def line (name : String) (number : Nat) : String :=
  name ++ " " ++ Text.decimal number

def counterLines (readings : List Reading) : List String :=
  readings.eraseDups.filterMap fun reading =>
    (counter? reading).map fun name => line name (total readings reading)

def gaugeLines (readings : List Reading) : List String :=
  ((trackedPositions? readings).map (line "gate_tracked_principals")).toList ++
  ((whitelistMembers? readings).map (line "gate_whitelist_members")).toList

/-- One line for each counter and gauge, in alphabetical order. -/
def lines (readings : List Reading) : List String :=
  (counterLines readings ++ gaugeLines readings).mergeSort fun left right =>
    decide (left ≤ right)

end Meter

end Turnstile
