/-!
The digital lines of a supply point and the pins they sit on.
-/
namespace Evse.Hardware

def relay : String := "relay"
def ledGreen : String := "led_green"
def ledYellow : String := "led_yellow"
def ledRed : String := "led_red"
def button : String := "button"
def pilot : String := "cp"

/-- The output lines, in the order they are set up. -/
def outputs : List String := [relay, ledGreen, ledYellow, ledRed]

/-- The input lines, in the order they are set up. -/
def inputs : List String := [button, pilot]

/-- A chip and the offset of each line on it. -/
structure Pins where
  chip : String
  relay : Int
  ledGreen : Int
  ledYellow : Int
  ledRed : Int
  button : Int
  pilot : Int
deriving DecidableEq, Repr

/-- The offsets by line name. -/
def Pins.offsets (p : Pins) : List (String × Int) :=
  [(Hardware.relay, p.relay), (Hardware.ledGreen, p.ledGreen), (Hardware.ledYellow, p.ledYellow),
   (Hardware.ledRed, p.ledRed), (Hardware.button, p.button), (Hardware.pilot, p.pilot)]

/-- The error of writing a line that is not an output. -/
def unknownOutput (channel : String) : String := s!"unknown digital output channel: {channel}"

/-- The error of reading a line that is not an input. -/
def unknownInput (channel : String) : String := s!"unknown digital input channel: {channel}"

end Evse.Hardware
