/-!
What the host offers the hardware layer: no GPIO character device and no IIO ADC.
-/
namespace Evse.Hardware

/-- The device path of a chip name. -/
def chipPath (chip : String) : String :=
  if chip.startsWith "/" then chip else "/dev/" ++ chip

/-- Paths that exist on the host but are no GPIO chip. -/
def existingPaths : List String :=
  ["/dev/null", "/dev/zero", "/dev/full", "/dev/random", "/dev/urandom", "/dev/tty", "/dev", "/",
   "/tmp", "/etc"]

/-- Why opening a chip fails. -/
def chipOpenError (chip : String) : String :=
  let path := chipPath chip
  if existingPaths.contains path then "not a character device"
  else s!"lstat {path}: no such file or directory"

/-- The sysfs file of an ADC channel. -/
def adcPath (device : String) (channel : Int) : String :=
  s!"/sys/bus/iio/devices/{device}/in_voltage{channel}_raw"

/-- Reading an ADC channel fails: the host has no IIO devices. -/
def readAdc (device : String) (channel : Int) : Except String Int :=
  .error s!"ADC sysfs not found: {adcPath device channel}"

end Evse.Hardware
