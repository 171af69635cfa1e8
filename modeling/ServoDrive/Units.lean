import ServoDrive.Config.Basic
import ServoDrive.Binary
import ServoDrive.Record.Rx

/-!
# Units and commands

Scale factors from physical units to the drive's integers, and commands in physical units, which
become drive setpoints through them.
-/

/-!
## Units

Scale factors from physical units to the drive's integers, one per quantity:

| quantity | physical unit | drive unit              |
|----------|---------------|-------------------------|
| position | rad           | encoder counts          |
| velocity | rad/s         | encoder counts per s    |
| current  | A             | ‰ of the rated current  |
| torque   | N·m           | ‰ of the rated current  |
| voltage  | V             | mV                      |

A factor of zero means the calibration is not known: converting through it gives zero, never an
infinite or NaN value. A physical value goes to the drive as the nearest integer of
`value * factor`, a half away from zero, clamped to the field's range (NaN gives zero); a drive
integer comes back as `raw / factor`.
-/

namespace ServoDrive

structure Factors where
  position : Float
  velocity : Float
  current : Float
  torque : Float
  voltage : Float
  deriving Inhabited

namespace Factors

/-- A full turn in radians, the binary64 value nearest to 2π. -/
def turn : Float := Float.ofBits 0x401921FB54442D18

/-- The factors of a configuration: counts per radian from the encoder resolution; per mille of
the rated current per ampere, zero while the rated current is unknown; the torque factor through
the motor constant and the gear, zero where that is not finite; millivolts per volt. -/
def ofConfig (c : Configuration) : Factors :=
  let position := c.encoderResolution.toNat.toFloat / turn
  let current := match c.motorRatedCurrent with
    | some rated => if 0 < rated then 1000 / rated else 0
    | none => 0
  let torque := current / c.motorConstant / c.gearRatio
  { position, velocity := position, current,
    torque := if torque.isFinite then torque else 0, voltage := 1000 }

/-- Factors of one: commands given in drive units. -/
def unit : Factors := ⟨1, 1, 1, 1, 1⟩

/-- Factors of zero: nothing calibrated. -/
def zero : Factors := ⟨0, 0, 0, 0, 0⟩

end Factors

/-- A physical value as a signed 32-bit drive integer. -/
def toRawI32 (value factor : Float) : Int32 := IntRounding.nearestAway.toInt32 (value * factor)
/-- A physical value as a signed 16-bit drive integer. -/
def toRawI16 (value factor : Float) : Int16 := IntRounding.nearestAway.toInt16 (value * factor)
/-- A physical value as an unsigned 16-bit drive integer. -/
def toRawU16 (value factor : Float) : UInt16 := IntRounding.nearestAway.toUInt16 (value * factor)

/-- A drive value in physical units; zero when the factor is zero. -/
def fromRaw (raw factor : Float) : Float := if factor == 0 then 0 else raw / factor

end ServoDrive

/-!
## Commands

Setpoints in physical units: position in rad, velocity in rad/s, torques in N·m at the gearbox
output, current in A on the motor side. Target torque and target current drive the same setpoint
of the drive and add up. A command becomes drive setpoints through the calibration factors; a
command without a torque limit takes the configuration's maximum torque.
-/

namespace ServoDrive

structure Command where
  targetPosition : Float := 0
  targetVelocity : Float := 0
  targetTorque : Float := 0
  targetCurrent : Float := 0
  maxTorque : Option Float := none
  torqueOffset : Float := 0
  mode : Option OperationMode := none
  deriving Inhabited

/-- The drive setpoints of a command: position and velocity through their factors, the torque
setpoint as `torque * torque factor + current * current factor` rounded as is, the limit and the
offset through the torque factor. -/
def Command.toSetpoints (c : Command) (f : Factors) (defaultMaxTorque : Float) : Setpoints :=
  { targetPosition := toRawI32 c.targetPosition f.position
    targetVelocity := toRawI32 c.targetVelocity f.velocity
    targetTorque := toRawI16 (c.targetTorque * f.torque + c.targetCurrent * f.current) 1
    maxTorque := toRawU16 (c.maxTorque.getD defaultMaxTorque) f.torque
    torqueOffset := toRawI16 c.torqueOffset f.torque }

end ServoDrive
