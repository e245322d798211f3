import Mathlib.Algebra.Group.Nat.Defs
import SelfWriter.Lib.NorMemory

/-!
# The QSPI flash driver

`QSpiDriver` (`qspi_storage/qspi_driver.rs`) with the MT25QU01GBBB8E12
functions of its configuration, over a model of the chip and of the QSPI
controller's two modes.  The device is an array of bytes addressed by the
extender register and a 24-bit address.

Which commands get through, which programs succeed and how long the chip stays
busy is decided by a `World`, indexed by the number of commands sent before.
-/

namespace SelfWriter.Qspi

open SelfWriter.Lib.NorMemory

inductive QspiError where
  | busy
  | unknown
  deriving DecidableEq, Repr

/-- Commands on the bus. -/
inductive Command where
  | wakeUp
  | enterDeepSleep
  | writeEnable
  | writeAddrExtanderReg (value : UInt8)
  | qioFastProgramm (address : Nat) (block : List UInt8)
  | dieErase (address : Nat)
  | readFlagStatus
  | qioFastRead (address length : Nat)
  deriving DecidableEq, Repr

/-- The part of `FlashConfig` that the driver computes with. -/
structure FlashConfig where
  writeMaxBytes : Nat
  qspiFlashSizeCode : Nat
  dieCount : Nat
  dieSize : Nat

def FlashConfig.capacity (self : FlashConfig) : Nat :=
  2 ^ (self.qspiFlashSizeCode + 1)

/-- `FLASH_CONFIGS[0]`. -/
def mt25qu01gbbb8e12 : FlashConfig where
  writeMaxBytes := 256
  qspiFlashSizeCode := 26
  dieCount := 2
  dieSize := 128 * 1024 * 1024

theorem writeMaxBytes_eq : mt25qu01gbbb8e12.writeMaxBytes = 256 :=
  rfl

/-! ## The chip -/

/-- What the driver cannot know beforehand of its `index`-th command. -/
structure World where
  /-- The command gets through; otherwise it has no effect. -/
  transfers : Nat → Bool
  /-- The program or erase that it starts succeeds. -/
  succeeds : Nat → Bool
  /-- Status reads until that program or erase is over. -/
  busyPolls : Nat → Nat
  /-- Cells left behind by that program or erase if it fails. -/
  residue : Nat → Cells

/-- `writes` lists every byte ever programmed, in order. -/
structure Chip where
  cells : Cells
  writes : List Write
  extender : UInt8
  deepPowerDown : Bool
  writeEnableLatch : Bool
  busyPolls : Nat
  programFailure : Bool

namespace Chip

/-- The device byte behind a 24-bit address. -/
def linear (chip : Chip) (address : Nat) : Nat :=
  chip.extender.toNat * 2 ^ 24 + address

/-- One program command writes inside one 256-byte program page and wraps
around inside it. -/
def pageWrites (chip : Chip) (address : Nat) (block : List UInt8) :
    List Write :=
  block.zipIdx.map (fun byte =>
    (chip.linear (address - address % 256 + (address + byte.2) % 256), byte.1))

def programPage (world : World) (index : Nat) (chip : Chip) (address : Nat)
    (block : List UInt8) : Chip :=
  { chip with
    cells :=
      if world.succeeds index then
        program chip.cells (chip.pageWrites address block)
      else
        world.residue index
    writes := chip.writes ++ chip.pageWrites address block
    writeEnableLatch := false
    busyPolls := world.busyPolls index
    programFailure := chip.programFailure || !world.succeeds index }

def erasePage (world : World) (index : Nat) (chip : Chip) (address size : Nat) :
    Chip :=
  { chip with
    cells :=
      if world.succeeds index then
        fun cell =>
          if chip.linear address ≤ cell ∧ cell < chip.linear address + size then
            erasedByte
          else
            chip.cells cell
      else
        world.residue index
    writeEnableLatch := false
    busyPolls := world.busyPolls index }

def executeAwake (world : World) (index : Nat) (chip : Chip) :
    Command → Chip
  | .wakeUp => chip
  | .enterDeepSleep => { chip with deepPowerDown := true }
  | .writeEnable => { chip with writeEnableLatch := true }
  | .writeAddrExtanderReg value =>
      if chip.writeEnableLatch then
        { chip with extender := value, writeEnableLatch := false }
      else
        chip
  | .qioFastProgramm address block =>
      if chip.writeEnableLatch then
        chip.programPage world index address block
      else
        chip
  | .dieErase address =>
      if chip.writeEnableLatch then
        chip.erasePage world index address mt25qu01gbbb8e12.dieSize
      else
        chip
  | .readFlagStatus => { chip with busyPolls := chip.busyPolls - 1 }
  | .qioFastRead _ _ => chip

/-- A chip in deep power-down answers only to the wake-up command. -/
def executeAsleep (chip : Chip) (command : Command) : Chip :=
  if command = .wakeUp then { chip with deepPowerDown := false } else chip

def execute (world : World) (index : Nat) (chip : Chip) (command : Command) :
    Chip :=
  if chip.deepPowerDown then chip.executeAsleep command
  else chip.executeAwake world index command

theorem execute_of_asleep {world : World} {index : Nat} {chip : Chip}
    (asleep : chip.deepPowerDown = true) (command : Command) :
    chip.execute world index command = chip.executeAsleep command :=
  if_pos asleep

theorem execute_of_awake {world : World} {index : Nat} {chip : Chip}
    (awake : chip.deepPowerDown = false) (command : Command) :
    chip.execute world index command =
      chip.executeAwake world index command :=
  if_neg (by rw [awake]; exact Bool.false_ne_true)

end Chip

/-! ## The driver -/

inductive SleepState where
  | slepping
  | waiting
  | working
  deriving DecidableEq, Repr

/-- A command with the modes in which it was sent. -/
structure Sent where
  command : Command
  deepPowerDown : Bool
  memoryMapped : Bool

/-- The driver together with the controller's mode, the chip behind it, and
the commands sent so far, the latest first. -/
structure QSpiDriver where
  chip : Chip
  memoryMapped : Bool
  extenderValue : UInt8
  sleepState : SleepState
  sleepTimerArmed : Bool
  sent : List Sent

abbrev DriverM := EStateM QspiError QSpiDriver

/-- The part of the flag status register that the driver looks at. -/
structure StatusFlags where
  progOrEraseCtrl : Bool
  programFailure : Bool

namespace QSpiDriver

def logged (driver : QSpiDriver) (command : Command) : QSpiDriver :=
  { driver with
    sent :=
      { command := command
        deepPowerDown := driver.chip.deepPowerDown
        memoryMapped := driver.memoryMapped } :: driver.sent }

section Operations

variable (world : World)

/-- `qspi.write` and `qspi.transfer`. -/
def send (command : Command) : DriverM Unit := fun driver =>
  if world.transfers driver.sent.length then
    .ok ()
      { driver.logged command with
        chip := driver.chip.execute world driver.sent.length command }
  else
    .error .unknown (driver.logged command)

def setMemoryMappingMode (enable : Bool) : DriverM Unit := do
  let driver ← get
  if enable = driver.memoryMapped then
    pure ()
  else if enable = true then do
    send world (.qioFastRead 0 1)
    modify (fun driver => { driver with memoryMapped := true })
  else
    modify (fun driver => { driver with memoryMapped := false })

def cancelMemoryMapping : DriverM Unit := do
  let driver ← get
  if driver.memoryMapped = true then setMemoryMappingMode world false
  else pure ()

def readStatus : DriverM StatusFlags := do
  let driver ← get
  send world .readFlagStatus
  pure
    { progOrEraseCtrl := driver.chip.busyPolls = 0
      programFailure := driver.chip.programFailure }

/-- The configuration's `is_busy`. -/
def configIsBusy : DriverM Bool := do
  let status ← readStatus world
  pure (!status.progOrEraseCtrl)

def isBusy : DriverM Bool := do
  cancelMemoryMapping world
  configIsBusy world

def checkWriteOk : DriverM Unit := do
  let status ← readStatus world
  if status.programFailure = true then throw .unknown else pure ()

/-- A `while` loop around a status read; the chip is busy for `busyPolls` of
them. -/
def pollWhileBusy (poll : DriverM Bool) : Nat → DriverM Unit
  | 0 => pure ()
  | polls + 1 => do
      let busy ← poll
      if busy = true then pollWhileBusy poll polls else pure ()

def waitWhileBusy (poll : DriverM Bool) : DriverM Unit := do
  let driver ← get
  pollWhileBusy poll (driver.chip.busyPolls + 1)

def writeEnable : DriverM Unit :=
  send world .writeEnable

def setAddrExtender (extenderValue : UInt8) : DriverM Unit := do
  let driver ← get
  if driver.extenderValue ≠ extenderValue then do
    cancelMemoryMapping world
    writeEnable world
    send world (.writeAddrExtanderReg extenderValue)
    modify (fun driver => { driver with extenderValue := extenderValue })
  else
    pure ()

def wakeUp : DriverM Unit := do
  let driver ← get
  if driver.sleepState = .slepping then do
    cancelMemoryMapping world
    send world .wakeUp
    modify (fun driver => { driver with sleepState := .working })
  else
    modify (fun driver => { driver with sleepState := .working })

def wantSleep : DriverM Unit :=
  modify (fun driver =>
    if driver.sleepState = .working then
      { driver with sleepState := .waiting, sleepTimerArmed := true }
    else
      driver)

def enterSleep : DriverM Unit := do
  cancelMemoryMapping world
  send world .enterDeepSleep
  modify (fun driver => { driver with sleepState := .slepping })

/-- The callback of the `FlashSleep` timer, which reloads itself until the
chip has gone to sleep. -/
def flashSleep (driver : QSpiDriver) : QSpiDriver :=
  if driver.sleepTimerArmed = true ∧ driver.sleepState = .waiting then
    match enterSleep world driver with
    | .ok () after => { after with sleepTimerArmed := false }
    | .error _ after => after
  else
    driver

def readDirect (startAddress length : Nat) : DriverM (List UInt8) := do
  cancelMemoryMapping world
  send world (.qioFastRead startAddress length)
  let driver ← get
  pure ((List.range length).map (fun index =>
    driver.chip.cells (driver.chip.linear ((startAddress + index) % 2 ^ 24))))

/-- The block of `data` that starts at `start`. -/
def blockAt (data : List UInt8) (start : Nat) : List UInt8 :=
  let stop :=
    if data.length - start ≥ mt25qu01gbbb8e12.writeMaxBytes then
      start + mt25qu01gbbb8e12.writeMaxBytes
    else
      data.length
  (data.take stop).drop start

/-- One round of the loop of `write_block`. -/
def writeChunk (startAddress : Nat) (data : List UInt8) (round : Nat) :
    DriverM Unit := do
  waitWhileBusy (isBusy world)
  writeEnable world
  checkWriteOk world
  send world (.qioFastProgramm
    ((startAddress + round * mt25qu01gbbb8e12.writeMaxBytes) % 2 ^ 32)
    (blockAt data (round * mt25qu01gbbb8e12.writeMaxBytes)))

/-- Rounds of `(0..length).step_by(step)`. -/
def stepBy (length step : Nat) : Nat :=
  (length + step - 1) / step

def writeBlock (startAddress : Nat) (data : List UInt8) : DriverM Unit := do
  cancelMemoryMapping world
  forM (List.range (stepBy data.length mt25qu01gbbb8e12.writeMaxBytes))
    (writeChunk world startAddress data)

/-- One die of `chip_erase`. -/
def eraseDie (die : Nat) : DriverM Unit := do
  let fullAdress := die * mt25qu01gbbb8e12.dieSize
  writeEnable world
  setAddrExtender world (UInt8.ofNat (fullAdress / 2 ^ 24))
  writeEnable world
  send world (.dieErase (fullAdress % 2 ^ 24))
  waitWhileBusy (configIsBusy world)

def chipErase : DriverM Unit :=
  forM (List.range mt25qu01gbbb8e12.dieCount) (eraseDie world)

def erase : DriverM Unit := do
  cancelMemoryMapping world
  wakeUp world
  let busy ← configIsBusy world
  if busy = true then do
    wantSleep
    throw .busy
  else do
    chipErase world
    wantSleep

end Operations

end QSpiDriver

end SelfWriter.Qspi
