import SelfWriter.Qspi.Driver

/-!
# Page accessors over the QSPI flash

`QSPIStorage` and `QSPIFlashPageAccessor` (`qspi_storage.rs`), and the read of
the raw data file (`threads/vfs/callbacks.rs`).  A page is selected by setting
the extender and keeping a pointer into the memory-mapped region.  Every
operation holds the driver's mutex from its start to its end, so operations and
firings of the sleep timer do not overlap.
-/

namespace SelfWriter.Qspi

open SelfWriter.Lib.NorMemory

/-- `flash::Error`. -/
inductive FlashError where
  | failure
  | busy
  deriving DecidableEq, Repr

abbrev StorageM := EStateM FlashError QSpiDriver

/-- `map_err(|_| flash::Error::Failure)`. -/
def mapFailure {α : Type} (operation : DriverM α) : StorageM α := fun driver =>
  match operation driver with
  | .ok value after => .ok value after
  | .error _ after => .error .failure after

def qspiMemoryMappedRegion : Nat := 0x90000000

structure QSPIFlashPageAccessor where
  ptr : Nat
  deriving DecidableEq, Repr

namespace QSPIFlashPageAccessor

variable (world : World)

def write (self : QSPIFlashPageAccessor) (data : List UInt8) : StorageM Unit :=
  mapFailure (QSpiDriver.writeBlock world
    ((self.ptr - qspiMemoryMappedRegion) % 2 ^ 32) data)

/-- A failed read leaves the destination as it was: `none`. -/
def readTo (self : QSPIFlashPageAccessor) (offset length : Nat) :
    StorageM (Option (List UInt8)) := fun driver =>
  match QSpiDriver.readDirect world
      ((self.ptr - (qspiMemoryMappedRegion - offset)) % 2 ^ 32) length driver with
  | .ok data after => .ok (some data) after
  | .error _ after => .ok none after

/-- The pointer of the `DirectReadHack`; an error is the panic of `unwrap`. -/
def mapToMem (self : QSPIFlashPageAccessor) (offset : Nat) : StorageM Nat := do
  mapFailure (QSpiDriver.setMemoryMappingMode world true)
  pure (self.ptr + offset)

def erase (_self : QSPIFlashPageAccessor) : StorageM Unit :=
  mapFailure (QSpiDriver.erase world)

def drop (_self : QSPIFlashPageAccessor) : StorageM Unit :=
  mapFailure QSpiDriver.wantSleep

end QSPIFlashPageAccessor

namespace QSPIStorage

variable (world : World)

def flashPageSize : Nat := 4096

def flashSize : Nat := mt25qu01gbbb8e12.capacity

def flashSizePages : Nat := flashSize / flashPageSize

def selectPage (page : Nat) : StorageM QSPIFlashPageAccessor := do
  let fullAdress := page * flashPageSize % 2 ^ 32
  let addr24 := fullAdress &&& 0x00FFFFFF
  mapFailure (QSpiDriver.wakeUp world)
  mapFailure (QSpiDriver.setAddrExtender world (UInt8.ofNat (fullAdress >>> 24)))
  pure { ptr := qspiMemoryMappedRegion + addr24 }

def flashErease : StorageM Unit :=
  mapFailure (QSpiDriver.erase world)

end QSPIStorage

/-- `flash_read`: the pointer is handed to the USB layer, the accessor is
dropped on return. -/
def flashRead (world : World) (offset : Nat) : StorageM Nat := do
  let page ← QSPIStorage.selectPage world (offset / QSPIStorage.flashPageSize)
  let pointer ← page.mapToMem world (offset % QSPIStorage.flashPageSize)
  page.drop
  pure pointer

/-- The device byte that a pointer into the mapped region shows. -/
def QSpiDriver.resolve (driver : QSpiDriver) (pointer : Nat) : Nat :=
  driver.chip.linear (pointer - qspiMemoryMappedRegion)

/-! ## One client and the sleep timer -/

/-- What a client does with the storage, one accessor at a time. -/
inductive ClientStep where
  | selectPage (page : Nat)
  | write (data : List UInt8)
  | readTo (offset length : Nat)
  | mapToMem (offset : Nat)
  | eraseThrough
  | drop
  | flashErease
  | flashRead (offset : Nat)
  | timer
  deriving DecidableEq, Repr

/-- The driver and the accessor that is alive. -/
structure Client where
  driver : QSpiDriver
  accessor : Option QSPIFlashPageAccessor

namespace Client

variable (world : World)

/-- The state in which an operation ends, with or without an error. -/
def after {α : Type} (operation : StorageM α) (driver : QSpiDriver) :
    QSpiDriver :=
  match operation driver with
  | .ok _ after => after
  | .error _ after => after

def withAccessor {α : Type} (client : Client)
    (operation : QSPIFlashPageAccessor → StorageM α) : Client :=
  match client.accessor with
  | some accessor =>
      { client with driver := Client.after (operation accessor) client.driver }
  | none => client

/-- A step that is not possible in a state leaves it unchanged. -/
def step (client : Client) : ClientStep → Client
  | .selectPage page =>
      match client.accessor with
      | some _ => client
      | none =>
          match QSPIStorage.selectPage world page client.driver with
          | .ok accessor driver => { driver := driver, accessor := some accessor }
          | .error _ driver => { driver := driver, accessor := none }
  | .write data => client.withAccessor (fun accessor => accessor.write world data)
  | .readTo offset length =>
      client.withAccessor (fun accessor => accessor.readTo world offset length)
  | .mapToMem offset =>
      client.withAccessor (fun accessor => accessor.mapToMem world offset)
  | .eraseThrough => client.withAccessor (fun accessor => accessor.erase world)
  | .drop =>
      { client.withAccessor (fun accessor => accessor.drop) with
        accessor := none }
  | .flashErease =>
      { client with
        driver := Client.after (QSPIStorage.flashErease world) client.driver }
  | .flashRead offset =>
      match client.accessor with
      | some _ => client
      | none =>
          { client with
            driver := Client.after (Qspi.flashRead world offset) client.driver }
  | .timer => { client with driver := client.driver.flashSleep world }

def run (client : Client) (steps : List ClientStep) : Client :=
  steps.foldl (step world) client

/-- After `QSpiDriver::init` the driver is working and its extender unknown;
the chip may hold anything. -/
def init (chip : Chip) : Client where
  driver :=
    { chip := { chip with deepPowerDown := false }
      memoryMapped := false
      extenderValue := 0xFF
      sleepState := .working
      sleepTimerArmed := false
      sent := [] }
  accessor := none

end Client

/-! ## Samples -/

/-- Everything succeeds, and programs take two status reads. -/
def calmWorld : World where
  transfers := fun _ => true
  succeeds := fun _ => true
  busyPolls := fun _ => 2
  residue := fun _ _ => 0

/-- A fresh chip whose extender was left at segment three. -/
def freshChip : Chip where
  cells := fun _ => erasedByte
  writes := []
  extender := 3
  deepPowerDown := false
  writeEnableLatch := false
  busyPolls := 0
  programFailure := false

end SelfWriter.Qspi
