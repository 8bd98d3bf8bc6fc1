import XSDK.Bridge.Frames

/-! The handlers of the I2C, SPI, QSPI, ADC and GPIO channels. -/
namespace XSDK.Bridge

open Library

variable {σ : Type} (e : Env σ)

namespace I2c

def cmdWrite : UInt8 := 0x01
def cmdRead : UInt8 := 0x02
def cmdWriteRead : UInt8 := 0x03
def cmdScan : UInt8 := 0x04
def cmdSetSpeed : UInt8 := 0x05
def flagNoStop : UInt8 := 0x02

def handleWrite (payload : Bytes) (seq : Word32) : Handler σ Unit :=
  if payload.length < 4 then sendStatusResponse e .i2c statusError seq
  else
    let dataLen := le16 payload 2
    let noStop := decide (byteAt payload 1 &&& flagNoStop ≠ 0)
    if payload.length < 4 + dataLen then sendStatusResponse e .i2c statusError seq
    else report e .i2c seq (.i2cWrite (byteAt payload 0) (payloadSpan 4 dataLen) noStop)

def handleRead (payload : Bytes) (seq : Word32) : Handler σ Unit :=
  if payload.length < 4 then sendStatusResponse e .i2c statusError seq
  else
    let dataLen := le16 payload 2
    if maxPayloadBytes < dataLen then sendStatusResponse e .i2c statusError seq
    else fetch e .i2c seq (.i2cRead (byteAt payload 0).toNat (respSpan dataLen)) dataLen

def handleWriteRead (payload : Bytes) (seq : Word32) : Handler σ Unit :=
  if payload.length < 6 then sendStatusResponse e .i2c statusError seq
  else
    let wlen := le16 payload 2
    let rlen := le16 payload 4
    if payload.length < 6 + wlen ∨ maxPayloadBytes < rlen then sendStatusResponse e .i2c statusError seq
    else fetch e .i2c seq (.i2cWriteRead (byteAt payload 0) (payloadSpan 6 wlen) (respSpan rlen)) rlen

/-- Read one byte from each address in turn, and collect the addresses that answer. -/
def scanFrom : Nat → Nat → Bytes → Handler σ Bytes
  | 0, _, found => pure found
  | left + 1, addr, found =>
    ask e (.i2cRead addr ⟨.own 1, 0, 1⟩) >>= fun answer =>
      scanFrom left (addr + 1) (if answer.ok then found ++ [UInt8.ofNat addr] else found)

def handleScan (seq : Word32) : Handler σ Unit :=
  scanFrom e 127 1 [] >>= fun found => respond e .i2c statusOk seq found

def handleSetSpeed (payload : Bytes) (seq : Word32) : Handler σ Unit :=
  if payload.length < 4 then sendStatusResponse e .i2c statusError seq
  else report e .i2c seq (.i2cSetSpeed (le32 payload 0))

def handle (cmd : UInt8) (payload : Bytes) (seq : Word32) : Handler σ Unit :=
  if cmd = cmdWrite then handleWrite e payload seq
  else if cmd = cmdRead then handleRead e payload seq
  else if cmd = cmdWriteRead then handleWriteRead e payload seq
  else if cmd = cmdScan then handleScan e seq
  else if cmd = cmdSetSpeed then handleSetSpeed e payload seq
  else sendStatusResponse e .i2c statusError seq

end I2c

namespace Spi

def cmdTransfer : UInt8 := 0x01
def cmdCsAssert : UInt8 := 0x02
def cmdCsDeassert : UInt8 := 0x03
def cmdSetMode : UInt8 := 0x04
def cmdSetSpeed : UInt8 := 0x05
def flagKeepCs : UInt8 := 0x01

/-- Release the chip select, if it is not to be kept; the result is dropped. -/
def releaseCs (keepCs : Bool) (csIdx : UInt8) : Handler σ Unit :=
  Call.onlyIf (keepCs = false) (Call.ignore (ask e (.spiCsDeassert csIdx)))

variable (payload : Bytes) (seq : Word32)

def handleTransfer : Handler σ Unit :=
  if payload.length < 4 then sendStatusResponse e .spi statusError seq
  else
    let csIdx := byteAt payload 0
    let dataLen := le16 payload 2
    let keepCs := decide (byteAt payload 1 &&& flagKeepCs ≠ 0)
    if payload.length < 4 + dataLen ∨ maxPayloadBytes < dataLen then sendStatusResponse e .spi statusError seq
    else
      ask e (.spiCsAssert csIdx) >>= fun selected =>
        if selected.ok = false then sendStatusResponse e .spi statusError seq
        else
          ask e (.spiTransfer (payloadSpan 4 dataLen) (respSpan dataLen)) >>= fun answer =>
            releaseCs e keepCs csIdx >>= fun _ =>
              if answer.ok = false then sendStatusResponse e .spi statusError seq
              else respond e .spi statusOk seq ((List.range dataLen).map answer.bytes)

def handleCsAssert : Handler σ Unit :=
  if payload.length < 1 then sendStatusResponse e .spi statusError seq
  else report e .spi seq (.spiCsAssert (byteAt payload 0))

def handleCsDeassert : Handler σ Unit :=
  if payload.length < 1 then sendStatusResponse e .spi statusError seq
  else report e .spi seq (.spiCsDeassert (byteAt payload 0))

def handleSetMode : Handler σ Unit :=
  if payload.length < 2 then sendStatusResponse e .spi statusError seq
  else report e .spi seq (.spiSetMode (byteAt payload 0) (byteAt payload 1))

def handleSetSpeed : Handler σ Unit :=
  if payload.length < 4 then sendStatusResponse e .spi statusError seq
  else report e .spi seq (.spiSetSpeed (le32 payload 0))

def handle (cmd : UInt8) (payload : Bytes) (seq : Word32) : Handler σ Unit :=
  if cmd = cmdTransfer then handleTransfer e payload seq
  else if cmd = cmdCsAssert then handleCsAssert e payload seq
  else if cmd = cmdCsDeassert then handleCsDeassert e payload seq
  else if cmd = cmdSetMode then handleSetMode e payload seq
  else if cmd = cmdSetSpeed then handleSetSpeed e payload seq
  else sendStatusResponse e .spi statusError seq

end Spi

namespace Qspi

def cmdTransfer : UInt8 := 0x01
def cmdSetSpeed : UInt8 := 0x02

/-- The length of the data is compared with the largest payload, not with this one. -/
def handleTransfer (payload : Bytes) (seq : Word32) : Handler σ Unit :=
  if payload.length < 12 then sendStatusResponse e .qspi statusError seq
  else
    let dataLen := le16 payload 10
    if maxPayloadBytes < dataLen then sendStatusResponse e .qspi statusError seq
    else
      let txData := if 0 < dataLen then some (payloadSpan 12 dataLen) else none
      fetch e .qspi seq (.qspiTransfer (byteAt payload 0) (byteAt payload 1) (le32 payload 2) (le32 payload 6)
        txData (respSpan dataLen)) dataLen

def handleSetSpeed (payload : Bytes) (seq : Word32) : Handler σ Unit :=
  if payload.length < 4 then sendStatusResponse e .qspi statusError seq
  else report e .qspi seq (.qspiSetSpeed (le32 payload 0))

def handle (cmd : UInt8) (payload : Bytes) (seq : Word32) : Handler σ Unit :=
  if cmd = cmdTransfer then handleTransfer e payload seq
  else if cmd = cmdSetSpeed then handleSetSpeed e payload seq
  else sendStatusResponse e .qspi statusError seq

end Qspi

namespace Adc

def cmdReadSingle : UInt8 := 0x01
def cmdReadMulti : UInt8 := 0x02
def cmdSetResolution : UInt8 := 0x03
def cmdSetReference : UInt8 := 0x04
def cmdSetSampleRate : UInt8 := 0x05
def maxChannels : Nat := 32

/-- The loop over the bits of a word; a word has 32 of them. -/
def popcountLoop : Nat → Word32 → Nat
  | 0, _ => 0
  | left + 1, v => if v = 0#32 then 0 else (v &&& 1#32).toNat + popcountLoop left (v >>> 1)

def popcount32 (v : Word32) : Nat := popcountLoop 32 v

def handleReadSingle (payload : Bytes) (seq : Word32) : Handler σ Unit :=
  if payload.length < 4 then sendStatusResponse e .adc statusError seq
  else fetch e .adc seq (.adcReadSingle (le32 payload 0) ⟨.own 4, 0, 4⟩) 4

def handleReadMulti (payload : Bytes) (seq : Word32) : Handler σ Unit :=
  if payload.length < 4 then sendStatusResponse e .adc statusError seq
  else
    let channelMask := le32 payload 0
    let count := popcount32 channelMask
    if count = 0 ∨ maxChannels < count then sendStatusResponse e .adc statusError seq
    else fetch e .adc seq (.adcReadMulti channelMask ⟨.own (maxChannels * 4), 0, count * 4⟩) (count * 4)

def setResolutionBits (bits : UInt8) : Handler σ Unit := Call.modify fun s => { s with resolutionBits := bits }

def handleSetResolution (payload : Bytes) (seq : Word32) : Handler σ Unit :=
  if payload.length < 1 then sendStatusResponse e .adc statusError seq
  else
    let bits := byteAt payload 0
    if bits ≠ 8 ∧ bits ≠ 10 ∧ bits ≠ 12 ∧ bits ≠ 16 then sendStatusResponse e .adc statusError seq
    else
      ask e (.adcSetResolution bits) >>= fun answer =>
        Call.onlyIf (answer.ok = true) (setResolutionBits bits) >>= fun _ =>
          sendStatusResponse e .adc (statusOf answer) seq

def handleSetReference (payload : Bytes) (seq : Word32) : Handler σ Unit :=
  if payload.length < 1 then sendStatusResponse e .adc statusError seq
  else report e .adc seq (.adcSetReference (byteAt payload 0))

def handleSetSampleRate (payload : Bytes) (seq : Word32) : Handler σ Unit :=
  if payload.length < 4 then sendStatusResponse e .adc statusError seq
  else report e .adc seq (.adcSetSampleRate (le32 payload 0))

def handle (cmd : UInt8) (payload : Bytes) (seq : Word32) : Handler σ Unit :=
  if cmd = cmdReadSingle then handleReadSingle e payload seq
  else if cmd = cmdReadMulti then handleReadMulti e payload seq
  else if cmd = cmdSetResolution then handleSetResolution e payload seq
  else if cmd = cmdSetReference then handleSetReference e payload seq
  else if cmd = cmdSetSampleRate then handleSetSampleRate e payload seq
  else sendStatusResponse e .adc statusError seq

end Adc

namespace Gpio

def cmdSetDirection : UInt8 := 0x01
def cmdWrite : UInt8 := 0x02
def cmdRead : UInt8 := 0x03
def cmdSetPull : UInt8 := 0x04
def cmdToggle : UInt8 := 0x06

def handleSetDirection (payload : Bytes) (seq : Word32) : Handler σ Unit :=
  if payload.length < 9 then sendStatusResponse e .gpio statusError seq
  else report e .gpio seq (.gpioSetDirection (le32 payload 0) (le32 payload 4) (byteAt payload 8))

def handleWrite (payload : Bytes) (seq : Word32) : Handler σ Unit :=
  if payload.length < 9 then sendStatusResponse e .gpio statusError seq
  else report e .gpio seq (.gpioWritePin (le32 payload 0) (le32 payload 4) (byteAt payload 8))

def handleRead (payload : Bytes) (seq : Word32) : Handler σ Unit :=
  if payload.length < 8 then sendStatusResponse e .gpio statusError seq
  else fetch e .gpio seq (.gpioReadPin (le32 payload 0) (le32 payload 4) ⟨.own 1, 0, 1⟩) 1

def handleSetPull (payload : Bytes) (seq : Word32) : Handler σ Unit :=
  if payload.length < 9 then sendStatusResponse e .gpio statusError seq
  else report e .gpio seq (.gpioSetPull (le32 payload 0) (le32 payload 4) (byteAt payload 8))

def handleToggle (payload : Bytes) (seq : Word32) : Handler σ Unit :=
  if payload.length < 8 then sendStatusResponse e .gpio statusError seq
  else report e .gpio seq (.gpioTogglePin (le32 payload 0) (le32 payload 4))

def handle (cmd : UInt8) (payload : Bytes) (seq : Word32) : Handler σ Unit :=
  if cmd = cmdSetDirection then handleSetDirection e payload seq
  else if cmd = cmdWrite then handleWrite e payload seq
  else if cmd = cmdRead then handleRead e payload seq
  else if cmd = cmdSetPull then handleSetPull e payload seq
  else if cmd = cmdToggle then handleToggle e payload seq
  else sendStatusResponse e .gpio statusError seq

end Gpio

def handle : Channel → UInt8 → Bytes → Word32 → Handler σ Unit
  | .i2c => I2c.handle e
  | .spi => Spi.handle e
  | .qspi => Qspi.handle e
  | .adc => Adc.handle e
  | .gpio => Gpio.handle e

def onUsbReceive (channel : Channel) (data : Bytes) : Handler σ Unit :=
  match parseFrame data with
  | .error code => Call.fail code
  | .ok (cmd, payload) => handle e channel cmd.cmd payload cmd.seq

end XSDK.Bridge
