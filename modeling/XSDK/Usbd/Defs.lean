import Mathlib.Logic.Function.Basic
import XSDK.Library.Call

/-! The USB device stack's shared types: return codes, speeds, lifecycle, class references and
the sizes of the routing maps. -/
namespace XSDK.Usbd

inductive Error
  | nullPointer
  | alreadyInitialized
  | invalidConfiguration
  | resourceExhausted
  | insufficientBufferSize
  | dcdNullPointer
  | invalidSetupPacket
  | unsupportedRequest
  | invalidClassReq
  | appNotInstalled
  | reqGetDescNotSupported
  | reqSetDescNotSupported
  | reqGetStatusInvalidRecipient
  | reqClearEpInvalidReq
  | reqClearDeviceInvalidReq
  | reqSetFeatureEpInvalidReq
  | reqSetFeatureDeviceInvalidReq
  | reqSetFeatureInvalidRecipient
  | reqSetAddressInvalidReq
  | reqGetConfigNotAddressed
  | reqSetConfigNotSupported
  | reqSetConfigNotAddressed
  | other (code : Nat)
  deriving DecidableEq, Repr

inductive Speed
  | low
  | full
  | high
  | super
  deriving DecidableEq, Repr

inductive LifecycleState
  | created
  | initialized
  | classesRegistered
  | started
  | configured
  | stopped
  deriving DecidableEq, Repr

/-- A class context's address. -/
abbrev ClassRef := Nat

abbrev Bytes := List UInt8

/-- A string without its final zero. -/
abbrev Text := List UInt8

def le16 (low high : UInt8) : UInt16 := low.toUInt16 ||| (high.toUInt16 <<< 8)
def lowByte (v : UInt16) : UInt8 := v.toUInt8
def highByte (v : UInt16) : UInt8 := (v >>> 8).toUInt8

def le16Bytes (n : Nat) : Bytes := [UInt8.ofNat n, UInt8.ofNat (n / 256)]

structure SetupRequest where
  bRequestType : UInt8
  bRequest : UInt8
  wValue : UInt16
  wIndex : UInt16
  wLength : UInt16
  deriving DecidableEq, Repr

namespace SetupRequest

def ofBytes : Bytes → Option SetupRequest
  | [t, r, v, v', i, i', l, l'] => some ⟨t, r, le16 v v', le16 i i', le16 l l'⟩
  | _ => none

variable (r : SetupRequest)

def isIn : Bool := r.bRequestType &&& 0x80 ≠ 0

def type : UInt8 := r.bRequestType &&& 0x60

def recipient : UInt8 := r.bRequestType &&& 0x1F

end SetupRequest

def reqTypeStandard : UInt8 := 0x00
def reqTypeClass : UInt8 := 0x20
def reqTypeVendor : UInt8 := 0x40
def recipientDevice : UInt8 := 0x00
def recipientInterface : UInt8 := 0x01
def recipientEndpoint : UInt8 := 0x02
def reqGetStatus : UInt8 := 0x00
def reqClearFeature : UInt8 := 0x01
def reqSetFeature : UInt8 := 0x03
def reqSetAddress : UInt8 := 0x05
def reqGetDescriptor : UInt8 := 0x06
def reqSetDescriptor : UInt8 := 0x07
def reqGetConfiguration : UInt8 := 0x08
def reqSetConfiguration : UInt8 := 0x09
def reqGetInterface : UInt8 := 0x0A
def reqSetInterface : UInt8 := 0x0B
def reqSynchFrame : UInt8 := 0x0C
def reqSetSel : UInt8 := 0x30
def reqSetIsochDelay : UInt8 := 0x31
def descTypeDevice : UInt8 := 0x01
def descTypeConfiguration : UInt8 := 0x02
def descTypeString : UInt8 := 0x03
def descTypeInterface : UInt8 := 0x04
def descTypeEndpoint : UInt8 := 0x05
def descTypeQualifier : UInt8 := 0x06
def descTypeOtherSpeed : UInt8 := 0x07
def descTypeOtg : UInt8 := 0x09
def descTypeBos : UInt8 := 0x0F
def descTypeDeviceCapability : UInt8 := 0x10
def endpTypeCtrl : UInt8 := 0x00
def endpTypeBulk : UInt8 := 0x02
def endpTypeIntr : UInt8 := 0x03
def langIdStringIndex : UInt8 := 0x00
def vendorStringIndex : UInt8 := 0x01
def productStringIndex : UInt8 := 0x02
def msosStringIndex : UInt8 := 0xEE
def winusbVendorCode : UInt8 := 0x94
def maxConfigDescriptorSize : Nat := 1024
def maxEp0DataSize : Nat := 256

def maxInterfaceCount : Nat := 16
def maxEndpointMapEntries : Nat := 32
def maxStringMapEntries : Nat := 32
def serialStringIndex : Nat := 3

/-- The four low bits of an endpoint address are its number, the high one its direction. -/
def endpointMapIndex (epAddr : Nat) : Nat :=
  (epAddr &&& 0x0F) + if epAddr &&& 0x80 ≠ 0 then maxEndpointMapEntries / 2 else 0

theorem endpointMapIndex_out : ∀ a, a < 0x80 → endpointMapIndex a = a % 16 := by decide
theorem endpointMapIndex_in : ∀ a, a < 0x80 → endpointMapIndex (0x80 + a) = 16 + a % 16 := by decide

theorem endpointMapIndex_small (a : Nat) : endpointMapIndex a < maxEndpointMapEntries := by
  have low : a &&& 0x0F < 16 := Nat.and_lt_two_pow a (by decide : 0x0F < 2 ^ 4)
  unfold endpointMapIndex maxEndpointMapEntries
  split
  · omega
  · omega

end XSDK.Usbd
