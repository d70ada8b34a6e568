import ApUploader.Errors
import ApUploader.Logic.Struct
import Mathlib.Data.List.AList
import Mathlib.Data.Nat.Bitwise

/-! # MAVLink messages

The four message types that the uploader knows. A type carries the tables that the
decoder works with, and its initializer, which turns decoded fields into a message.
Fields are integers, floats by their bit patterns, and one byte string.
-/

namespace ApUploader

def PROTOCOL_MARKER_V1 : UInt8 := 0xFE

def PROTOCOL_MARKER_V2 : UInt8 := 0xFD

def HEADER_LEN_V1 : Nat := 6

def HEADER_LEN_V2 : Nat := 10

def MAVLINK_SIGNATURE_BLOCK_LEN : Nat := 13

def MAVLINK_IFLAG_SIGNED : Nat := 0x01

inductive MavlinkExn where
  | mavError (message : String)
  | structError
  | typeError (message : String)
  | indexError
  | unboundLocalError
  | notImplementedError (message : String)
  deriving Repr, DecidableEq

/-! ## Checksum -/

def x25crcStep (accum : Nat) (b : UInt8) : Nat :=
  let tmp := b.toNat ^^^ (accum &&& 0xFF)
  let tmp := (tmp ^^^ (tmp <<< 4)) &&& 0xFF
  (accum >>> 8) ^^^ (tmp <<< 8) ^^^ (tmp <<< 3) ^^^ (tmp >>> 4)

def x25crc (buf : Bytes) : Nat := buf.foldl x25crcStep 0xFFFF

theorem x25crcStep_lt {accum : Nat} (h : accum < 2 ^ 16) (b : UInt8) :
    x25crcStep accum b < 2 ^ 16 := by
  have htmp : ∀ n, n &&& 0xFF < 2 ^ 8 := fun n => Nat.and_lt_two_pow n (by decide)
  unfold x25crcStep
  generalize hlow : (b.toNat ^^^ (accum &&& 0xFF)) = low
  have hbound := htmp (low ^^^ (low <<< 4))
  dsimp only
  generalize (low ^^^ (low <<< 4)) &&& 0xFF = tmp at hbound ⊢
  have hshift : accum >>> 8 < 2 ^ 16 := by
    rw [Nat.shiftRight_eq_div_pow]
    omega
  have hhigh : tmp <<< 8 < 2 ^ 16 := by
    rw [Nat.shiftLeft_eq]
    omega
  have hmiddle : tmp <<< 3 < 2 ^ 16 := by
    rw [Nat.shiftLeft_eq]
    omega
  have hlast : tmp >>> 4 < 2 ^ 16 := by
    rw [Nat.shiftRight_eq_div_pow]
    omega
  exact Nat.xor_lt_two_pow (Nat.xor_lt_two_pow (Nat.xor_lt_two_pow hshift hhigh) hmiddle) hlast

theorem x25crc_lt (buf : Bytes) : x25crc buf < 2 ^ 16 := by
  have hfold : ∀ accum < 2 ^ 16, buf.foldl x25crcStep accum < 2 ^ 16 := by
    induction buf with
    | nil => exact fun accum h => h
    | cons b rest ih => exact fun accum h => ih _ (x25crcStep_lt h b)
  exact hfold 0xFFFF (by decide)

/-! ## Texts -/

/-- Decode as UTF-8, or keep the ASCII characters. -/
def toText (s : Bytes) : String :=
  match String.fromUTF8? ⟨s.toArray⟩ with
  | some text => text
  | none =>
      String.ofList ((s.filter (· < 128)).map fun b => Char.ofNat b.toNat) ++ "_XXX"

/-- The part in front of the first zero character. -/
def nulstrToStr (s : String) : String := String.ofList (s.toList.takeWhile (· ≠ Char.ofNat 0))

def hexDigits (n : Nat) : String := String.ofList (Nat.toDigits 16 n)

/-- At least so many hexadecimal digits, with leading zeros. -/
def hexPadded (width n : Nat) : String :=
  "".pushn '0' (width - (Nat.toDigits 16 n).length) ++ hexDigits n

/-! ## Headers -/

structure MAVLinkHeader where
  msgId : Nat
  incompatFlags : Nat := 0
  compatFlags : Nat := 0
  mlen : Nat := 0
  seq : Nat := 0
  sourceSystem : Nat := 0
  sourceComponent : Nat := 0
  deriving Repr, DecidableEq

namespace MAVLinkHeader

open Struct.Code in
def pack (h : MAVLinkHeader) (forceMavlink1 : Bool) : Except MavlinkExn Bytes :=
  let packed :=
    if forceMavlink1 then
      Struct.pack [uint 1, uint 1, uint 1, uint 1, uint 1, uint 1]
        [.int PROTOCOL_MARKER_V1.toNat, .int h.mlen, .int h.seq, .int h.sourceSystem,
          .int h.sourceComponent, .int h.msgId]
    else
      Struct.pack [uint 1, uint 1, uint 1, uint 1, uint 1, uint 1, uint 1, uint 2, uint 1]
        [.int 253, .int h.mlen, .int h.incompatFlags, .int h.compatFlags, .int h.seq,
          .int h.sourceSystem, .int h.sourceComponent, .int (h.msgId &&& 0xFFFF : Nat),
          .int (h.msgId >>> 16 : Nat)]
  match packed with
  | some bytes => .ok bytes
  | none => .error .structError

end MAVLinkHeader

/-! ## Messages -/

structure MAVLinkHeartbeatMessage where
  type : Int
  autopilot : Int
  baseMode : Int
  customMode : Int
  systemStatus : Int
  mavlinkVersion : Int
  deriving Repr, DecidableEq

structure MAVLinkCommandLongMessage where
  targetSystem : Int
  targetComponent : Int
  command : Int
  confirmation : Int := 0
  param1 : UInt32 := 0
  param2 : UInt32 := 0
  param3 : UInt32 := 0
  param4 : UInt32 := 0
  param5 : UInt32 := 0
  param6 : UInt32 := 0
  param7 : UInt32 := 0
  deriving Repr, DecidableEq

structure MAVLinkCommandACKMessage where
  command : Int
  result : Int
  progress : Int := 0
  resultParam2 : Int := 0
  targetSystem : Int := 0
  targetComponent : Int := 0
  deriving Repr, DecidableEq

structure MAVLinkParamSetMessage where
  targetSystem : Int
  targetComponent : Int
  paramIdRaw : Bytes
  paramValue : UInt32
  paramType : Int
  deriving Repr, DecidableEq

/-- The bytes in front of the first zero byte; what is not ASCII is replaced. -/
def MAVLinkParamSetMessage.paramId (m : MAVLinkParamSetMessage) : String :=
  String.ofList ((m.paramIdRaw.takeWhile (· ≠ 0)).map fun b =>
    if b < 128 then Char.ofNat b.toNat else Char.ofNat 0xFFFD)

/-- What the classes derived from the message class have of their own. -/
inductive MessageBody where
  | heartbeat (m : MAVLinkHeartbeatMessage)
  | commandLong (m : MAVLinkCommandLongMessage)
  | commandACK (m : MAVLinkCommandACKMessage)
  | paramSet (m : MAVLinkParamSetMessage)
  | badData (data : Bytes) (reason : String)
  | unknown (msgId : Nat) (data : Bytes)
  deriving Repr, DecidableEq

structure MAVLinkMessage where
  body : MessageBody
  /-- The ids of bad data and of unknown messages are negative. -/
  header : Option MAVLinkHeader := none
  payload : Option Bytes := none
  msgbuf : Option Bytes := none
  crc : Option Nat := none
  signed : Bool := false
  linkId : Option Nat := none
  deriving Repr, DecidableEq

def MessageBody.type : MessageBody → String
  | .heartbeat _ => "HEARTBEAT"
  | .commandLong _ => "COMMAND_LONG"
  | .commandACK _ => "COMMAND_ACK"
  | .paramSet _ => "PARAM_SET"
  | .badData _ _ => "BAD_DATA"
  | .unknown msgId _ => s!"UNKNOWN_{msgId}"

namespace MAVLinkMessage

def getType (m : MAVLinkMessage) : String := m.body.type

def newBadData (data : Bytes) (reason : String) : MAVLinkMessage where
  body := .badData data reason
  msgbuf := some data

def newUnknown (msgId : Nat) (data : Bytes) : MAVLinkMessage where
  body := .unknown msgId data
  msgbuf := some data

end MAVLinkMessage

/-! ## Message types -/

inductive Argument where
  | value (v : Struct.Value)
  | str (s : String)
  | values (vs : List Struct.Value)
  deriving Repr, DecidableEq

structure MessageType where
  id : Nat
  /-- The class, as it is printed. -/
  className : String
  format : String
  fieldtypes : List String
  orders : List Nat
  lengths : List Nat
  crcExtra : UInt8
  unpacker : List Struct.Code
  /-- The initializer, or the text of the exception that leaves it. -/
  init : List Argument → Except String MessageBody

namespace MessageType

open Struct.Code

def heartbeat : MessageType where
  id := 0
  className := "<class 'ap_uploader.mavlink.MAVLinkHeartbeatMessage'>"
  format := "<IBBBBB"
  fieldtypes := ["uint8_t", "uint8_t", "uint8_t", "uint32_t", "uint8_t", "uint8_t"]
  orders := [1, 2, 3, 0, 4, 5]
  lengths := [1, 1, 1, 1, 1, 1]
  crcExtra := 50
  unpacker := [uint 4, uint 1, uint 1, uint 1, uint 1, uint 1]
  init
    | [.value (.int type), .value (.int autopilot), .value (.int baseMode),
        .value (.int customMode), .value (.int systemStatus), .value (.int mavlinkVersion)] =>
        .ok (.heartbeat ⟨type, autopilot, baseMode, customMode, systemStatus, mavlinkVersion⟩)
    | _ => .error "unexpected arguments"

def commandLong : MessageType where
  id := 76
  className := "<class 'ap_uploader.mavlink.MAVLinkCommandLongMessage'>"
  format := "<fffffffHBBB"
  fieldtypes := ["uint8_t", "uint8_t", "uint16_t", "uint8_t", "float", "float", "float", "float",
    "float", "float", "float"]
  orders := [8, 9, 7, 10, 0, 1, 2, 3, 4, 5, 6]
  lengths := [1, 1, 1, 1, 1, 1, 1, 1, 1, 1, 1]
  crcExtra := 152
  unpacker := [float, float, float, float, float, float, float, uint 2, uint 1, uint 1, uint 1]
  init
    | [.value (.int targetSystem), .value (.int targetComponent), .value (.int command),
        .value (.int confirmation), .value (.float param1), .value (.float param2),
        .value (.float param3), .value (.float param4), .value (.float param5),
        .value (.float param6), .value (.float param7)] =>
        .ok (.commandLong ⟨targetSystem, targetComponent, command, confirmation, param1, param2,
          param3, param4, param5, param6, param7⟩)
    | _ => .error "unexpected arguments"

def commandACK : MessageType where
  id := 77
  className := "<class 'ap_uploader.mavlink.MAVLinkCommandACKMessage'>"
  format := "<HBBiBB"
  fieldtypes := ["uint16_t", "uint8_t", "uint8_t", "int32_t", "uint8_t", "uint8_t"]
  orders := [0, 1, 2, 3, 4, 5]
  lengths := [1, 1, 1, 1, 1, 1]
  crcExtra := 143
  unpacker := [uint 2, uint 1, uint 1, int 4, uint 1, uint 1]
  init
    | [.value (.int command), .value (.int result), .value (.int progress),
        .value (.int resultParam2), .value (.int targetSystem), .value (.int targetComponent)] =>
        .ok (.commandACK ⟨command, result, progress, resultParam2, targetSystem, targetComponent⟩)
    | _ => .error "unexpected arguments"

/-- Its initializer splits the parameter id at a zero byte, which a string refuses. -/
def paramSet : MessageType where
  id := 23
  className := "<class 'ap_uploader.mavlink.MAVLinkParamSetMessage'>"
  format := ""
  fieldtypes := ["uint8_t", "uint8_t", "char", "float", "uint8_t"]
  orders := [1, 2, 3, 0, 4]
  lengths := [1, 1, 1, 1, 1]
  crcExtra := 168
  unpacker := [float, uint 1, uint 1, string 16, uint 1]
  init
    | [.value (.int targetSystem), .value (.int targetComponent), .value (.bytes paramId),
        .value (.float paramValue), .value (.int paramType)] =>
        .ok (.paramSet ⟨targetSystem, targetComponent, paramId, paramValue, paramType⟩)
    | [_, _, .str _, _, _] => .error "must be str or None, not bytes"
    | _ => .error "unexpected arguments"

end MessageType

def mavlinkMap : Nat → Option MessageType
  | 0 => some .heartbeat
  | 76 => some .commandLong
  | 77 => some .commandACK
  | 23 => some .paramSet
  | _ => none

end ApUploader
