import ApUploader.Errors
import ApUploader.Logic.LittleEndian

/-! # Commands, responses and events

The wire vocabulary of the bootloader protocol: opcodes, the commands of the
uploader with their factory methods, and the responses of the bootloader.
Durations are milliseconds.
-/

namespace ApUploader

inductive OpCode where
  | inSync | eoc
  | ok | failed | invalid | badSiliconRev
  | nop | getSync | getDevice | chipErase | chipVerify | progMulti | readMulti | getCrc | getOtp
  | getSn | getChip | setBootDelay | getChipDes | getWritePtr | reboot | debug | setBaud
  deriving DecidableEq, Repr

namespace OpCode

def toByte : OpCode → UInt8
  | inSync => 0x12
  | eoc => 0x20
  | ok => 0x10
  | failed => 0x11
  | invalid => 0x13
  | badSiliconRev => 0x14
  | nop => 0x00
  | getSync => 0x21
  | getDevice => 0x22
  | chipErase => 0x23
  | chipVerify => 0x24
  | progMulti => 0x27
  | readMulti => 0x28
  | getCrc => 0x29
  | getOtp => 0x2A
  | getSn => 0x2B
  | getChip => 0x2C
  | setBootDelay => 0x2D
  | getChipDes => 0x2E
  | getWritePtr => 0x2F
  | reboot => 0x30
  | debug => 0x31
  | setBaud => 0x33

def all : List OpCode :=
  [inSync, eoc, ok, failed, invalid, badSiliconRev, nop, getSync, getDevice, chipErase, chipVerify,
    progMulti, readMulti, getCrc, getOtp, getSn, getChip, setBootDelay, getChipDes, getWritePtr,
    reboot, debug, setBaud]

/-- The enum lookup `OpCode(value)`, `none` for its `ValueError`. -/
def ofByte? (byte : UInt8) : Option OpCode := all.find? (fun code => code.toByte == byte)

@[simp] theorem ofByte?_toByte (code : OpCode) : ofByte? code.toByte = some code := by
  cases code <;> decide

theorem toByte_injective {a b : OpCode} (h : a.toByte = b.toByte) : a = b := by
  have hlookup := congrArg ofByte? h
  simpa using hlookup

def name : OpCode → String
  | inSync => "IN_SYNC"
  | eoc => "EOC"
  | ok => "OK"
  | failed => "FAILED"
  | invalid => "INVALID"
  | badSiliconRev => "BAD_SILICON_REV"
  | nop => "NOP"
  | getSync => "GET_SYNC"
  | getDevice => "GET_DEVICE"
  | chipErase => "CHIP_ERASE"
  | chipVerify => "CHIP_VERIFY"
  | progMulti => "PROG_MULTI"
  | readMulti => "READ_MULTI"
  | getCrc => "GET_CRC"
  | getOtp => "GET_OTP"
  | getSn => "GET_SN"
  | getChip => "GET_CHIP"
  | setBootDelay => "SET_BOOT_DELAY"
  | getChipDes => "GET_CHIP_DES"
  | getWritePtr => "GET_WRITE_PTR"
  | reboot => "REBOOT"
  | debug => "DEBUG"
  | setBaud => "SET_BAUD"

/-- The members of `ResponseType` carry the names of their opcodes. -/
def repr (enum : String) (code : OpCode) : String :=
  "<" ++ enum ++ "." ++ code.name ++ ": " ++ toString code.toByte.toNat ++ ">"

end OpCode

def progMultiMaxPayloadLength : Nat := 252

inductive DeviceInfoItem where
  | blRev | boardId | boardRev | flashSize
  deriving DecidableEq, Repr

namespace DeviceInfoItem

def toByte : DeviceInfoItem → UInt8
  | blRev => 0x01
  | boardId => 0x02
  | boardRev => 0x03
  | flashSize => 0x04

def all : List DeviceInfoItem := [blRev, boardId, boardRev, flashSize]

def ofByte? (byte : UInt8) : Option DeviceInfoItem := all.find? (fun item => item.toByte == byte)

end DeviceInfoItem

inductive ResponseType where
  | ok | failed | invalid | badSiliconRev
  deriving DecidableEq, Repr

namespace ResponseType

def opcode : ResponseType → OpCode
  | ok => .ok
  | failed => .failed
  | invalid => .invalid
  | badSiliconRev => .badSiliconRev

def toByte (type : ResponseType) : UInt8 := type.opcode.toByte

def all : List ResponseType := [ok, failed, invalid, badSiliconRev]

/-- The enum lookup `ResponseType(opcode)`, `none` for its `ValueError`. -/
def ofByte? (byte : UInt8) : Option ResponseType := all.find? (fun type => type.toByte == byte)

@[simp] theorem ofByte?_toByte (type : ResponseType) : ofByte? type.toByte = some type := by
  cases type <;> decide

end ResponseType

/-! ## Commands -/

structure Command where
  type : OpCode
  args : Bytes := []
  deriving DecidableEq, Repr

/-- `int.to_bytes(length, "little", signed=False)`. -/
def toBytesLittle (length n : Nat) : Except Exn Bytes :=
  if n < 256 ^ length then .ok (LittleEndian.encode length n) else .error .overflowError

namespace Command

def eraseFlashMemory : Command := ⟨.chipErase, []⟩

def getChipDescription : Command := ⟨.getChipDes, []⟩

def getChipType : Command := ⟨.getChip, []⟩

def getCrc : Command := ⟨.getCrc, []⟩

def getDeviceInfo (item : DeviceInfoItem) : Command := ⟨.getDevice, [item.toByte]⟩

def getSync : Command := ⟨.getSync, []⟩

def getWritePointer : Command := ⟨.getWritePtr, []⟩

def programBytes (data : Bytes) : Except Exn Command :=
  if progMultiMaxPayloadLength < data.length then
    .error (.runtimeError "payload too large, maximum allowed size is 252 bytes")
  else .ok ⟨.progMulti, data⟩

def readWordFromOtpArea (address : Nat) : Except Exn Command :=
  (toBytesLittle 4 address).map (fun args => ⟨.getOtp, args⟩)

def readWordFromSerialNumberArea (address : Nat) : Except Exn Command :=
  (toBytesLittle 4 address).map (fun args => ⟨.getSn, args⟩)

def reboot : Command := ⟨.reboot, []⟩

def setBootDelay (delay : Int) : Except Exn Command :=
  if delay < 0 ∨ 255 < delay then
    .error (.runtimeError "invalid boot delay, must be between 0 and 255")
  else .ok ⟨.setBootDelay, [UInt8.ofNat delay.toNat]⟩

def setBaudRate (baudRate : Nat) : Except Exn Command :=
  (toBytesLittle 4 baudRate).map (fun args => ⟨.setBaud, args⟩)

/-- Length of the arguments; negative when a length byte precedes them. -/
def payloadLength (c : Command) : Int :=
  match c.type with
  | .getOtp | .getSn | .setBaud => 4
  | .getDevice | .setBootDelay => 1
  | .progMulti => -1
  | _ => 0

/-- Length of the reply's payload; negative when four length bytes precede it. -/
def responseLength (c : Command) : Int :=
  match c.type with
  | .getChipDes => -1
  | .getCrc | .getOtp | .getSn | .getDevice | .getChip | .getWritePtr => 4
  | _ => 0

def suggestedTimeout (c : Command) : Nat :=
  match c.type with
  | .chipErase => 20000
  | .getCrc => 3000
  | _ => 500

def toBytes (c : Command) : Except Exn Bytes :=
  if c.payloadLength < 0 then
    if 255 < c.args.length then .error (.runtimeError "arguments too long")
    else .ok ([c.type.toByte, UInt8.ofNat c.args.length] ++ c.args ++ [OpCode.eoc.toByte])
  else .ok ([c.type.toByte] ++ c.args ++ [OpCode.eoc.toByte])

def Encodable (c : Command) : Prop := ∃ raw, c.toBytes = .ok raw

instance (c : Command) : Decidable c.Encodable :=
  match h : c.toBytes with
  | .ok raw => .isTrue ⟨raw, h⟩
  | .error _ => .isFalse (by rintro ⟨raw, hraw⟩; simp [h] at hraw)

@[simp] theorem getSync_toBytes :
    getSync.toBytes = .ok [OpCode.getSync.toByte, OpCode.eoc.toByte] := rfl

theorem toBytes_head {c : Command} {raw : Bytes} (h : c.toBytes = .ok raw) :
    ∃ rest, raw = c.type.toByte :: rest := by
  unfold toBytes at h
  split_ifs at h <;> cases h <;> exact ⟨_, rfl⟩

theorem programBytes_type {data : Bytes} {c : Command} (h : programBytes data = .ok c) :
    c.type = .progMulti := by
  unfold programBytes at h
  split_ifs at h
  cases h
  rfl

theorem readWordFromSerialNumberArea_type {address : Nat} {c : Command}
    (h : readWordFromSerialNumberArea address = .ok c) : c.type = .getSn := by
  unfold readWordFromSerialNumberArea toBytesLittle at h
  split_ifs at h
  · cases h
    rfl
  · cases h

theorem responseLength_cases (c : Command) :
    c.responseLength = -1 ∧ c.type = .getChipDes ∨ c.responseLength = 0 ∨
      c.responseLength = 4 := by
  unfold responseLength
  cases c.type <;> simp

end Command

/-! ## Responses and events -/

structure Response where
  type : ResponseType
  payload : Bytes := []
  deriving DecidableEq, Repr

namespace Response

def success (payload : Bytes) : Response := ⟨.ok, payload⟩

def failure : Response := ⟨.failed, []⟩

def invalid : Response := ⟨.invalid, []⟩

def fromOpcode (opcode : UInt8) (payload : Bytes) : Except Exn Response :=
  match ResponseType.ofByte? opcode with
  | some type => .ok ⟨type, payload⟩
  | none => .error .valueError

def getPayloadOrRaiseException (r : Response) : Except Exn Bytes :=
  match r.type with
  | .badSiliconRev => .error (.runtimeError "bad silicon revision")
  | .invalid => .error (.runtimeError "invalid operation")
  | .failed => .error (.runtimeError "operation failed")
  | .ok => .ok r.payload

def toBytes (r : Response) : Bytes :=
  match r.type with
  | .ok => r.payload ++ [OpCode.inSync.toByte, OpCode.ok.toByte]
  | type => [OpCode.inSync.toByte, type.toByte]

theorem getPayload_eq_ok {r : Response} {payload : Bytes}
    (h : r.getPayloadOrRaiseException = .ok payload) : r.type = .ok ∧ r.payload = payload := by
  unfold getPayloadOrRaiseException at h
  cases ht : r.type <;> simp_all

theorem getPayload_eq_error {r : Response} {error : Exn}
    (h : r.getPayloadOrRaiseException = .error error) :
    ∃ message, error = .runtimeError message := by
  unfold getPayloadOrRaiseException at h
  cases ht : r.type <;> rw [ht] at h <;> cases h <;> exact ⟨_, rfl⟩

end Response

inductive Event where
  | needMoreData
  | excessData (payload : Bytes)
  | connectionClosed
  | command (c : Command)
  | response (r : Response)
  deriving DecidableEq, Repr

/-! ## `repr` -/

def byteRepr (quote : UInt8) (byte : UInt8) : String :=
  let char := String.singleton (Char.ofNat byte.toNat)
  if byte = quote ∨ byte = 0x5C then "\\" ++ char
  else if byte = 0x09 then "\\t"
  else if byte = 0x0A then "\\n"
  else if byte = 0x0D then "\\r"
  else if byte < 0x20 ∨ 0x7F ≤ byte then
    "\\x" ++ String.singleton (Nat.digitChar (byte.toNat / 16)) ++
      String.singleton (Nat.digitChar (byte.toNat % 16))
  else char

/-- Double quotes stand around bytes that hold a single quote and no double one. -/
def bytesRepr (bytes : Bytes) : String :=
  let quote : UInt8 := if 0x27 ∈ bytes ∧ 0x22 ∉ bytes then 0x22 else 0x27
  let mark := String.singleton (Char.ofNat quote.toNat)
  "b" ++ mark ++ String.join (bytes.map (byteRepr quote)) ++ mark

/-- The dataclass repr, as the error messages show an event. -/
def Event.repr : Event → String
  | .needMoreData => "NeedMoreData()"
  | .excessData payload => "ExcessData(payload=" ++ bytesRepr payload ++ ")"
  | .connectionClosed => "ConnectionClosed()"
  | .command c =>
      "Command(type=" ++ c.type.repr "OpCode" ++ ", args=" ++ bytesRepr c.args ++ ")"
  | .response r =>
      "Response(type=" ++ r.type.opcode.repr "ResponseType" ++ ", payload=" ++
        bytesRepr r.payload ++ ")"

example : Event.repr (.command .getSync) = "Command(type=<OpCode.GET_SYNC: 33>, args=b'')" := by
  decide

end ApUploader
