import ApUploader.Logic.Reads
import ApUploader.Mock.Respond

/-! # Command streams

The host encodes commands, the device decodes them from a byte stream that arrives
in any chunks, with bytes between the commands that are no command opcodes. The
device gets back the commands that were encoded.
-/

namespace ApUploader

open Effect

inductive Command.Built : Command → Prop where
  | eraseFlashMemory : Built .eraseFlashMemory
  | getChipDescription : Built .getChipDescription
  | getChipType : Built .getChipType
  | getCrc : Built .getCrc
  | getDeviceInfo (item : DeviceInfoItem) : Built (.getDeviceInfo item)
  | getSync : Built .getSync
  | getWritePointer : Built .getWritePointer
  | programBytes {data : Bytes} {c : Command} (h : Command.programBytes data = .ok c) : Built c
  | readWordFromOtpArea {address : Nat} {c : Command}
      (h : Command.readWordFromOtpArea address = .ok c) : Built c
  | readWordFromSerialNumberArea {address : Nat} {c : Command}
      (h : Command.readWordFromSerialNumberArea address = .ok c) : Built c
  | reboot : Built .reboot
  | setBootDelay {delay : Int} {c : Command} (h : Command.setBootDelay delay = .ok c) : Built c
  | setBaudRate {baudRate : Nat} {c : Command} (h : Command.setBaudRate baudRate = .ok c) : Built c

def Noise (bytes : Bytes) : Prop :=
  ∀ byte ∈ bytes, ∀ opcode ∈ OpCode.ofByte? byte, opcode.toByte ≤ OpCode.eoc.toByte

instance (bytes : Bytes) : Decidable (Noise bytes) := List.decidableBAll _ bytes

theorem Noise.head {byte : UInt8} {bytes : Bytes} (h : Noise (byte :: bytes)) : Noise [byte] :=
  fun other hmem => h other (by simp [List.mem_singleton.mp hmem])

theorem Noise.tail {byte : UInt8} {bytes : Bytes} (h : Noise (byte :: bytes)) : Noise bytes :=
  fun other hmem => h other (List.mem_cons_of_mem _ hmem)

/-- The encoded commands, each with the noise in front of it, and what follows them. -/
def stream : List (Bytes × Command) → Bytes → Except Exn Bytes
  | [], trailing => .ok trailing
  | (noise, c) :: rest, trailing => do
      let raw ← c.toBytes
      let later ← stream rest trailing
      return noise ++ raw ++ later

namespace MockBootloader

def receiveCommands (fuel : Nat) : Nat → Proc Exn MockLink (List Command)
  | 0 => pure []
  | count + 1 => do
      let command ← receiveNextCommand fuel
      let rest ← receiveCommands fuel count
      pure (command :: rest)

/-- The bytes that the device has not read yet are in its buffer and in the chunks under way. -/
def Incoming (d : MockBootloader) (replies : Bytes) (w : MockLink) (bytes : Bytes) : Prop :=
  ∃ (buffer : Bytes) (chunks : List Bytes),
    w = ⟨{ d with buffer := buffer }, chunks.map .chunk, replies⟩ ∧ buffer ++ chunks.flatten = bytes

/-! ## Reading across chunks -/

theorem readFrom_chunks {length : Nat} (deadline : Bool) {chunks : List Bytes} {buffer : Bytes}
    (h : length ≤ (buffer ++ chunks.flatten).length) :
    ∃ (rest : Bytes) (later : List Bytes),
      readFrom length deadline (chunks.map .chunk) buffer =
        (.ok ((buffer ++ chunks.flatten).take length), rest, later.map .chunk) ∧
      rest ++ later.flatten = (buffer ++ chunks.flatten).drop length := by
  by_cases hfull : length ≤ buffer.length
  · refine ⟨buffer.drop length, chunks, ?_, ?_⟩
    · rw [readFrom_buffered length deadline _ hfull, List.take_append_of_le_length hfull]
    · rw [List.drop_append_of_le_length hfull]
  · induction chunks generalizing buffer with
    | nil => simp at h; omega
    | cons chunk chunks ih =>
        have hshort : buffer.length < length := by omega
        have hbytes : buffer ++ (chunk :: chunks).flatten = buffer ++ chunk ++ chunks.flatten := by
          simp
        rw [hbytes] at h ⊢
        simp only [List.map_cons, readFrom, hshort, ↓reduceIte]
        by_cases hfull' : length ≤ (buffer ++ chunk).length
        · refine ⟨(buffer ++ chunk).drop length, chunks, ?_, ?_⟩
          · rw [readFrom_buffered length deadline _ hfull', List.take_append_of_le_length hfull']
          · rw [List.drop_append_of_le_length hfull']
        · exact ih h hfull'

theorem readFrom_nothing {length : Nat} (hpos : 0 < length) (deadline : Bool)
    {chunks : List Bytes} (h : chunks.flatten = []) :
    readFrom length deadline (chunks.map .chunk) [] = (.running, [], []) := by
  induction chunks with
  | nil => simp [readFrom, hpos]
  | cons chunk chunks ih =>
      obtain ⟨rfl, hrest⟩ := List.append_eq_nil_iff.mp h
      simpa [readFrom, hpos] using ih hrest

section Reading

variable {d : MockBootloader} {replies : Bytes}

theorem reads_readExactly (data : Bytes) (deadline : Bool) :
    Reads (Incoming d replies) (readExactly data.length deadline) data data := by
  rintro _ back ⟨buffer, chunks, rfl, hbytes⟩
  obtain ⟨rest, later, hread, hrest⟩ :=
    readFrom_chunks deadline
      (by rw [hbytes]; simp : data.length ≤ (buffer ++ chunks.flatten).length)
  rw [hbytes, List.take_left] at hread
  rw [hbytes, List.drop_left] at hrest
  exact ⟨_, by simp only [readExactly, hread], rest, later, rfl, hrest⟩

theorem reads_readByte (byte : UInt8) (deadline : Bool) :
    Reads (Incoming d replies) (readByte deadline) [byte] byte :=
  (reads_readExactly [byte] deadline).map fun data => data.headD 0

theorem reads_readEoc :
    Reads (Incoming d replies) readEoc [OpCode.eoc.toByte] () :=
  (reads_readByte OpCode.eoc.toByte true).bind (Reads.pure ())

theorem reads_receivePayload (payload : Bytes) :
    Reads (Incoming d replies) (receivePayload payload.length) payload payload := by
  unfold receivePayload
  by_cases hpos : 0 < payload.length
  · rw [if_pos hpos]
    exact reads_readExactly payload true
  · have hnil : payload = [] := by simpa using hpos
    rw [if_neg hpos, hnil]
    exact Reads.pure []

theorem reads_receiveArguments {c : Command} (hfit : ArgumentsFit c) :
    Reads (Incoming d replies) (receiveArguments c.type)
      (encodedArguments c ++ [OpCode.eoc.toByte]) c := by
  have htail : Reads (Incoming d replies)
      (receivePayload c.args.length >>= fun payload => readEoc >>= fun _ => pure ⟨c.type, payload⟩)
      (c.args ++ [OpCode.eoc.toByte]) c :=
    (reads_receivePayload c.args).bind (reads_readEoc.map fun _ => c)
  unfold ArgumentsFit at hfit
  unfold encodedArguments receiveArguments receiveLength
  by_cases hneg : c.payloadLength < 0
  · have hpartial : (Command.mk c.type []).payloadLength < 0 := hneg
    rw [if_pos hneg] at hfit
    rw [if_pos hneg, if_pos hpartial]
    have hbyte : (UInt8.ofNat c.args.length).toNat = c.args.length := by
      rw [UInt8.toNat_ofNat']
      omega
    have hlength : Reads (Incoming d replies) (readByte true >>= fun n => pure n.toNat)
        [UInt8.ofNat c.args.length] (UInt8.ofNat c.args.length).toNat :=
      (reads_readByte (UInt8.ofNat c.args.length) true).map UInt8.toNat
    rw [hbyte] at hlength
    exact hlength.bind htail
  · have hpartial : ¬ (Command.mk c.type []).payloadLength < 0 := hneg
    rw [if_neg hneg] at hfit
    rw [if_neg hneg, if_neg hpartial, payloadLength_type]
    have hnat : c.payloadLength.toNat = c.args.length := by omega
    rw [hnat]
    exact (Reads.pure c.args.length).bind htail

theorem reads_receivePass_noise {byte : UInt8} (h : Noise [byte]) :
    Reads (Incoming d replies) (receivePass ()) [byte] (.inl ()) := by
  rw [← List.append_nil [byte]]
  unfold receivePass
  refine Reads.bind (reads_readByte byte false) ?_
  cases hlookup : OpCode.ofByte? byte with
  | none => exact Reads.pure _
  | some opcode =>
      have hle := h byte (List.mem_singleton_self byte) opcode hlookup
      simp only [hle, ↓reduceIte]
      exact Reads.pure _

theorem reads_receivePass_command {c : Command} (hfit : ArgumentsFit c) (hc : IsCommand c.type) :
    Reads (Incoming d replies) (receivePass ())
      ([c.type.toByte] ++ (encodedArguments c ++ [OpCode.eoc.toByte])) (.inr c) := by
  unfold receivePass
  refine Reads.bind (reads_readByte c.type.toByte false) ?_
  rw [OpCode.ofByte?_toByte]
  dsimp only
  rw [if_neg hc]
  exact (reads_receiveArguments hfit).map _

theorem waits_receivePass : Waits (Incoming d replies) (receivePass ()) [] := by
  have hexactly : Waits (Incoming d replies) (readExactly 1 false) [] := by
    rintro _ ⟨buffer, chunks, rfl, hbytes⟩
    obtain ⟨rfl, hnone⟩ := List.append_eq_nil_iff.mp hbytes
    have hread := readFrom_nothing Nat.one_pos false hnone
    exact ⟨_, by simp only [readExactly, hread]; rfl, [], [], rfl, rfl⟩
  exact (hexactly.bind _).bind _

/-! ## One command behind noise -/

theorem reads_receiveNextCommand {c : Command} (hfit : ArgumentsFit c) (hc : IsCommand c.type)
    {noise : Bytes} (hnoise : Noise noise) {fuel : Nat} (hfuel : noise.length < fuel) :
    Reads (Incoming d replies) (receiveNextCommand fuel)
      (noise ++ ([c.type.toByte] ++ (encodedArguments c ++ [OpCode.eoc.toByte]))) c := by
  induction noise generalizing fuel with
  | nil =>
      obtain ⟨k, rfl⟩ : ∃ k, fuel = k + 1 := ⟨fuel - 1, by omega⟩
      exact (reads_receivePass_command hfit hc).loop_leave k
  | cons byte rest ih =>
      obtain ⟨k, rfl⟩ : ∃ k, fuel = k + 1 := ⟨fuel - 1, by omega⟩
      have hrest := ih hnoise.tail (by simpa using hfuel : rest.length < k)
      exact (reads_receivePass_noise hnoise.head).loop_again hrest

/-- Noise alone is no command: the device keeps waiting. -/
theorem waits_receiveNextCommand {noise : Bytes} (hnoise : Noise noise) {fuel : Nat}
    (hfuel : noise.length < fuel) :
    Waits (Incoming d replies) (receiveNextCommand fuel) noise := by
  induction noise generalizing fuel with
  | nil =>
      obtain ⟨k, rfl⟩ : ∃ k, fuel = k + 1 := ⟨fuel - 1, by omega⟩
      exact waits_receivePass.loop k
  | cons byte rest ih =>
      obtain ⟨k, rfl⟩ : ∃ k, fuel = k + 1 := ⟨fuel - 1, by omega⟩
      have hrest := ih hnoise.tail (by simpa using hfuel : rest.length < k)
      exact Waits.loop_again (reads_receivePass_noise hnoise.head) hrest

end Reading

/-! ## Whole streams -/

theorem toBytesLittle_length {n : Nat} {args : Bytes} (h : toBytesLittle 4 n = .ok args) :
    args.length = 4 := by
  unfold toBytesLittle at h
  split_ifs at h
  cases h
  simp

theorem fits_of_word {opcode : OpCode} {n : Nat} {c : Command}
    (h : (toBytesLittle 4 n).map (fun args => Command.mk opcode args) = .ok c)
    (hfour : (Command.mk opcode []).payloadLength = 4) : ArgumentsFit c ∧ c.type = opcode := by
  cases hargs : toBytesLittle 4 n with
  | error e => simp [hargs, Except.map] at h
  | ok args =>
      simp only [hargs, Except.map, Except.ok.injEq] at h
      subst h
      have hlength := toBytesLittle_length hargs
      have hpayload : (Command.mk opcode args).payloadLength = 4 := hfour
      exact ⟨by simp [ArgumentsFit, hpayload, hlength], rfl⟩

/-- The factory methods build commands whose arguments have the declared length. -/
theorem fits_of_built {c : Command} (h : c.Built) : ArgumentsFit c ∧ IsCommand c.type := by
  cases h with
  | programBytes h =>
      unfold Command.programBytes at h
      split_ifs at h with hlong
      cases h
      refine ⟨?_, (by decide : IsCommand .progMulti)⟩
      simp [ArgumentsFit, Command.payloadLength, progMultiMaxPayloadLength] at hlong ⊢
      omega
  | readWordFromOtpArea h =>
      obtain ⟨hfit, htype⟩ := fits_of_word h rfl
      exact ⟨hfit, by rw [htype]; decide⟩
  | readWordFromSerialNumberArea h =>
      obtain ⟨hfit, htype⟩ := fits_of_word h rfl
      exact ⟨hfit, by rw [htype]; decide⟩
  | setBaudRate h =>
      obtain ⟨hfit, htype⟩ := fits_of_word h rfl
      exact ⟨hfit, by rw [htype]; decide⟩
  | setBootDelay h =>
      unfold Command.setBootDelay at h
      split_ifs at h
      cases h
      exact ⟨by simp [ArgumentsFit, Command.payloadLength], (by decide : IsCommand .setBootDelay)⟩
  | getDeviceInfo item => exact ⟨by cases item <;> decide, (by decide : IsCommand .getDevice)⟩
  | _ => decide

def frames : List (Bytes × Command) → Bytes
  | [] => []
  | (noise, c) :: rest =>
      noise ++ ([c.type.toByte] ++ (encodedArguments c ++ [OpCode.eoc.toByte])) ++ frames rest

theorem stream_eq {script : List (Bytes × Command)} (h : ∀ entry ∈ script, ArgumentsFit entry.2)
    (trailing : Bytes) : stream script trailing = .ok (frames script ++ trailing) := by
  induction script with
  | nil => rfl
  | cons entry rest ih =>
      obtain ⟨hfit, hrest⟩ := List.forall_mem_cons.mp h
      simp [stream, frames, toBytes_of_fit hfit, ih hrest, bind, Except.bind, pure, Except.pure]

theorem length_le_frames {script : List (Bytes × Command)} {entry : Bytes × Command}
    (h : entry ∈ script) : entry.1.length ≤ (frames script).length := by
  induction script with
  | nil => simp at h
  | cons first rest ih =>
      simp only [frames, List.length_append]
      rcases List.mem_cons.mp h with rfl | h
      · omega
      · have hrest := ih h
        omega

/-- Repeated calls read the commands of a stream back in order. -/
theorem reads_receiveCommands {d : MockBootloader} {replies : Bytes}
    {script : List (Bytes × Command)} (h : ∀ entry ∈ script, Noise entry.1 ∧ entry.2.Built)
    {fuel : Nat} (hfuel : ∀ entry ∈ script, entry.1.length < fuel) :
    Reads (Incoming d replies) (receiveCommands fuel script.length) (frames script)
      (script.map Prod.snd) := by
  induction script with
  | nil => exact Reads.pure []
  | cons entry rest ih =>
      obtain ⟨⟨hnoise, hbuilt⟩, hrest⟩ := List.forall_mem_cons.mp h
      obtain ⟨hlength, hfuelRest⟩ := List.forall_mem_cons.mp hfuel
      obtain ⟨hfit, hc⟩ := fits_of_built hbuilt
      have hcommand : Reads (Incoming d replies) (receiveNextCommand fuel) _ entry.2 :=
        reads_receiveNextCommand hfit hc hnoise hlength
      exact hcommand.bind ((ih hrest hfuelRest).map fun later => entry.2 :: later)

/-- However the encoded commands and the noise between them are cut into chunks, the device reads
back exactly these commands, and then it waits with nothing left unread. -/
theorem receiveCommands_stream {script : List (Bytes × Command)} {trailing : Bytes}
    (hscript : ∀ entry ∈ script, Noise entry.1 ∧ entry.2.Built) (htrailing : Noise trailing) :
    ∃ bytes, stream script trailing = .ok bytes ∧
      ∀ (chunks : List Bytes) (d : MockBootloader) (replies : Bytes) (fuel : Nat),
        chunks.flatten = bytes → d.buffer = [] → bytes.length < fuel →
        ∃ w, receiveCommands fuel script.length ⟨d, chunks.map .chunk, replies⟩ =
            (.ok (script.map Prod.snd), w) ∧
          ∃ w', receiveNextCommand fuel w = (.running, w') ∧ Incoming d replies w' [] := by
  have hfits : ∀ entry ∈ script, ArgumentsFit entry.2 := fun entry hmem =>
    (fits_of_built (hscript entry hmem).2).1
  refine ⟨frames script ++ trailing, stream_eq hfits trailing, ?_⟩
  intro chunks d replies fuel hchunks hbuffer hfuel
  rw [List.length_append] at hfuel
  have hnoises : ∀ entry ∈ script, entry.1.length < fuel := by
    intro entry hmem
    have hlength := length_le_frames hmem
    omega
  have hstart : Incoming d replies ⟨d, chunks.map .chunk, replies⟩ (frames script ++ trailing) :=
    ⟨[], chunks, by rw [← hbuffer], hchunks⟩
  obtain ⟨w, hread, hrest⟩ := reads_receiveCommands hscript hnoises _ _ hstart
  have htrailingLength : trailing.length < fuel := by omega
  obtain ⟨w', hwait, hnothing⟩ := waits_receiveNextCommand htrailing htrailingLength _ hrest
  exact ⟨w, hread, w', hwait, hnothing⟩

theorem receiveCommands_stream_opcodes :
    ∃ bytes, stream [([0xFE, 0x12], ⟨.progMulti, [0x21, 0x20, 0x30]⟩), ([], .getSync)] [0x20] =
        .ok bytes ∧
      ∀ (chunks : List Bytes) (d : MockBootloader) (replies : Bytes) (fuel : Nat),
        chunks.flatten = bytes → d.buffer = [] → bytes.length < fuel →
        ∃ w, receiveCommands fuel 2 ⟨d, chunks.map .chunk, replies⟩ =
            (.ok [⟨.progMulti, [0x21, 0x20, 0x30]⟩, .getSync], w) ∧
          ∃ w', receiveNextCommand fuel w = (.running, w') ∧ Incoming d replies w' [] := by
  have hprogram : Command.Built ⟨.progMulti, [0x21, 0x20, 0x30]⟩ :=
    .programBytes (rfl : Command.programBytes [0x21, 0x20, 0x30] = _)
  refine receiveCommands_stream ?_ (by decide : Noise [0x20])
  simp only [List.forall_mem_cons]
  exact ⟨⟨by decide, hprogram⟩, ⟨by decide, .getSync⟩, by simp⟩

end MockBootloader

end ApUploader
