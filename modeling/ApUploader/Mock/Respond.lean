import ApUploader.Mock.Bootloader

/-! # What the mock bootloader answers

A device that waits for a command and gets the bytes of one answers it as its
handler says and waits again. The equations of the handlers for the commands of an
upload follow.
-/

namespace ApUploader.MockBootloader

open Effect

/-! ## Reading from the buffer -/

theorem readFrom_buffered (length : Nat) (deadline : Bool) (arrivals : List Arrival)
    {buffer : Bytes} (h : length ≤ buffer.length) :
    readFrom length deadline arrivals buffer =
      (.ok (buffer.take length), buffer.drop length, arrivals) := by
  have hshort : ¬ buffer.length < length := by omega
  cases arrivals <;> simp [readFrom, hshort]

theorem wp_readExactly {w : MockLink} (front : Bytes) {back : Bytes} (deadline : Bool)
    (h : w.device.buffer = front ++ back) (post : Post Exn MockLink Bytes) :
    wp (readExactly front.length deadline) post w ↔
      post.ok front { w with device.buffer := back } := by
  have hlength : front.length ≤ w.device.buffer.length := by simp [h]
  have hread := readFrom_buffered front.length deadline w.arrivals hlength
  unfold wp readExactly
  rw [hread]
  simp [h, Post.Holds]

theorem wp_readByte {w : MockLink} {byte : UInt8} {back : Bytes} (deadline : Bool)
    (h : w.device.buffer = byte :: back) (post : Post Exn MockLink UInt8) :
    wp (readByte deadline) post w ↔ post.ok byte { w with device.buffer := back } := by
  unfold readByte
  rw [wp_bind]
  exact wp_readExactly [byte] deadline h _

theorem wp_readEoc {w : MockLink} {back : Bytes} (h : w.device.buffer = OpCode.eoc.toByte :: back)
    (post : Post Exn MockLink Unit) :
    wp readEoc post w ↔ post.ok () { w with device.buffer := back } := by
  unfold readEoc
  rw [wp_bind, wp_readByte true h]
  simp

def ArgumentsFit (c : Command) : Prop :=
  if c.payloadLength < 0 then c.args.length ≤ 255 else (c.args.length : Int) = c.payloadLength

instance (c : Command) : Decidable (ArgumentsFit c) := by unfold ArgumentsFit; infer_instance

def encodedArguments (c : Command) : Bytes :=
  if c.payloadLength < 0 then UInt8.ofNat c.args.length :: c.args else c.args

theorem toBytes_of_fit {c : Command} (h : ArgumentsFit c) :
    c.toBytes = .ok (c.type.toByte :: encodedArguments c ++ [OpCode.eoc.toByte]) := by
  unfold ArgumentsFit at h
  unfold Command.toBytes encodedArguments
  by_cases hneg : c.payloadLength < 0
  · rw [if_pos hneg] at h
    rw [if_pos hneg, if_neg (by omega), if_pos hneg]
    simp
  · rw [if_neg hneg, if_neg hneg]
    simp

theorem payloadLength_type (c : Command) :
    (Command.mk c.type []).payloadLength = c.payloadLength := rfl

theorem wp_receivePayload {w : MockLink} {payload back : Bytes}
    (h : w.device.buffer = payload ++ back) (post : Post Exn MockLink Bytes) :
    wp (receivePayload payload.length) post w ↔
      post.ok payload { w with device.buffer := back } := by
  unfold receivePayload
  by_cases hpos : 0 < payload.length
  · rw [if_pos hpos, wp_readExactly _ true h]
  · have hnil : payload = [] := by simpa using hpos
    rw [hnil, List.nil_append] at h
    rw [if_neg hpos, wp_pure, hnil, ← h]

theorem wp_receiveArguments {c : Command} (hfit : ArgumentsFit c) {w : MockLink} {back : Bytes}
    (h : w.device.buffer = encodedArguments c ++ OpCode.eoc.toByte :: back)
    (post : Post Exn MockLink Command) :
    wp (receiveArguments c.type) post w ↔ post.ok c { w with device.buffer := back } := by
  unfold ArgumentsFit at hfit
  unfold encodedArguments at h
  have hlength : ∀ post : Post Exn MockLink Nat, wp (receiveLength c.type) post w ↔
      post.ok c.args.length
        { w with device.buffer := c.args ++ OpCode.eoc.toByte :: back } := by
    intro post
    unfold receiveLength
    by_cases hneg : c.payloadLength < 0
    · rw [if_pos hneg] at hfit h
      have hbyte : (UInt8.ofNat c.args.length).toNat = c.args.length := by
        rw [UInt8.toNat_ofNat']
        omega
      have hpartial : (Command.mk c.type []).payloadLength < 0 := hneg
      rw [if_pos hpartial, wp_bind, wp_readByte true h]
      dsimp only
      rw [wp_pure, hbyte]
      exact Iff.rfl
    · rw [if_neg hneg] at hfit h
      have hnat : c.payloadLength.toNat = c.args.length := by omega
      have hpartial : ¬ (Command.mk c.type []).payloadLength < 0 := hneg
      rw [if_neg hpartial, payloadLength_type, wp_pure, hnat, ← h]
  unfold receiveArguments
  rw [wp_bind, hlength]
  dsimp only
  rw [wp_bind, wp_receivePayload rfl]
  dsimp only
  rw [wp_bind, wp_readEoc rfl]
  exact Iff.rfl

theorem serialNumberWord_length (d : MockBootloader) (address : Nat) :
    (d.serialNumberWord address).length = 4 := by
  simp only [serialNumberWord, List.length_reverse, List.length_append, List.length_take,
    List.length_replicate]
  omega

/-! ## One command -/

/-- The device has nothing half-read and is neither told to drop a response nor to exit. -/
structure Ready (d : MockBootloader) : Prop where
  buffer : d.buffer = []
  keeps : d.dropNextResponse = false
  running : d.shouldExit = false

/-- An opcode above the end-of-command byte, as all commands have. -/
def IsCommand (opcode : OpCode) : Prop := ¬ opcode.toByte ≤ OpCode.eoc.toByte

instance (opcode : OpCode) : Decidable (IsCommand opcode) := by unfold IsCommand; infer_instance

theorem receiveNextCommand_eq {c : Command} (hfit : ArgumentsFit c) (hc : IsCommand c.type)
    {d : MockBootloader} (hbuffer : d.buffer = []) {raw : Bytes} (hraw : c.toBytes = .ok raw)
    (fuel : Nat) :
    receiveNextCommand (fuel + 1) ⟨d, [.chunk raw], []⟩ = (.ok c, ⟨d, [], []⟩) := by
  rw [toBytes_of_fit hfit] at hraw
  cases hraw
  have hbyte : readByte false ⟨d, [.chunk (c.type.toByte :: encodedArguments c ++
      [OpCode.eoc.toByte])], []⟩ = (.ok c.type.toByte,
        ⟨{ d with buffer := encodedArguments c ++ [OpCode.eoc.toByte] }, [], []⟩) := by
    have hread : readExactly 1 false ⟨d, [.chunk (c.type.toByte :: encodedArguments c ++
        [OpCode.eoc.toByte])], []⟩ = (.ok [c.type.toByte],
          ⟨{ d with buffer := encodedArguments c ++ [OpCode.eoc.toByte] }, [], []⟩) := by
      simp [readExactly, readFrom, hbuffer]
    unfold readByte
    rw [Proc.bind_of_ok hread]
    rfl
  have hpass : wp (receivePass ()) (.returns fun result w =>
      result = .inr c ∧ w = ⟨d, [], []⟩) ⟨d, [.chunk (c.type.toByte :: encodedArguments c ++
        [OpCode.eoc.toByte])], []⟩ := by
    unfold receivePass
    rw [wp_bind]
    rw [wp_of_eq hbyte]
    simp only [Post.Holds, OpCode.ofByte?_toByte]
    rw [if_neg hc, wp_bind, wp_receiveArguments hfit rfl]
    exact ⟨rfl, by rw [← hbuffer]⟩
  obtain ⟨_, _, hstep, rfl, rfl⟩ := wp_returns_iff.mp hpass
  unfold receiveNextCommand
  rw [Proc.loop_succ, hstep]

/-- Nothing has arrived: the device keeps waiting. -/
theorem receiveNextCommand_waiting {d : MockBootloader} (hbuffer : d.buffer = [])
    (replies : Bytes) (fuel : Nat) :
    receiveNextCommand (fuel + 1) ⟨d, [], replies⟩ = (.running, ⟨d, [], replies⟩) := by
  have hpass : receivePass () ⟨d, [], replies⟩ = (.running, ⟨d, [], replies⟩) := by
    have hread : readExactly 1 false ⟨d, [], replies⟩ = (.running, ⟨d, [], replies⟩) := by
      simp only [readExactly, readFrom, hbuffer, List.length_nil, Nat.zero_lt_one, ↓reduceIte]
      rw [← hbuffer]
    exact Proc.bind_of_running (Proc.bind_of_running hread _) _
  unfold receiveNextCommand
  rw [Proc.loop_succ, hpass]

theorem respondTo_handled {c : Command} {d d' : MockBootloader} {payload : Bytes}
    (hhandled : handleCommand c d = (.ok payload, d')) :
    respondTo c ⟨d, [], []⟩ = (.ok (some (.success payload)), ⟨d', [], []⟩) := by
  have hpost : wp (respondTo c) (.returns fun r w =>
      r = some (.success payload) ∧ w = ⟨d', [], []⟩) ⟨d, [], []⟩ := by
    simp only [respondTo, wp_catching, wp_bind, onDevice, wp_zoom]
    rw [wp_of_eq hhandled]
    exact ⟨rfl, rfl⟩
  obtain ⟨_, _, hrun, rfl, rfl⟩ := wp_returns_iff.mp hpost
  exact hrun

/-- A handler that cannot encode its value is answered for by a failure. -/
theorem respondTo_overflow {c : Command} {d d' : MockBootloader}
    (hraised : handleCommand c d = (.raised .overflowError, d')) :
    respondTo c ⟨d, [], []⟩ = (.ok (some .failure), ⟨d', [], []⟩) := by
  have hpost : wp (respondTo c) (.returns fun r w =>
      r = some .failure ∧ w = ⟨d', [], []⟩) ⟨d, [], []⟩ := by
    simp only [respondTo, wp_catching, wp_bind, onDevice, wp_zoom]
    rw [wp_of_eq hraised]
    exact ⟨rfl, rfl⟩
  obtain ⟨_, _, hrun, rfl, rfl⟩ := wp_returns_iff.mp hpost
  exact hrun

theorem nextResponse_eq {c : Command} (hfit : ArgumentsFit c) (hc : IsCommand c.type)
    {d d' : MockBootloader} (hready : d.buffer = []) {raw : Bytes} {r : Response}
    (hraw : c.toBytes = .ok raw)
    (hresponse : respondTo c ⟨d, [], []⟩ = (.ok (some r), ⟨d', [], []⟩)) (fuel : Nat) :
    nextResponse (fuel + 1) ⟨d, [.chunk raw], []⟩ = (.ok (some r), ⟨d', [], []⟩) := by
  have hreceived := receiveNextCommand_eq hfit hc hready hraw fuel
  have hpost : wp (nextResponse (fuel + 1)) (.returns fun response w =>
      response = some r ∧ w = ⟨d', [], []⟩) ⟨d, [.chunk raw], []⟩ := by
    unfold nextResponse
    simp only [wp_bind, wp_catching]
    rw [wp_of_eq hreceived]
    simp only [Post.Holds, wp_pure]
    rw [wp_of_eq hresponse]
    exact ⟨rfl, rfl⟩
  obtain ⟨_, _, hrun, rfl, rfl⟩ := wp_returns_iff.mp hpost
  exact hrun

theorem nextResponse_waiting {d : MockBootloader} (hbuffer : d.buffer = []) (replies : Bytes)
    (fuel : Nat) :
    nextResponse (fuel + 1) ⟨d, [], replies⟩ = (.running, ⟨d, [], replies⟩) := by
  have hreceived := receiveNextCommand_waiting hbuffer replies fuel
  exact Proc.bind_of_running
    (Proc.catching_of_running (Proc.bind_of_running hreceived _) _) _

/-- A device that waits for the next command, or has been told to exit, does nothing more. -/
theorem run_waiting {d : MockBootloader} (hbuffer : d.buffer = []) (replies : Bytes)
    (fuel inner : Nat) :
    (Proc.loop (runPass (inner + 1)) fuel () ⟨d, [], replies⟩).2 = ⟨d, [], replies⟩ := by
  have hloop : wp (Proc.loop (runPass (inner + 1)) fuel ())
      (.always fun w => w = ⟨d, [], replies⟩) ⟨d, [], replies⟩ := by
    apply wp_loop_invariant (fun _ w => w = ⟨d, [], replies⟩) (fun _ _ h => h) ?_ fuel rfl
    rintro _ _ rfl
    unfold runPass
    rw [wp_bind, wp_get]
    dsimp only
    split_ifs
    · rfl
    · rw [wp_bind, wp_of_eq (nextResponse_waiting hbuffer replies inner)]
      rfl
  exact wp_always_iff.mp hloop

theorem respond_eq {c : Command} (hfit : ArgumentsFit c) (hc : IsCommand c.type)
    {d d' : MockBootloader} (hready : Ready d) {raw : Bytes} {r : Response}
    (hraw : c.toBytes = .ok raw)
    (hresponse : respondTo c ⟨d, [], []⟩ = (.ok (some r), ⟨d', [], []⟩)) (hbuffer : d'.buffer = [])
    (hkeeps : d'.dropNextResponse = false) : respond raw d = (r.toBytes, d') := by
  have hnext := nextResponse_eq hfit hc hready.buffer hraw hresponse (raw.length + 1)
  have hpass : wp (runPass (raw.length + 2) ()) (.returns fun result w =>
      result = .inl () ∧ w = ⟨d', [], r.toBytes⟩) ⟨d, [.chunk raw], []⟩ := by
    unfold runPass
    rw [wp_bind, wp_get]
    dsimp only
    rw [hready.running, if_neg (by decide), wp_bind, wp_of_eq hnext]
    simp only [Post.Holds, wp_bind, wp_get, hkeeps, Bool.false_eq_true, ↓reduceIte, wp_modify]
    exact ⟨rfl, rfl⟩
  obtain ⟨_, _, hfirst, rfl, rfl⟩ := wp_returns_iff.mp hpass
  have hrest := run_waiting hbuffer r.toBytes (raw.length + 1) (raw.length + 1)
  have hrun : (run (raw.length + 2) ⟨d, [.chunk raw], []⟩).2 = ⟨d', [], r.toBytes⟩ := by
    unfold run
    rw [Proc.loop_succ, hfirst]
    exact hrest
  unfold respond
  rw [hrun]

end ApUploader.MockBootloader
