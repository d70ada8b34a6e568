import ApUploader.Connection.MainFirmware

/-! # Waiting for a heartbeat

What `_wait_for_heartbeat` does is decided by what the transport delivers: the chunks
are parsed one by one until a heartbeat is among the messages, and an exception of a
receive ends the wait. Both endings are said of the deliveries alone.
-/

namespace ApUploader.BootloaderConnection

open Effect

variable {σ κ : Type}

inductive Delivers (R : Runtime σ) (timeout : Nat) : σ → List Bytes → σ → Prop where
  | nil (s : σ) : Delivers R timeout s [] s
  | cons {s s' s'' : σ} {data : Bytes} {rest : List Bytes}
      (head : R.receive timeout s = (.ended (.ok data), s'))
      (tail : Delivers R timeout s' rest s'') : Delivers R timeout s (data :: rest) s''

def EndsWait (error : Exn) : Prop := error = .timeoutError ∨ error = .excessDataError

/-- What is received in time holds no heartbeat. -/
def MissesFrom (sha256 : Bytes → Bytes) (R : Runtime σ) (timeout : Nat) (mavlink : MAVLink)
    (s : σ) : Prop :=
  ∃ fuel chunks s' mavlink' error, Delivers R timeout s chunks s' ∧
    mavlink.waitForHeartbeat sha256 fuel chunks = some (.ok none, mavlink') ∧
    (R.receive timeout s').1 = .ended (.error error) ∧ EndsWait error

def HearsFrom (sha256 : Bytes → Bytes) (R : Runtime σ) (timeout : Nat) (mavlink : MAVLink)
    (s : σ) : Prop :=
  ∃ fuel chunks s' mavlink' message, Delivers R timeout s chunks s' ∧
    mavlink.waitForHeartbeat sha256 fuel chunks = some (.ok (some message), mavlink')

def mavlinkOf (w : BootloaderConnection σ (Owner κ)) : MAVLink :=
  w.client.mavlink.getD (.new w.client.systemId 190)

section

variable {R : Runtime σ} {sha256 : Bytes → Bytes} {timeout : Nat} {mavlink mavlink' : MAVLink}
  {s s' : σ} {data : Bytes}

theorem waitForHeartbeat_silent {fuel : Nat} {rest : List Bytes}
    {messages : Option (List MAVLinkMessage)}
    (hparse : mavlink.parseBuffer sha256 fuel data = some (.ok messages, mavlink'))
    (hnone : (messages.getD []).find? MAVLink.isHeartbeat = none) :
    mavlink.waitForHeartbeat sha256 fuel (data :: rest) =
      mavlink'.waitForHeartbeat sha256 fuel rest := by
  rw [MAVLink.waitForHeartbeat, hparse]
  simp only [hnone]

theorem waitForHeartbeat_cons_none {fuel : Nat} {rest : List Bytes}
    (h : mavlink.waitForHeartbeat sha256 fuel (data :: rest) = some (.ok none, mavlink')) :
    ∃ messages next, mavlink.parseBuffer sha256 fuel data = some (.ok messages, next) ∧
      (messages.getD []).find? MAVLink.isHeartbeat = none ∧
      next.waitForHeartbeat sha256 fuel rest = some (.ok none, mavlink') := by
  rw [MAVLink.waitForHeartbeat] at h
  rcases hparse : mavlink.parseBuffer sha256 fuel data with _ | ⟨parsed, next⟩
  · rw [hparse] at h
    cases h
  · rw [hparse] at h
    cases parsed with
    | error error => cases h
    | ok messages =>
        dsimp only at h
        cases hfind : (messages.getD []).find? MAVLink.isHeartbeat with
        | some message =>
            rw [hfind] at h
            cases h
        | none =>
            rw [hfind] at h
            exact ⟨messages, next, rfl, hfind, h⟩

theorem waitForHeartbeat_mono {fuel fuel' : Nat} {chunks : List Bytes}
    {result : Except MavlinkExn (Option MAVLinkMessage) × MAVLink} (hfuel : fuel ≤ fuel')
    (h : mavlink.waitForHeartbeat sha256 fuel chunks = some result) :
    mavlink.waitForHeartbeat sha256 fuel' chunks = some result := by
  induction chunks generalizing mavlink with
  | nil => exact h
  | cons data rest ih =>
      unfold MAVLink.waitForHeartbeat at h ⊢
      cases hparse : mavlink.parseBuffer sha256 fuel data with
      | none =>
          rw [hparse] at h
          cases h
      | some parsed =>
          rw [hparse] at h
          rw [MAVLink.parseBuffer_mono hfuel hparse]
          obtain ⟨parsed, mavlink'⟩ := parsed
          cases parsed with
          | error error => exact h
          | ok messages =>
              dsimp only at h ⊢
              cases hfind : (messages.getD []).find? MAVLink.isHeartbeat with
              | some message =>
                  rw [hfind] at h
                  exact h
              | none =>
                  rw [hfind] at h
                  exact ih h

theorem getMavlink_eq (w : BootloaderConnection σ (Owner κ)) :
    getMavlink w = (.ok (mavlinkOf w), { w with client.mavlink := some (mavlinkOf w) }) := by
  unfold getMavlink mavlinkOf
  rw [Proc.get_bind]
  cases hmavlink : w.client.mavlink with
  | none => rfl
  | some mavlink =>
      have hsame : { w with client.mavlink := some mavlink } = w := by rw [← hmavlink]
      rw [Option.getD_some, hsame]
      rfl

def behind (w : BootloaderConnection σ (Owner κ)) (s : σ) (mavlink : MAVLink) :
    BootloaderConnection σ (Owner κ) :=
  { w with link.transport := s, client.mavlink := some mavlink }

theorem toExn_not_endsWait (error : MavlinkExn) : ¬ EndsWait error.toExn := by
  unfold EndsWait
  cases error <;> simp [MavlinkExn.toExn]

variable {fuel : Nat} {w : BootloaderConnection σ (Owner κ)}

theorem heartbeatPass_received
    (hreceive : R.receive timeout w.link.transport = (.ended (.ok data), s)) :
    heartbeatPass sha256 R fuel timeout () w =
      (parseReceived sha256 fuel data >>= fun messages =>
        match messages.find? MAVLink.isHeartbeat with
        | some message => pure (.inr message)
        | none => pure (.inl ())) { w with link.transport := s } := by
  have hdata : transportReceive R timeout w = (.ok data, { w with link.transport := s }) := by
    unfold transportReceive
    rw [hreceive]
  exact Proc.bind_of_ok hdata _

theorem parseReceived_ok {messages : Option (List MAVLinkMessage)}
    (hparse : (mavlinkOf w).parseBuffer sha256 fuel data = some (.ok messages, mavlink')) :
    parseReceived sha256 fuel data w =
      (.ok (messages.getD []), { w with client.mavlink := some mavlink' }) := by
  unfold parseReceived
  rw [Proc.bind_of_ok (getMavlink_eq w), hparse]
  rfl

theorem parseReceived_error {error : MavlinkExn}
    (hparse : (mavlinkOf w).parseBuffer sha256 fuel data = some (.error error, mavlink')) :
    parseReceived sha256 fuel data w =
      (.raised error.toExn, { w with client.mavlink := some mavlink' }) := by
  unfold parseReceived
  rw [Proc.bind_of_ok (getMavlink_eq w), hparse]
  rfl

theorem parseReceived_running (hparse : (mavlinkOf w).parseBuffer sha256 fuel data = none) :
    parseReceived sha256 fuel data w =
      (.running, { w with client.mavlink := some (mavlinkOf w) }) := by
  unfold parseReceived
  rw [Proc.bind_of_ok (getMavlink_eq w), hparse]

/-- A chunk without a heartbeat: the wait goes on. -/
theorem heartbeatPass_silent {messages : Option (List MAVLinkMessage)}
    (hreceive : R.receive timeout w.link.transport = (.ended (.ok data), s))
    (hparse : (mavlinkOf w).parseBuffer sha256 fuel data = some (.ok messages, mavlink'))
    (hnone : (messages.getD []).find? MAVLink.isHeartbeat = none) :
    heartbeatPass sha256 R fuel timeout () w = (.ok (.inl ()), behind w s mavlink') := by
  rw [heartbeatPass_received hreceive,
    Proc.bind_of_ok (parseReceived_ok (w := { w with link.transport := s }) hparse), hnone]
  rfl

theorem heartbeatPass_heard {messages : Option (List MAVLinkMessage)} {message : MAVLinkMessage}
    (hreceive : R.receive timeout w.link.transport = (.ended (.ok data), s))
    (hparse : (mavlinkOf w).parseBuffer sha256 fuel data = some (.ok messages, mavlink'))
    (hsome : (messages.getD []).find? MAVLink.isHeartbeat = some message) :
    heartbeatPass sha256 R fuel timeout () w = (.ok (.inr message), behind w s mavlink') := by
  rw [heartbeatPass_received hreceive,
    Proc.bind_of_ok (parseReceived_ok (w := { w with link.transport := s }) hparse), hsome]
  rfl

theorem heartbeatPass_raised {error : Exn}
    (hreceive : R.receive timeout w.link.transport = (.ended (.error error), s)) :
    heartbeatPass sha256 R fuel timeout () w =
      (.raised error, { w with link.transport := s }) := by
  have hraised : transportReceive R timeout w =
      (.raised error, { w with link.transport := s }) := by
    unfold transportReceive
    rw [hreceive]
  exact Proc.bind_of_raised hraised _

/-- A chunk without a heartbeat leads to no other ending. -/
theorem MissesFrom.cons {messages : Option (List MAVLinkMessage)}
    (h : MissesFrom sha256 R timeout mavlink' s')
    (hreceive : R.receive timeout s = (.ended (.ok data), s'))
    (hparse : mavlink.parseBuffer sha256 fuel data = some (.ok messages, mavlink'))
    (hnone : (messages.getD []).find? MAVLink.isHeartbeat = none) :
    MissesFrom sha256 R timeout mavlink s := by
  obtain ⟨enough, chunks, last, mavlink'', error, hdelivers, hwait, hlast, hends⟩ := h
  refine ⟨max fuel enough, data :: chunks, last, mavlink'', error, .cons hreceive hdelivers, ?_,
    hlast, hends⟩
  have hlong := MAVLink.parseBuffer_mono (Nat.le_max_left fuel enough) hparse
  rw [waitForHeartbeat_silent hlong hnone]
  exact waitForHeartbeat_mono (Nat.le_max_right fuel enough) hwait

theorem HearsFrom.cons {messages : Option (List MAVLinkMessage)}
    (h : HearsFrom sha256 R timeout mavlink' s')
    (hreceive : R.receive timeout s = (.ended (.ok data), s'))
    (hparse : mavlink.parseBuffer sha256 fuel data = some (.ok messages, mavlink'))
    (hnone : (messages.getD []).find? MAVLink.isHeartbeat = none) :
    HearsFrom sha256 R timeout mavlink s := by
  obtain ⟨enough, chunks, last, mavlink'', message, hdelivers, hwait⟩ := h
  refine ⟨max fuel enough, data :: chunks, last, mavlink'', message, .cons hreceive hdelivers, ?_⟩
  have hlong := MAVLink.parseBuffer_mono (Nat.le_max_left fuel enough) hparse
  rw [waitForHeartbeat_silent hlong hnone]
  exact waitForHeartbeat_mono (Nat.le_max_right fuel enough) hwait

/-- The two endings exclude each other. -/
theorem HearsFrom.not_misses (h : HearsFrom sha256 R timeout mavlink s) :
    ¬ MissesFrom sha256 R timeout mavlink s := by
  rintro ⟨enough, chunks', s', mavlink', error, hdelivers', hmissed, hlast, -⟩
  obtain ⟨fuel, chunks, last, mavlink'', message, hdelivers, hheard⟩ := h
  have hlong := waitForHeartbeat_mono (Nat.le_max_left fuel enough) hheard
  have hlong' := waitForHeartbeat_mono (Nat.le_max_right fuel enough) hmissed
  clear hheard hmissed
  induction hdelivers generalizing mavlink chunks' with
  | nil s => cases hlong
  | cons head tail ih =>
      cases hdelivers' with
      | nil =>
          rw [head] at hlast
          cases hlast
      | cons head' tail' =>
          cases head.symm.trans head'
          obtain ⟨messages, next, hparse, hnone, hrest⟩ := waitForHeartbeat_cons_none hlong'
          rw [waitForHeartbeat_silent hparse hnone] at hlong
          exact ih _ tail' hlong hrest

theorem heartbeatPass_never (hreceive : R.receive timeout w.link.transport = (.never, s)) :
    heartbeatPass sha256 R fuel timeout () w = (.running, { w with link.transport := s }) := by
  have hnever : transportReceive R timeout w = (.running, { w with link.transport := s }) := by
    unfold transportReceive
    rw [hreceive]
  exact Proc.bind_of_running hnever _

/-- The wait, however it ends: a heartbeat was heard, or what ended it came before one. -/
theorem wp_waitLoop (n : Nat) :
    wp (Proc.loop (heartbeatPass sha256 R fuel timeout) n ())
      ⟨fun _ _ => HearsFrom sha256 R timeout (mavlinkOf w) w.link.transport,
        fun error _ => EndsWait error →
          MissesFrom sha256 R timeout (mavlinkOf w) w.link.transport,
        fun _ => True⟩ w := by
  induction n generalizing w with
  | zero => trivial
  | succ n ih =>
      unfold wp
      rw [Proc.loop_succ]
      rcases hreceive : R.receive timeout w.link.transport with ⟨outcome, s⟩
      cases outcome with
      | never =>
          rw [heartbeatPass_never hreceive]
          trivial
      | ended result =>
          cases result with
          | error error =>
              rw [heartbeatPass_raised hreceive]
              intro hends
              exact ⟨0, [], _, mavlinkOf w, error, .nil _, rfl, by rw [hreceive], hends⟩
          | ok data =>
              cases hparse : (mavlinkOf w).parseBuffer sha256 fuel data with
              | none =>
                  rw [heartbeatPass_received hreceive, Proc.bind_of_running
                    (parseReceived_running (w := { w with link.transport := s }) hparse)]
                  trivial
              | some parsed =>
                  obtain ⟨parsed, mavlink'⟩ := parsed
                  cases parsed with
                  | error error =>
                      rw [heartbeatPass_received hreceive, Proc.bind_of_raised
                        (parseReceived_error (w := { w with link.transport := s }) hparse)]
                      exact fun hends => absurd hends (toExn_not_endsWait error)
                  | ok messages =>
                      cases hfind : (messages.getD []).find? MAVLink.isHeartbeat with
                      | some message =>
                          rw [heartbeatPass_heard hreceive hparse hfind]
                          refine ⟨fuel, [data], s, mavlink', message, .cons hreceive (.nil s), ?_⟩
                          rw [MAVLink.waitForHeartbeat, hparse]
                          simp only [hfind]
                      | none =>
                          rw [heartbeatPass_silent hreceive hparse hfind]
                          refine wp_mono (ih (w := behind w s mavlink')) ?_ ?_ (fun _ h => h)
                          · exact fun _ _ h => h.cons hreceive hparse hfind
                          · exact fun _ _ h hends => (h hends).cons hreceive hparse hfind

/-- What ends the wait ends it at every large enough fuel. -/
theorem waitLoop_missed {chunks : List Bytes} {error : Exn}
    (hdelivers : Delivers R timeout s chunks s') (hw : w.link.transport = s)
    (hwait : (mavlinkOf w).waitForHeartbeat sha256 fuel chunks = some (.ok none, mavlink'))
    (hlast : (R.receive timeout s').1 = .ended (.error error)) {n : Nat}
    (hn : chunks.length < n) :
    ∃ w', Proc.loop (heartbeatPass sha256 R fuel timeout) n () w = (.raised error, w') := by
  induction hdelivers generalizing w n with
  | nil s =>
      obtain ⟨n, rfl⟩ : ∃ more, n = more + 1 := ⟨n - 1, by omega⟩
      have hreceive : R.receive timeout w.link.transport =
          (.ended (.error error), (R.receive timeout s).2) := by
        rw [hw, ← hlast]
      rw [Proc.loop_succ, heartbeatPass_raised hreceive]
      exact ⟨_, rfl⟩
  | @cons s s₁ _ data rest head tail ih =>
      obtain ⟨n, rfl⟩ : ∃ more, n = more + 1 := ⟨n - 1, by omega⟩
      obtain ⟨messages, mavlink₁, hparse, hnone, hrest⟩ := waitForHeartbeat_cons_none hwait
      subst hw
      rw [Proc.loop_succ, heartbeatPass_silent head hparse hnone]
      exact ih (w := behind w s₁ mavlink₁) rfl hrest hlast (by simpa using hn)

theorem wp_waitForHeartbeat :
    wp (waitForHeartbeat sha256 R fuel timeout)
      ⟨fun _ _ => HearsFrom sha256 R timeout (mavlinkOf w) w.link.transport,
        fun error _ => EndsWait error →
          MissesFrom sha256 R timeout (mavlinkOf w) w.link.transport,
        fun _ => True⟩ w := by
  unfold waitForHeartbeat
  rw [wp_of_eq (Proc.bind_of_ok (getMavlink_eq w) _)]
  exact wp_waitLoop (w := { w with client.mavlink := some (mavlinkOf w) }) fuel

theorem waitForHeartbeat_missed
    (h : MissesFrom sha256 R timeout (mavlinkOf w) w.link.transport) :
    ∃ fuel error w', EndsWait error ∧
      waitForHeartbeat sha256 R fuel timeout w = (.raised error, w') := by
  obtain ⟨enough, chunks, s', mavlink', error, hdelivers, hwait, hlast, hends⟩ := h
  have hlong := waitForHeartbeat_mono (Nat.le_max_left enough (chunks.length + 1)) hwait
  obtain ⟨w', hloop⟩ := waitLoop_missed (w := { w with client.mavlink := some (mavlinkOf w) })
    hdelivers rfl hlong hlast (Nat.le_max_right enough (chunks.length + 1))
  refine ⟨max enough (chunks.length + 1), error, w', hends, ?_⟩
  unfold waitForHeartbeat
  rw [Proc.bind_of_ok (getMavlink_eq w)]
  exact hloop

end

def vehicleHeartbeat : Bytes := [254, 9, 0, 1, 1, 0, 0, 0, 0, 0, 2, 3, 81, 4, 3, 125, 221]

end ApUploader.BootloaderConnection
