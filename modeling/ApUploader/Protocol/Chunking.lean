import ApUploader.Protocol.Awaiting

/-! # Parsing does not depend on how the bytes were split

After each chunk the caller polls until more data is needed or it is its turn.
Excess data is reported in pieces that depend on the chunks, so runs are compared
by their tokens: the single bytes of excess data and the responses. Draining a
state before more bytes arrive changes neither the tokens nor the final state.
-/

namespace ApUploader

/-- A byte of excess data, or another event. -/
inductive Token where
  | stray (byte : UInt8)
  | event (event : Event)

def Event.tokens : Event → List Token
  | .excessData payload => payload.map .stray
  | event => [.event event]

namespace Protocol

/-! ## Polling and delivery -/

/-- How many received bytes a state holds, which bounds the polls that report something. -/
def pending (p : Protocol) : Nat := p.payload.length + p.buffer.length

/-- Poll until `nextEvent` returns NEED_MORE_DATA or `None`: the other events, and the state behind
them; `none` when a poll raises or the fuel does not suffice. -/
def pollAll : Nat → Protocol → Option (List Event × Protocol)
  | 0, _ => none
  | fuel + 1, p =>
      match p.nextEvent with
      | (.error _, _) => none
      | (.ok none, q) => some ([], q)
      | (.ok (some .needMoreData), q) => some ([], q)
      | (.ok (some event), q) => (pollAll fuel q).map fun (events, q) => (event :: events, q)

def deliver (p : Protocol) : List Bytes → Option (List Event × Protocol)
  | [] => some ([], p)
  | chunk :: rest =>
      match p.feed chunk with
      | .error _ => none
      | .ok p =>
          (pollAll (p.pending + 1) p).bind fun (events, p) =>
            (deliver p rest).map fun (later, p) => (events ++ later, p)

/-- Put excess data in front of the events, as one event with excess data that follows. -/
def prependExcess (payload : Bytes) : List Event → List Event
  | .excessData next :: rest => .excessData (payload ++ next) :: rest
  | rest => .excessData payload :: rest

def mergeExcess : List Event → List Event
  | [] => []
  | .excessData payload :: rest => prependExcess payload (mergeExcess rest)
  | event :: rest => event :: mergeExcess rest

/-! ## Tokens -/

def tokens (events : List Event) : List Token := events.flatMap Event.tokens

@[simp] theorem tokens_nil : tokens [] = [] := rfl

@[simp] theorem tokens_cons (event : Event) (rest : List Event) :
    tokens (event :: rest) = event.tokens ++ tokens rest := rfl

@[simp] theorem tokens_append (front back : List Event) :
    tokens (front ++ back) = tokens front ++ tokens back := List.flatMap_append

def assemble : List Token → List Event
  | [] => []
  | .stray byte :: rest => prependExcess [byte] (assemble rest)
  | .event event :: rest => event :: assemble rest

theorem prependExcess_append (front back : Bytes) (events : List Event) :
    prependExcess (front ++ back) events = prependExcess front (prependExcess back events) := by
  cases events with
  | nil => rfl
  | cons event rest => cases event <;> simp [prependExcess]

theorem assemble_strays {payload : Bytes} (h : payload ≠ []) (rest : List Token) :
    assemble (payload.map .stray ++ rest) = prependExcess payload (assemble rest) := by
  induction payload with
  | nil => exact (h rfl).elim
  | cons byte tail ih =>
      by_cases htail : tail = []
      · subst htail
        rfl
      · have hsplit : byte :: tail = [byte] ++ tail := rfl
        rw [hsplit, prependExcess_append, ← ih htail]
        rfl

def Substantial (events : List Event) : Prop :=
  ∀ payload, .excessData payload ∈ events → payload ≠ []

theorem mergeExcess_eq {events : List Event} (h : Substantial events) :
    mergeExcess events = assemble (tokens events) := by
  induction events with
  | nil => rfl
  | cons event rest ih =>
      have hrest : mergeExcess rest = assemble (tokens rest) :=
        ih fun payload hmem => h payload (List.mem_cons_of_mem _ hmem)
      cases event with
      | excessData payload =>
          have hsome : payload ≠ [] := h payload List.mem_cons_self
          rw [tokens_cons, Event.tokens, assemble_strays hsome, ← hrest]
          rfl
      | _ => exact congrArg (List.cons _) hrest

/-! ## Draining -/

inductive Drains : Protocol → List Event → Protocol → Prop where
  | turn {p q : Protocol} (hstep : p.nextEvent = (.ok none, q)) : Drains p [] q
  | starved {p q : Protocol} (hstep : p.nextEvent = (.ok (some .needMoreData), q)) : Drains p [] q
  | event {p q r : Protocol} {event : Event} {events : List Event}
      (hstep : p.nextEvent = (.ok (some event), q)) (hevent : event ≠ .needMoreData)
      (hrest : Drains q events r) : Drains p (event :: events) r

/-- Equal polls lead to the same drained state. -/
theorem Drains.congr {p p' r : Protocol} {events : List Event} (h : Drains p events r)
    (heq : p'.nextEvent = p.nextEvent) : Drains p' events r := by
  cases h with
  | turn hstep => exact .turn (heq.trans hstep)
  | starved hstep => exact .starved (heq.trans hstep)
  | event hstep hevent hrest => exact .event (heq.trans hstep) hevent hrest

theorem Drains.unique {p q q' : Protocol} {events events' : List Event} (h : Drains p events q)
    (h' : Drains p events' q') : events = events' ∧ q = q' := by
  induction h generalizing events' q' with
  | turn hstep =>
      cases h' with
      | turn hstep' => rw [hstep] at hstep'; cases hstep'; exact ⟨rfl, rfl⟩
      | starved hstep' => rw [hstep] at hstep'; cases hstep'
      | event hstep' => rw [hstep] at hstep'; cases hstep'
  | starved hstep =>
      cases h' with
      | turn hstep' => rw [hstep] at hstep'; cases hstep'
      | starved hstep' => rw [hstep] at hstep'; cases hstep'; exact ⟨rfl, rfl⟩
      | event hstep' hevent' => rw [hstep] at hstep'; cases hstep'; exact (hevent' rfl).elim
  | event hstep hevent _ ih =>
      cases h' with
      | turn hstep' => rw [hstep] at hstep'; cases hstep'
      | starved hstep' => rw [hstep] at hstep'; cases hstep'; exact (hevent rfl).elim
      | event hstep' _ hrest' =>
          rw [hstep] at hstep'
          cases hstep'
          obtain ⟨hevents, hstate⟩ := ih hrest'
          exact ⟨by rw [hevents], hstate⟩

/-! ## Polls of a state that waits for sync -/

section WaitSync

variable {p : Protocol} {payload front rest data : Bytes} {status : UInt8}

theorem nextEvent_syncing (hw : p.WellFormed) (hopen : p.bufferClosed = false)
    (hsettle : p.settle = syncing payload data) :
    p.nextEvent = (syncing payload data).waitSyncBlock := by
  rw [nextEvent_eq_settle hw (by simp [hopen]), hsettle]
  simp [syncing]

theorem findIdx?_sync_eq_none (h : OpCode.inSync.toByte ∉ data) :
    data.findIdx? (· == OpCode.inSync.toByte) = none := by
  rw [List.findIdx?_eq_none_iff]
  intro byte hmem
  rw [beq_eq_false_iff_ne]
  rintro rfl
  exact h hmem

/-- Without a sync byte everything is excess data. -/
theorem nextEvent_noSync (hw : p.WellFormed) (hopen : p.bufferClosed = false)
    (hsettle : p.settle = syncing payload data) (hdata : data ≠ [])
    (hnone : OpCode.inSync.toByte ∉ data) :
    p.nextEvent = (.ok (some (.excessData (payload ++ data))), syncing [] []) := by
  have hfind := findIdx?_sync_eq_none hnone
  have hlen : 0 < data.length := List.length_pos_iff.mpr hdata
  rw [nextEvent_syncing hw hopen hsettle]
  simp [syncing, waitSyncBlock, hdata, hfind, purgeExcessData, hlen]

theorem nextEvent_beforeSync (hw : p.WellFormed) (hopen : p.bufferClosed = false)
    (hsettle : p.settle = syncing payload (front ++ OpCode.inSync.toByte :: rest))
    (hfront : front ≠ []) (hnone : OpCode.inSync.toByte ∉ front) :
    p.nextEvent = (.ok (some (.excessData (payload ++ front))),
      syncing [] (OpCode.inSync.toByte :: rest)) := by
  obtain ⟨n, hn⟩ : ∃ n, front.length = n + 1 :=
    ⟨front.length - 1, by have := List.length_pos_iff.mpr hfront; omega⟩
  have hfind : (front ++ OpCode.inSync.toByte :: rest).findIdx? (· == OpCode.inSync.toByte) =
      some (n + 1) := by
    rw [List.findIdx?_append, findIdx?_sync_eq_none hnone, ← hn]
    simp [List.findIdx?_cons]
  have htake : (front ++ OpCode.inSync.toByte :: rest).take (n + 1) = front :=
    List.take_left' hn
  have hdrop : (front ++ OpCode.inSync.toByte :: rest).drop (n + 1) =
      OpCode.inSync.toByte :: rest := List.drop_left' hn
  have hmin : min (n + 1) (front.length + (rest.length + 1)) = n + 1 := by omega
  rw [nextEvent_syncing hw hopen hsettle]
  simp [syncing, waitSyncBlock, hfind, purgeExcessData, hmin, htake, hdrop]

/-- A sync byte behind which no status follows is excess data with the byte behind it. -/
theorem nextEvent_badStatus (hw : p.WellFormed) (hopen : p.bufferClosed = false)
    (hsettle : p.settle = syncing payload (OpCode.inSync.toByte :: status :: rest))
    (hstatus : status ∉ acceptedStatus) :
    p.nextEvent = (.ok (some (.excessData (payload ++ [OpCode.inSync.toByte, status]))),
      syncing [] rest) := by
  rw [nextEvent_syncing hw hopen hsettle]
  simp [syncing, waitSyncBlock, readStatus, hstatus, purgeExcessData, List.findIdx?_cons]

theorem settle_eq_syncing (hw : p.WellFormed) (hopen : p.bufferClosed = false)
    (hstate : p.settle.state = .waitSync) :
    p.settle = syncing p.settle.payload p.settle.buffer := by
  have hexpected := (settle_wellFormed hw).sync hstate
  have hclosed : p.settle.bufferClosed = false := by simp [hopen]
  cases hp : p.settle with
  | mk buffer bufferClosed payload state bytesExpected =>
      rw [hp] at hstate hexpected hclosed
      simp only at hstate hexpected hclosed
      rw [hstate, hexpected, hclosed]
      rfl

theorem settle_append_syncing (hsettle : p.settle = syncing payload data) (later : Bytes) :
    (p.append later).settle = syncing payload (data ++ later) := by
  rw [← settle_append, hsettle]
  exact settle_of_waitSync rfl

end WaitSync

/-! ## Every state drains -/

theorem pending_settle_le (p : Protocol) : p.settle.pending ≤ p.pending := by
  have hlength : p.settleLength.pending ≤ p.pending := by
    unfold settleLength startWaitingForResponse startWaitingForSync pending
    split_ifs <;> simp <;> omega
  have hresponse : p.settle.pending ≤ p.settleLength.pending := by
    unfold settle settleResponse startWaitingForSync pending
    split_ifs
    · simp only [List.length_take, List.length_drop]
      omega
    · exact Nat.le_refl _
  omega

/-- A poll that reports something leaves fewer bytes. -/
theorem Yields.pending_lt {p q : Protocol} {event : Event}
    (hopen : p.bufferClosed = false) (h : p.Yields (some event) q)
    (hevent : event ≠ .needMoreData) : q.pending < p.pending := by
  have hsettle := pending_settle_le p
  cases h with
  | closed _ hclosed => simp [hopen] at hclosed
  | stray _ hdata =>
      have hlen := List.length_pos_iff.mpr hdata
      simpa [pending] using hlen
  | starved => exact (hevent rfl).elim
  | desync _ n hpos hle =>
      unfold pending at hsettle ⊢
      simp only [List.length_nil, List.length_drop]
      omega
  | response _ type rest _ hbuffer =>
      unfold pending at hsettle ⊢
      simp only [hbuffer, moveToInSyncState, List.length_cons, List.length_nil] at hsettle ⊢
      omega

theorem Yields.substantial {p q : Protocol} {payload : Bytes}
    (h : p.Yields (some (.excessData payload)) q) : payload ≠ [] := by
  cases h with
  | stray _ hdata => exact hdata
  | desync _ n hpos hle =>
      intro hnil
      have hlen := congrArg List.length hnil
      simp only [List.length_append, List.length_take, List.length_nil] at hlen
      omega

theorem drains_total {p : Protocol} (hw : p.WellFormed) (hopen : p.bufferClosed = false) :
    ∃ events q, Drains p events q ∧ q.WellFormed ∧ q.bufferClosed = false ∧ Substantial events ∧
      ∀ fuel, p.pending < fuel → pollAll fuel p = some (events, q) := by
  induction hbound : p.pending using Nat.strong_induction_on generalizing p with
  | _ bound ih =>
      obtain ⟨event, q, hstep, hyields⟩ := nextEvent_yields hw
      have hwq := hyields.wellFormed hw
      have hopenq := hyields.isOpen hopen
      cases event with
      | none =>
          refine ⟨[], q, .turn hstep, hwq, hopenq, by simp [Substantial], fun fuel hfuel => ?_⟩
          obtain ⟨k, rfl⟩ : ∃ k, fuel = k + 1 := ⟨fuel - 1, by omega⟩
          simp [pollAll, hstep]
      | some event =>
          by_cases hevent : event = .needMoreData
          · subst hevent
            refine ⟨[], q, .starved hstep, hwq, hopenq, by simp [Substantial], fun fuel hfuel => ?_⟩
            obtain ⟨k, rfl⟩ : ∃ k, fuel = k + 1 := ⟨fuel - 1, by omega⟩
            simp [pollAll, hstep]
          · have hless := hyields.pending_lt hopen hevent
            obtain ⟨events, r, hdrains, hwr, hopenr, hevents, hpoll⟩ :=
              ih q.pending (by omega) hwq hopenq rfl
            refine ⟨event :: events, r, .event hstep hevent hdrains, hwr, hopenr, ?_,
              fun fuel hfuel => ?_⟩
            · intro payload hmem
              rcases List.mem_cons.mp hmem with rfl | hmem
              · exact hyields.substantial
              · exact hevents payload hmem
            · obtain ⟨k, rfl⟩ : ∃ k, fuel = k + 1 := ⟨fuel - 1, by omega⟩
              have hrest := hpoll k (by omega)
              cases event <;> simp_all [pollAll]

/-! ## Draining early -/

/-- What draining early changes: the events, but neither their tokens nor the final state. -/
def DrainsEarly (p : Protocol) (events : List Event) (q : Protocol) (later : Bytes) : Prop :=
  ∃ whole rest r, Drains (p.append later) whole r ∧ Drains (q.append later) rest r ∧
    tokens whole = tokens events ++ tokens rest

/-- The same event first, with and without the later bytes. -/
theorem DrainsEarly.event {p q r : Protocol} {event : Event} {events : List Event} {later : Bytes}
    (h : DrainsEarly q events r later)
    (hstep : (p.append later).nextEvent = (.ok (some event), q.append later))
    (hevent : event ≠ .needMoreData) : DrainsEarly p (event :: events) r later := by
  obtain ⟨whole, rest, s, hwhole, hrest, htokens⟩ := h
  refine ⟨event :: whole, rest, s, .event hstep hevent hwhole, hrest, ?_⟩
  rw [tokens_cons, tokens_cons, htokens, List.append_assoc]

theorem drains_syncing_nil : Drains (syncing [] []) [] (syncing [] []) := .starved rfl

theorem syncing_wellFormed (payload data : Bytes) : (syncing payload data).WellFormed := by
  constructor <;> simp [syncing]

theorem drains_syncing_total (data : Bytes) :
    ∃ events r, Drains (syncing [] data) events r := by
  obtain ⟨events, r, hdrains, _⟩ := drains_total (syncing_wellFormed [] data) rfl
  exact ⟨events, r, hdrains⟩

theorem drainsEarly_noSync {p : Protocol} {payload data : Bytes} (later : Bytes)
    (hw : p.WellFormed) (hopen : p.bufferClosed = false) (hsettle : p.settle = syncing payload data)
    (hdata : data ≠ []) (hnone : OpCode.inSync.toByte ∉ data) :
    DrainsEarly p [.excessData (payload ++ data)] (syncing [] []) later := by
  have hwl : (p.append later).WellFormed := hw.append _
  have hwhole := settle_append_syncing hsettle later
  have hsettled : ∀ data, (syncing [] data).settle = syncing [] data :=
    fun _ => settle_of_waitSync rfl
  by_cases hsync : OpCode.inSync.toByte ∈ later
  · obtain ⟨front, rest, rfl, hfront⟩ := List.eq_append_cons_of_mem hsync
    obtain ⟨events, r, hdrains⟩ := drains_syncing_total (OpCode.inSync.toByte :: rest)
    rw [← List.append_assoc] at hwhole
    have hstep := nextEvent_beforeSync hwl hopen hwhole (by simp [hdata]) (by simp [hnone, hfront])
    have hall := Drains.event hstep (by simp) hdrains
    by_cases hnil : front = []
    · subst hnil
      exact ⟨_, events, r, hall, hdrains, by simp [Event.tokens]⟩
    · have hrest := nextEvent_beforeSync (syncing_wellFormed _ _) rfl
        (hsettled (front ++ OpCode.inSync.toByte :: rest)) hnil hfront
      exact ⟨_, _, r, hall, .event hrest (by simp) hdrains, by simp [Event.tokens]⟩
  · have hstep := nextEvent_noSync hwl hopen hwhole (by simp [hdata]) (by simp [hnone, hsync])
    have hall := Drains.event hstep (by simp) drains_syncing_nil
    by_cases hnil : later = []
    · subst hnil
      exact ⟨_, [], _, hall, drains_syncing_nil, by simp [Event.tokens]⟩
    · have hrest := nextEvent_noSync (syncing_wellFormed _ _) rfl (hsettled _) hnil hsync
      refine ⟨_, _, _, hall, .event hrest (by simp) drains_syncing_nil, ?_⟩
      simp [Event.tokens]

theorem drainsEarly_stray {p : Protocol} (later : Bytes) (hw : p.WellFormed)
    (hopen : p.bufferClosed = false) (hstate : ¬ p.Waiting) (hdata : p.payload ++ p.buffer ≠ []) :
    DrainsEarly p [.excessData (p.payload ++ p.buffer)] { p with payload := [], buffer := [] }
      later := by
  let empty : Protocol := { p with payload := [], buffer := [] }
  have hwe : empty.WellFormed := (Yields.stray hstate hdata).wellFormed hw
  have hempty : Drains empty [] empty := .turn (nextEvent_quiet hwe hopen hstate rfl rfl)
  have hstep : (p.append later).nextEvent =
      (.ok (some (.excessData (p.payload ++ (p.buffer ++ later)))), empty) := by
    refine nextEvent_stray (hw.append _) hopen hstate ?_
    rw [append_buffer, ← List.append_assoc]
    exact List.append_ne_nil_of_left_ne_nil hdata _
  have hall := Drains.event hstep (by simp) hempty
  by_cases hnil : later = []
  · subst hnil
    exact ⟨_, [], empty, hall, hempty, by simp [Event.tokens]⟩
  · have hrest : (empty.append later).nextEvent = (.ok (some (.excessData later)), empty) :=
      nextEvent_stray (hwe.append later) hopen hstate hnil
    exact ⟨_, _, empty, hall, .event hrest (by simp) hempty, by simp [Event.tokens]⟩

/-- Polling a state that has nothing to report early changes nothing. -/
theorem drainsEarly_nil {p q : Protocol} (later : Bytes) (hw : p.WellFormed)
    (hopen : p.bufferClosed = false)
    (hpoll : (q.append later).nextEvent = (p.append later).nextEvent) :
    DrainsEarly p [] q later := by
  obtain ⟨events, r, hdrains, _⟩ := drains_total (hw.append later)
    hopen
  exact ⟨events, events, r, hdrains, hdrains.congr hpoll, rfl⟩

/-- Settling early does not change what a poll returns. -/
theorem nextEvent_settle_append {p : Protocol} (later : Bytes) (hw : p.WellFormed)
    (hopen : p.bufferClosed = false) :
    (p.settle.append later).nextEvent = (p.append later).nextEvent := by
  have hwp : (p.append later).WellFormed := hw.append later
  have hws : (p.settle.append later).WellFormed := (settle_wellFormed hw).withBuffer _ _
  rw [nextEvent_eq_settle hws (by simp [append, hopen]), nextEvent_eq_settle hwp
    (by simp [append, hopen]), settle_append]

/-- A response in front of later bytes is reported first, as without them. -/
theorem nextEvent_response_append {p q : Protocol} {type : ResponseType} {payload : Bytes}
    (later : Bytes) (hw : p.WellFormed) (hopen : p.bufferClosed = false)
    (h : p.Yields (some (.response ⟨type, payload⟩)) q) :
    (p.append later).nextEvent = (.ok (some (.response ⟨type, payload⟩)), q.append later) := by
  cases h with
  | response hstate type rest htype hbuffer =>
      have hsettle := settle_eq_syncing hw hopen hstate
      rw [hbuffer] at hsettle
      have hlater := settle_append_syncing hsettle later
      have hwl : (p.append later).WellFormed := hw.append _
      rw [nextEvent_of_reply hwl hopen htype hlater, hsettle]
      rfl

/-- A purge while a reply is outstanding is the same with later bytes, unless there is no sync
byte: then it takes the whole buffer. -/
theorem desync_append {p q : Protocol} {excess : Bytes} (later : Bytes) (hw : p.WellFormed)
    (hopen : p.bufferClosed = false) (hstate : p.settle.state = .waitSync)
    (hstep : p.nextEvent = (.ok (some (.excessData excess)), q)) :
    (p.append later).nextEvent = (.ok (some (.excessData excess)), q.append later) ∨
      OpCode.inSync.toByte ∉ p.settle.buffer ∧ p.settle.buffer ≠ [] := by
  have hwl : (p.append later).WellFormed := hw.append _
  have hsettle := settle_eq_syncing hw hopen hstate
  generalize p.settle.payload = payload at hsettle
  generalize hdata : p.settle.buffer = data at hsettle
  have hlater := settle_append_syncing hsettle later
  by_cases hsync : OpCode.inSync.toByte ∈ data
  · obtain ⟨front, rest, rfl, hfront⟩ := List.eq_append_cons_of_mem hsync
    left
    by_cases hnil : front = []
    · subst hnil
      cases rest with
      | nil =>
          rw [nextEvent_of_starved hw hopen (.inr (.inr ⟨hstate, .inr hdata⟩))] at hstep
          cases hstep
      | cons status rest =>
          by_cases hstatus : status ∈ acceptedStatus
          · obtain ⟨type, htype, rfl⟩ := accepted_cases hstatus
            rw [nextEvent_of_reply hw hopen htype hsettle] at hstep
            cases hstep
          · rw [nextEvent_badStatus hw hopen hsettle hstatus] at hstep
            cases hstep
            exact nextEvent_badStatus hwl hopen hlater hstatus
    · rw [nextEvent_beforeSync hw hopen hsettle hnil hfront] at hstep
      cases hstep
      rw [List.append_assoc, List.cons_append] at hlater
      exact nextEvent_beforeSync hwl hopen hlater hnil hfront
  · right
    refine ⟨hsync, ?_⟩
    rintro rfl
    rw [nextEvent_of_starved hw hopen (.inr (.inr ⟨hstate, .inl hdata⟩))] at hstep
    cases hstep

/-- Whatever is polled before more bytes arrive, the tokens and the final state stay the same. -/
theorem Drains.early {p q : Protocol} {events : List Event} (h : Drains p events q)
    (hw : p.WellFormed) (hopen : p.bufferClosed = false) (later : Bytes) :
    DrainsEarly p events q later := by
  induction h with
  | @turn p q hstep =>
      obtain ⟨_, _, hpoll, hyields⟩ := nextEvent_yields hw
      rw [hstep] at hpoll
      cases hpoll
      cases hyields with
      | quiet => exact drainsEarly_nil later hw hopen rfl
  | @starved p q hstep =>
      obtain ⟨_, _, hpoll, hyields⟩ := nextEvent_yields hw
      rw [hstep] at hpoll
      cases hpoll
      cases hyields with
      | starved => exact drainsEarly_nil later hw hopen (nextEvent_settle_append later hw hopen)
  | @event p q r event events hstep hevent hrest ih =>
      obtain ⟨_, _, hpoll, hyields⟩ := nextEvent_yields hw
      rw [hstep] at hpoll
      cases hpoll
      have hwq := hyields.wellFormed hw
      have hrestEarly := ih hwq (hyields.isOpen hopen)
      cases hyields with
      | closed _ hclosed => simp [hopen] at hclosed
      | stray hstate hdata =>
          have hquiet := nextEvent_quiet hwq hopen hstate rfl rfl
          obtain ⟨rfl, rfl⟩ := hrest.unique (.turn hquiet)
          exact drainsEarly_stray later hw hopen hstate hdata
      | starved => exact (hevent rfl).elim
      | desync hstate n hpos hle =>
          rcases desync_append later hw hopen hstate hstep with hsame | ⟨hnone, hdata⟩
          · exact hrestEarly.event hsame hevent
          · have hsettle := settle_eq_syncing hw hopen hstate
            rw [nextEvent_noSync hw hopen hsettle hdata hnone] at hstep
            injection hstep with hreport hleft
            injection hreport with hreport
            injection hreport with hreport
            rw [← hleft] at hrest
            rw [← hreport]
            obtain ⟨rfl, rfl⟩ := hrest.unique drains_syncing_nil
            exact drainsEarly_noSync later hw hopen hsettle hdata hnone
      | response hstate type rest htype hbuffer =>
          have hsame := nextEvent_response_append later hw hopen
            (.response hstate type rest htype hbuffer)
          exact hrestEarly.event hsame hevent

/-! ## Whole deliveries -/

theorem Substantial.append {front back : List Event} (hfront : Substantial front)
    (hback : Substantial back) : Substantial (front ++ back) := by
  intro payload hmem
  rcases List.mem_append.mp hmem with hmem | hmem
  · exact hfront payload hmem
  · exact hback payload hmem

theorem append_append (p : Protocol) (front back : Bytes) :
    (p.append front).append back = p.append (front ++ back) := by
  simp [append]

theorem deliver_cons {p q r : Protocol} {chunk : Bytes} {rest : List Bytes}
    {events later : List Event} (hopen : p.bufferClosed = false) (hchunk : chunk ≠ [])
    (hpoll : ∀ fuel, (p.append chunk).pending < fuel →
      pollAll fuel (p.append chunk) = some (events, q))
    (hlater : q.deliver rest = some (later, r)) :
    p.deliver (chunk :: rest) = some (events ++ later, r) := by
  have hdrain := hpoll _ (Nat.lt_succ_self _)
  simp [deliver, feed_of_open hopen hchunk, hdrain, hlater]

/-- A delivery reports the tokens of all its bytes at once, and ends in the same state. -/
theorem deliver_total {p : Protocol} (chunk : Bytes) (rest : List Bytes) (hw : p.WellFormed)
    (hopen : p.bufferClosed = false) (hchunk : chunk ≠ []) (hrest : ∀ next ∈ rest, next ≠ []) :
    ∃ events whole q, p.deliver (chunk :: rest) = some (events, q) ∧ Substantial events ∧
      Drains (p.append (chunk ++ rest.flatten)) whole q ∧ tokens whole = tokens events := by
  induction rest generalizing p chunk with
  | nil =>
      obtain ⟨events, q, hdrains, _, _, hevents, hpoll⟩ :=
        drains_total (hw.append chunk) hopen
      have hdeliver := deliver_cons hopen hchunk hpoll (rfl : q.deliver [] = some ([], q))
      rw [List.append_nil] at hdeliver
      exact ⟨events, events, q, hdeliver, hevents, by simpa using hdrains, rfl⟩
  | cons next rest ih =>
      obtain ⟨events, q, hdrains, hwq, hopenq, hevents, hpoll⟩ :=
        drains_total (hw.append chunk) hopen
      obtain ⟨later, wholeLater, r, hlater, hsubstantial, hall, htokens⟩ :=
        ih next hwq hopenq (hrest next List.mem_cons_self)
          fun chunk hmem => hrest chunk (List.mem_cons_of_mem _ hmem)
      obtain ⟨whole, _, _, hwhole, hrestDrains, hsplit⟩ :=
        hdrains.early (hw.append _) hopen (next ++ rest.flatten)
      obtain ⟨rfl, rfl⟩ := hrestDrains.unique hall
      refine ⟨events ++ later, whole, _, deliver_cons hopen hchunk hpoll hlater,
        hevents.append hsubstantial, ?_, ?_⟩
      · rw [append_append] at hwhole
        exact hwhole
      · rw [hsplit, htokens, tokens_append]

/-- Two splits of the same bytes report the same events, up to the cuts in the excess data, and
end in the same state. -/
theorem deliver_chunking {p : Protocol} (hp : Reachable p) (hopen : p.bufferClosed = false)
    {chunks chunks' : List Bytes} (hchunks : ∀ chunk ∈ chunks, chunk ≠ [])
    (hchunks' : ∀ chunk ∈ chunks', chunk ≠ []) (hbytes : chunks.flatten = chunks'.flatten) :
    ∃ events events' q, p.deliver chunks = some (events, q) ∧
      p.deliver chunks' = some (events', q) ∧ mergeExcess events = mergeExcess events' := by
  have hw := hp.wellFormed
  cases chunks with
  | nil =>
      cases chunks' with
      | nil => exact ⟨[], [], p, rfl, rfl, rfl⟩
      | cons chunk' rest' =>
          have hnil : chunk' = [] := by
            have := hbytes.symm
            simp only [List.flatten_nil, List.flatten_cons, List.append_eq_nil_iff] at this
            exact this.1
          exact (hchunks' chunk' List.mem_cons_self hnil).elim
  | cons chunk rest =>
      cases chunks' with
      | nil =>
          have hnil : chunk = [] := by
            simp only [List.flatten_nil, List.flatten_cons, List.append_eq_nil_iff] at hbytes
            exact hbytes.1
          exact (hchunks chunk List.mem_cons_self hnil).elim
      | cons chunk' rest' =>
          obtain ⟨hhead, htail⟩ := List.forall_mem_cons.mp hchunks
          obtain ⟨hhead', htail'⟩ := List.forall_mem_cons.mp hchunks'
          obtain ⟨events, whole, q, hdeliver, hsome, hdrains, htokens⟩ :=
            deliver_total chunk rest hw hopen hhead htail
          obtain ⟨events', whole', q', hdeliver', hsome', hdrains', htokens'⟩ :=
            deliver_total chunk' rest' hw hopen hhead' htail'
          rw [List.flatten_cons, List.flatten_cons] at hbytes
          rw [← hbytes] at hdrains'
          obtain ⟨rfl, rfl⟩ := hdrains.unique hdrains'
          refine ⟨events, events', q, hdeliver, hdeliver', ?_⟩
          rw [mergeExcess_eq hsome, mergeExcess_eq hsome', ← htokens, ← htokens']

theorem deliver_chunking_garbage :
    ∃ events events' q,
      (new.apply (.send (.command .getSync))).deliver [[0xAA, 0x12], [0x10, 0x01, 0x12]] =
          some (events, q) ∧
        (new.apply (.send (.command .getSync))).deliver [[0xAA], [0x12, 0x10, 0x01], [0x12]] =
          some (events', q) ∧
        mergeExcess events = mergeExcess events' :=
  deliver_chunking (.apply _ .new) rfl (by decide) (by decide) rfl

end Protocol

end ApUploader
