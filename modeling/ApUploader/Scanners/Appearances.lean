import ApUploader.Logic.Monitor
import ApUploader.Scanners.Serial
import Mathlib.Data.List.Basic

/-! # Appearances of a serial port

A monitor follows one port through the events of a scanner: it appears, is inspected
once, and is offered once if the inspection was successful. As long as no inspection
outlives the appearance it was started in, the table of the scanner agrees with the
monitors of all ports.
-/

namespace ApUploader.SerialPortScanner

/-! ## One port in the events -/

/-- What the events say of one appearance of a port. -/
inductive Appearance where
  | absent
  | inspecting (id : Nat)
  | accepted (id : Nat)
  | rejected (id : Nat)
  | offered
  deriving DecidableEq

def offers (name : String) : Monitor Appearance ScanEvent where
  next phase
    | .scanned names => if name ∈ names then phase else .absent
    | .started id port => if port = name then .inspecting id else phase
    | .finished id result =>
        if phase = .inspecting id then if result then .accepted id else .rejected id else phase
    | .yielded port _ => if port = name then .offered else phase
  allowed phase
    | .scanned _ => True
    | .started _ port => port = name → phase = .absent
    | .finished id _ => phase ≠ .accepted id
    | .yielded port _ => port = name → ∃ id, phase = .accepted id

section Next

variable {name port : String} {phase : Appearance} {names : List String} {id : Nat}

theorem next_scanned_of_mem (h : name ∈ names) :
    (offers name).next phase (.scanned names) = phase := if_pos h

theorem next_scanned_of_not_mem (h : name ∉ names) :
    (offers name).next phase (.scanned names) = .absent := if_neg h

theorem next_started_self : (offers name).next phase (.started id name) = .inspecting id :=
  if_pos rfl

theorem next_started_of_ne (h : port ≠ name) :
    (offers name).next phase (.started id port) = phase := if_neg h

theorem next_finished_self (result : Bool) :
    (offers name).next (.inspecting id) (.finished id result) =
      if result then .accepted id else .rejected id := if_pos rfl

theorem next_finished_of_ne (h : phase ≠ .inspecting id) (result : Bool) :
    (offers name).next phase (.finished id result) = phase := if_neg h

theorem next_yielded_self (target : UploadTarget) :
    (offers name).next phase (.yielded name target) = .offered := if_pos rfl

theorem next_yielded_of_ne (h : port ≠ name) (target : UploadTarget) :
    (offers name).next phase (.yielded port target) = phase := if_neg h

end Next

def AcceptedIn (name : String) (stretch : List ScanEvent) : Prop :=
  ∃ front id middle back,
    stretch = front ++ .started id name :: (middle ++ .finished id true :: back)

theorem AcceptedIn.cons {name : String} {stretch : List ScanEvent} (h : AcceptedIn name stretch)
    (event : ScanEvent) : AcceptedIn name (event :: stretch) := by
  obtain ⟨front, id, middle, back, rfl⟩ := h
  exact ⟨event :: front, id, middle, back, rfl⟩

theorem Renewed.cons {name : String} {between : List ScanEvent} (h : Renewed name between)
    (event : ScanEvent) : Renewed name (event :: between) := by
  obtain ⟨front, names, middle, id, stretch, back, hname, rfl⟩ := h
  exact ⟨event :: front, names, middle, id, stretch, back, hname, rfl⟩

/-- How a stretch that ends with an accepted port has led there. -/
def Leads (name : String) (phase : Appearance) (stretch : List ScanEvent) : Prop :=
  match phase with
  | .accepted _ => True
  | .inspecting id => (∃ middle back, stretch = middle ++ .finished id true :: back) ∨
      AcceptedIn name stretch
  | _ => AcceptedIn name stretch

section Trace

variable {name : String} {phase : Appearance} {stretch : List ScanEvent} {last : Nat}

theorem AcceptedIn.leads (h : AcceptedIn name stretch) : Leads name phase stretch := by
  cases phase with
  | absent => exact h
  | inspecting id => exact .inr h
  | accepted id => trivial
  | rejected id => exact h
  | offered => exact h

theorem Leads.cons (h : Leads name phase stretch) (event : ScanEvent) :
    Leads name phase (event :: stretch) := by
  cases phase with
  | absent => exact AcceptedIn.cons h event
  | inspecting id =>
      rcases h with ⟨middle, back, rfl⟩ | h
      · exact .inl ⟨event :: middle, back, rfl⟩
      · exact .inr (h.cons event)
  | accepted id => trivial
  | rejected id => exact AcceptedIn.cons h event
  | offered => exact AcceptedIn.cons h event

theorem leads_of_run (h : (offers name).run phase stretch = .accepted last) :
    Leads name phase stretch := by
  induction stretch generalizing phase with
  | nil =>
      rw [Monitor.run_nil] at h
      subst h
      trivial
  | cons event rest ih =>
      rw [Monitor.run_cons] at h
      have hrest := ih h
      cases event with
      | scanned names =>
          by_cases hname : name ∈ names
          · rw [next_scanned_of_mem hname] at hrest
            exact hrest.cons _
          · rw [next_scanned_of_not_mem hname] at hrest
            exact (AcceptedIn.cons hrest _).leads
      | started id port =>
          by_cases hport : port = name
          · subst hport
            rw [next_started_self] at hrest
            rcases hrest with ⟨middle, back, rfl⟩ | hrest
            · exact AcceptedIn.leads ⟨[], id, middle, back, rfl⟩
            · exact (hrest.cons _).leads
          · rw [next_started_of_ne hport] at hrest
            exact hrest.cons _
      | finished id result =>
          by_cases hphase : phase = .inspecting id
          · subst hphase
            cases result with
            | true => exact .inl ⟨[], rest, rfl⟩
            | false =>
                rw [next_finished_self] at hrest
                exact (AcceptedIn.cons hrest _).leads
          · rw [next_finished_of_ne hphase] at hrest
            exact hrest.cons _
      | yielded port target =>
          by_cases hport : port = name
          · subst hport
            rw [next_yielded_self] at hrest
            exact (AcceptedIn.cons hrest _).leads
          · rw [next_yielded_of_ne hport] at hrest
            exact hrest.cons _

/-- Behind an offer only a scan without the port leads to another one. -/
theorem renewed_of_run (haccepts : (offers name).Accepts .offered stretch)
    (h : (offers name).run .offered stretch = .accepted last) : Renewed name stretch := by
  induction stretch with
  | nil => cases h
  | cons event rest ih =>
      rw [Monitor.run_cons] at h
      rw [Monitor.accepts_cons] at haccepts
      obtain ⟨hallowed, hrest⟩ := haccepts
      have hstay : (offers name).next .offered event = .offered → Renewed name (event :: rest) := by
        intro hnext
        rw [hnext] at h hrest
        exact (ih hrest h).cons event
      cases event with
      | scanned names =>
          by_cases hname : name ∈ names
          · exact hstay (next_scanned_of_mem hname)
          · rw [next_scanned_of_not_mem hname] at h
            obtain ⟨front, id, middle, back, rfl⟩ := leads_of_run h
            exact ⟨[], names, front, id, middle, back, hname, rfl⟩
      | started id port =>
          by_cases hport : port = name
          · cases hallowed hport
          · exact hstay (next_started_of_ne hport)
      | finished id result => exact hstay (next_finished_of_ne Appearance.noConfusion result)
      | yielded port target =>
          by_cases hport : port = name
          · obtain ⟨id, hid⟩ := hallowed hport
            cases hid
          · exact hstay (next_yielded_of_ne hport target)

/-- What finished inspections and an offer keep holds as long as the port is neither missed nor
inspected again. -/
theorem kept_of_run {P : Appearance → Prop} (hoffered : P .offered)
    (hfinished : ∀ phase other result, P phase →
      P ((offers name).next phase (.finished other result)))
    (hstarted : ∀ other, .started other name ∉ stretch)
    (hscanned : ∀ names, .scanned names ∈ stretch → name ∈ names) (h : P phase) :
    P ((offers name).run phase stretch) := by
  induction stretch generalizing phase with
  | nil => exact h
  | cons event rest ih =>
      rw [Monitor.run_cons]
      refine ih (fun other hmem => hstarted other (.tail _ hmem))
        (fun names hmem => hscanned names (.tail _ hmem)) ?_
      cases event with
      | scanned names =>
          rw [next_scanned_of_mem (hscanned names (.head _))]
          exact h
      | started other port =>
          have hport : port ≠ name := by
            rintro rfl
            exact hstarted other (.head _)
          rw [next_started_of_ne hport]
          exact h
      | finished other result => exact hfinished phase other result h
      | yielded port target =>
          by_cases hport : port = name
          · subst hport
            rw [next_yielded_self]
            exact hoffered
          · rw [next_yielded_of_ne hport]
            exact h

/-- Where an appearance can be when its inspection has finished without success. -/
def Settled (id : Nat) (phase : Appearance) : Prop := phase = .rejected id ∨ phase = .offered

theorem Settled.finished {id : Nat} (h : Settled id phase) (other : Nat) (result : Bool) :
    Settled id ((offers name).next phase (.finished other result)) := by
  have hphase : phase ≠ .inspecting other := by
    rcases h with rfl | rfl <;> exact Appearance.noConfusion
  rw [next_finished_of_ne hphase]
  exact h

def Ongoing (id : Nat) (phase : Appearance) : Prop :=
  phase = .inspecting id ∨ phase = .accepted id ∨ Settled id phase

theorem Ongoing.finished {id : Nat} (h : Ongoing id phase) (other : Nat) (result : Bool) :
    Ongoing id ((offers name).next phase (.finished other result)) := by
  by_cases hphase : phase = .inspecting other
  · rw [hphase] at h
    rcases h with h | h | h | h
    · cases h
      rw [hphase, next_finished_self]
      cases result with
      | true => exact .inr (.inl rfl)
      | false => exact .inr (.inr (.inl rfl))
    · cases h
    · cases h
    · cases h
  · rw [next_finished_of_ne hphase]
    exact h

/-- The failure of an inspection settles the appearance. -/
theorem settled_of_failed {id : Nat} {middle back : List ScanEvent}
    (haccepts : (offers name).Accepts (.inspecting id) (middle ++ .finished id false :: back))
    (hstarted : ∀ other, .started other name ∉ middle ++ back)
    (hscanned : ∀ names, .scanned names ∈ middle ++ back → name ∈ names) :
    Settled id ((offers name).run (.inspecting id) (middle ++ .finished id false :: back)) := by
  have hongoing : Ongoing id ((offers name).run (.inspecting id) middle) :=
    kept_of_run (.inr (.inr (.inr rfl))) (fun _ other result h => h.finished other result)
      (fun other hmem => hstarted other (List.mem_append_left _ hmem))
      (fun names hmem => hscanned names (List.mem_append_left _ hmem)) (.inl rfl)
  have hallowed := Monitor.Accepts.allowed_at _ haccepts
  rw [Monitor.run_append, Monitor.run_cons]
  refine kept_of_run (.inr rfl) (fun _ other result h => h.finished other result)
    (fun other hmem => hstarted other (List.mem_append_right _ hmem))
    (fun names hmem => hscanned names (List.mem_append_right _ hmem)) ?_
  rcases hongoing with hphase | hphase | hsettled
  · rw [hphase, next_finished_self]
    exact .inl rfl
  · exact absurd hphase hallowed
  · exact hsettled.finished id false

theorem not_accepted_of_rejected {front : List ScanEvent} (hrejected : Rejected name front)
    (haccepts : (offers name).Accepts .absent front) :
    (offers name).run .absent front ≠ .accepted last := by
  obtain ⟨before, id, middle, back, rfl, hstarted, hscanned⟩ := hrejected
  rw [Monitor.accepts_append, Monitor.accepts_cons, next_started_self] at haccepts
  have hsettled := settled_of_failed haccepts.2.2 hstarted hscanned
  rw [Monitor.run_append, Monitor.run_cons, next_started_self]
  rcases hsettled with hphase | hphase <;> rw [hphase] <;> exact Appearance.noConfusion

/-- What the monitor accepts is at most one offer per appearance. -/
theorem oncePerAppearance_of_accepts {events : List ScanEvent}
    (h : (offers name).Accepts .absent events) : OncePerAppearance name events where
  renewed := by
    rintro front target between target' back rfl
    rw [Monitor.accepts_append, Monitor.accepts_cons, next_yielded_self] at h
    obtain ⟨_, _, hbetween⟩ := h
    obtain ⟨id, hid⟩ := Monitor.Accepts.allowed_at _ hbetween rfl
    exact renewed_of_run ((Monitor.accepts_append _ _ _ _).mp hbetween).1 hid
  accepted := by
    rintro front target back rfl hrejected
    obtain ⟨id, hid⟩ := Monitor.Accepts.allowed_at _ h rfl
    exact not_accepted_of_rejected hrejected ((Monitor.accepts_append _ _ _ _).mp h).1 hid

end Trace

/-! ## The table and the events -/

def phase (s : SerialPortScanner) (name : String) : Appearance :=
  (offers name).run .absent s.events

inductive Agrees : Option SerialPortState → Appearance → Prop where
  | absent : Agrees none .absent
  | inspecting (id : Nat) : Agrees (some .inspecting) (.inspecting id)
  | accepted (id : Nat) : Agrees (some .toYield) (.accepted id)
  | rejected (id : Nat) : Agrees (some .ignored) (.rejected id)
  | offered : Agrees (some .yielded) .offered

/-- The table agrees with the events of a port, if the scan under way keeps the port. -/
structure TrackedPort (kept : String → Prop) (s : SerialPortScanner) (name : String) : Prop where
  accepts : (offers name).Accepts .absent s.events
  missed : ¬ kept name → s.phase name = .absent
  agrees : kept name → Agrees (s.seenPorts name) (s.phase name)
  inspecting : ∀ id, s.phase name = .inspecting id → s.inspections[id]? = some ⟨name, true, false⟩
  current : ∀ id, s.inspections[id]? = some ⟨name, true, false⟩ → kept name →
    s.phase name = .inspecting id
  accepted : ∀ id, s.phase name = .accepted id →
    ∃ inspection, s.inspections[id]? = some inspection ∧ inspection.running = false

def Tracked (kept : String → Prop) (s : SerialPortScanner) : Prop :=
  ∀ name, TrackedPort kept s name

section Steps

variable {s : SerialPortScanner} {kept : String → Prop} {name : String} {names : List String}

@[simp] theorem phase_record (s : SerialPortScanner) (event : ScanEvent) (name : String) :
    (s.record event).phase name = (offers name).next (s.phase name) event := by
  simp [phase, record]

theorem TrackedPort.accepts_record (h : TrackedPort kept s name) (event : ScanEvent)
    (hallowed : (offers name).allowed (s.phase name) event) :
    (offers name).Accepts .absent (s.record event).events := by
  unfold record
  rw [Monitor.accepts_append]
  exact ⟨h.accepts, hallowed, trivial⟩

theorem Agrees.of_none {phase : Appearance} (h : Agrees none phase) : phase = .absent := by
  cases h
  rfl

theorem Agrees.of_toYield {phase : Appearance} (h : Agrees (some .toYield) phase) :
    ∃ id, phase = .accepted id := by
  cases h
  exact ⟨_, rfl⟩

theorem setPort_self (s : SerialPortScanner) (name : String) (state : SerialPortState) :
    (s.setPort name state).seenPorts name = some state := Function.update_self _ _ _

theorem setPort_of_ne {other : String} (h : other ≠ name) (state : SerialPortState) :
    (s.setPort name state).seenPorts other = s.seenPorts other := Function.update_of_ne h _ _

/-- A step that concerns another port. -/
theorem TrackedPort.frame {s' : SerialPortScanner} (h : TrackedPort kept s name)
    (haccepts : (offers name).Accepts .absent s'.events) (hphase : s'.phase name = s.phase name)
    (hentry : s'.seenPorts name = s.seenPorts name)
    (hinspecting : ∀ id : Nat, s'.inspections[id]? = some ⟨name, true, false⟩ ↔
      s.inspections[id]? = some ⟨name, true, false⟩)
    (hfinished : ∀ (id : Nat) (inspection : Inspection), s.inspections[id]? = some inspection →
      inspection.running = false → s'.inspections[id]? = some inspection) :
    TrackedPort kept s' name where
  accepts := haccepts
  missed hname := hphase.trans (h.missed hname)
  agrees hname := by
    rw [hphase, hentry]
    exact h.agrees hname
  inspecting id hid := (hinspecting id).mpr (h.inspecting id (hphase.symm.trans hid))
  current id hid hname := hphase.trans (h.current id ((hinspecting id).mp hid) hname)
  accepted id hid := by
    obtain ⟨inspection, hold, hrunning⟩ := h.accepted id (hphase.symm.trans hid)
    exact ⟨inspection, hfinished id inspection hold hrunning, hrunning⟩

theorem TrackedPort.of_missed (haccepts : (offers name).Accepts .absent s.events)
    (hname : ¬ kept name) (hphase : s.phase name = .absent) : TrackedPort kept s name where
  accepts := haccepts
  missed _ := hphase
  agrees hkept := absurd hkept hname
  inspecting id hid := by cases hphase.symm.trans hid
  current _ _ hkept := absurd hkept hname
  accepted id hid := by cases hphase.symm.trans hid

theorem Tracked.init : Tracked (fun _ => True) {} := fun _ =>
  { accepts := trivial
    missed := fun h => absurd trivial h
    agrees := fun _ => .absent
    inspecting := fun _ h => by cases h
    current := fun _ h => by cases h
    accepted := fun _ h => by cases h }

/-- A new scan misses some ports. -/
theorem Tracked.scanned (h : Tracked (fun _ => True) s) (names : List String) :
    Tracked (· ∈ names) (s.record (.scanned names)) := by
  intro name
  have haccepts := (h name).accepts_record (.scanned names) trivial
  by_cases hname : name ∈ names
  · have hphase : (s.record (.scanned names)).phase name = s.phase name := by
      rw [phase_record, next_scanned_of_mem hname]
    have hport : TrackedPort (· ∈ names) s name :=
      { h name with
        missed := absurd hname
        agrees := fun _ => (h name).agrees trivial
        current := fun id hid _ => (h name).current id hid trivial }
    exact hport.frame haccepts hphase rfl (fun _ => Iff.rfl) fun _ _ hid _ => hid
  · have hphase : (s.record (.scanned names)).phase name = .absent := by
      rw [phase_record, next_scanned_of_not_mem hname]
    exact .of_missed haccepts hname hphase

theorem getElem?_removeUnseen (s : SerialPortScanner) (names : List String) (id : Nat) :
    (s.removeUnseen names).inspections[id]? = s.inspections[id]?.map fun inspection =>
      if inspection.name ∈ names then inspection else { inspection with outdated := true } :=
  List.getElem?_map

theorem Tracked.removeUnseen (h : Tracked (· ∈ names) s) :
    Tracked (fun _ => True) (s.removeUnseen names) := fun name =>
  { accepts := (h name).accepts
    missed := fun hname => absurd trivial hname
    agrees := fun _ => by
      change Agrees (if name ∈ names then s.seenPorts name else none) (s.phase name)
      split_ifs with hname
      · exact (h name).agrees hname
      · rw [(h name).missed hname]
        exact .absent
    inspecting := fun id hphase => by
      have hname : name ∈ names := by
        by_contra hmissed
        cases ((h name).missed hmissed).symm.trans hphase
      rw [getElem?_removeUnseen, (h name).inspecting id hphase]
      simp [hname]
    current := fun id hid _ => by
      rw [getElem?_removeUnseen, Option.map_eq_some_iff] at hid
      obtain ⟨inspection, hold, hnew⟩ := hid
      split_ifs at hnew with hname
      · subst hnew
        exact (h name).current id hold hname
      · exact absurd (congrArg Inspection.outdated hnew) Bool.noConfusion
    accepted := fun id hphase => by
      obtain ⟨inspection, hid, hrunning⟩ := (h name).accepted id hphase
      rw [getElem?_removeUnseen, hid]
      refine ⟨_, rfl, ?_⟩
      dsimp only
      split_ifs
      · exact hrunning
      · exact hrunning }

theorem Tracked.yielded (h : Tracked kept s) (hname : kept name)
    (hstate : s.seenPorts name = some .toYield) (target : UploadTarget) :
    Tracked kept ((s.setPort name .yielded).record (.yielded name target)) := by
  intro other
  by_cases hother : other = name
  · subst hother
    have hagrees := (h other).agrees hname
    rw [hstate] at hagrees
    have hphase : ((s.setPort other .yielded).record (.yielded other target)).phase other =
        .offered := by
      rw [phase_record, next_yielded_self]
    refine {
      accepts := (h other).accepts_record (.yielded other target)
        fun _ => hagrees.of_toYield
      missed := absurd hname
      agrees := fun _ => ?_
      inspecting := fun id hid => by cases hphase.symm.trans hid
      current := fun id hid _ => ?_
      accepted := fun id hid => by cases hphase.symm.trans hid }
    · rw [hphase]
      exact (setPort_self s other .yielded).symm ▸ .offered
    · obtain ⟨id', hid'⟩ := hagrees.of_toYield
      cases hid'.symm.trans ((h other).current id hid hname)
  · have hphase : ((s.setPort name .yielded).record (.yielded name target)).phase other =
        s.phase other := by
      rw [phase_record, next_yielded_of_ne (Ne.symm hother)]
      rfl
    exact (h other).frame ((h other).accepts_record (.yielded name target)
      fun heq => absurd heq.symm hother) hphase (setPort_of_ne hother _) (fun _ => Iff.rfl)
      fun _ _ hid _ => hid

theorem getElem?_startSoon (s : SerialPortScanner) (name : String) (id : Nat) :
    (s.startSoon name).inspections[id]? =
      if id = s.inspections.length then some ⟨name, true, false⟩ else s.inspections[id]? := by
  change (s.inspections ++ [⟨name, true, false⟩])[id]? = _
  rw [List.getElem?_append]
  split_ifs with hold hnew hnew
  · omega
  · rfl
  · simp [hnew]
  · rw [List.getElem?_singleton, if_neg (by omega), List.getElem?_eq_none (by omega)]

/-- A port without an entry is inspected. -/
theorem Tracked.startSoon (h : Tracked kept s) (hname : kept name)
    (hstate : s.seenPorts name = none) :
    Tracked kept ((s.setPort name .inspecting).startSoon name) := by
  intro other
  have hid : ∀ id, ((s.setPort name .inspecting).startSoon name).inspections[id]? =
      if id = s.inspections.length then some ⟨name, true, false⟩ else s.inspections[id]? :=
    getElem?_startSoon (s.setPort name .inspecting) name
  have hbound : ∀ (id : Nat) (inspection : Inspection), s.inspections[id]? = some inspection →
      id ≠ s.inspections.length := by
    intro id inspection hold heq
    rw [List.getElem?_eq_none (by omega)] at hold
    cases hold
  by_cases hother : other = name
  · subst hother
    have hagrees := (h other).agrees hname
    rw [hstate] at hagrees
    have habsent := hagrees.of_none
    have hphase : ((s.setPort other .inspecting).startSoon other).phase other =
        .inspecting s.inspections.length := by
      unfold SerialPortScanner.startSoon
      rw [phase_record, next_started_self]
      rfl
    refine {
      accepts := (h other).accepts_record (.started s.inspections.length other)
        fun _ => habsent
      missed := absurd hname
      agrees := fun _ => ?_
      inspecting := fun id hinspecting => ?_
      current := fun id hrunning _ => ?_
      accepted := fun id haccepted => by cases hphase.symm.trans haccepted }
    · rw [hphase]
      exact (setPort_self s other .inspecting).symm ▸ .inspecting _
    · cases hphase.symm.trans hinspecting
      rw [hid, if_pos rfl]
    · rw [hid] at hrunning
      split_ifs at hrunning with hnew
      · rw [hphase, hnew]
      · cases habsent.symm.trans ((h other).current id hrunning hname)
  · have hphase : ((s.setPort name .inspecting).startSoon name).phase other = s.phase other := by
      unfold SerialPortScanner.startSoon
      rw [phase_record, next_started_of_ne (Ne.symm hother)]
      rfl
    have hname' : (⟨name, true, false⟩ : Inspection) ≠ ⟨other, true, false⟩ :=
      fun heq => hother (congrArg Inspection.name heq).symm
    refine (h other).frame ((h other).accepts_record
      (.started s.inspections.length name) fun heq => absurd heq.symm hother) hphase
      (setPort_of_ne hother _) (fun id => ?_) fun id inspection hold _ => ?_
    · rw [hid]
      split_ifs with hnew
      · refine ⟨fun heq => absurd (Option.some.inj heq) hname', fun hold => ?_⟩
        exact absurd hnew (hbound id _ hold)
      · exact Iff.rfl
    · rw [hid, if_neg (hbound id inspection hold)]
      exact hold

theorem phase_whenDone (s : SerialPortScanner) (name other : String) (result : Bool) :
    (s.whenDone name result).phase other = s.phase other := by
  cases result <;> rfl

theorem inspections_whenDone (s : SerialPortScanner) (name : String) (result : Bool) :
    (s.whenDone name result).inspections = s.inspections := by
  cases result <;> rfl

theorem seenPorts_whenDone_of_ne {other : String} (hother : other ≠ name) (result : Bool) :
    (s.whenDone name result).seenPorts other = s.seenPorts other := by
  cases result with
  | true => exact setPort_of_ne hother _
  | false => exact setPort_of_ne hother _

theorem agrees_whenDone (s : SerialPortScanner) (name : String) (id : Nat) (result : Bool) :
    Agrees ((s.whenDone name result).seenPorts name)
      (if result then .accepted id else .rejected id) := by
  cases result with
  | true => exact (setPort_self s name .toYield).symm ▸ .accepted id
  | false => exact (setPort_self s name .ignored).symm ▸ .rejected id

def afterInspection (s : SerialPortScanner) (name : String) (id : Nat) (result : Bool) :
    SerialPortScanner :=
  (({ s with inspections := s.inspections.set id ⟨name, false, false⟩ } :
    SerialPortScanner).whenDone name result).record (.finished id result)

theorem phase_afterInspection (s : SerialPortScanner) (name other : String) (id : Nat)
    (result : Bool) : (s.afterInspection name id result).phase other =
      (offers other).next (s.phase other) (.finished id result) := by
  unfold afterInspection
  rw [phase_record, phase_whenDone]
  rfl

theorem getElem?_afterInspection {id : Nat} {inspection : Inspection}
    (hid : s.inspections[id]? = some inspection) (result : Bool) (other : Nat) :
    (s.afterInspection name id result).inspections[other]? =
      if other = id then some ⟨name, false, false⟩ else s.inspections[other]? := by
  have hset : (s.afterInspection name id result).inspections =
      s.inspections.set id ⟨name, false, false⟩ := inspections_whenDone _ name result
  have hlt : id < s.inspections.length := (List.getElem?_eq_some_iff.mp hid).1
  rw [hset, List.getElem?_set]
  split_ifs with heq hne hne
  · rfl
  · exact absurd heq.symm hne
  · exact absurd hne.symm heq
  · rfl

theorem TrackedPort.inspected {id : Nat} (h : TrackedPort kept s name)
    (hid : s.inspections[id]? = some ⟨name, true, false⟩) (result : Bool)
    (haccepts : (offers name).Accepts .absent (s.afterInspection name id result).events) :
    TrackedPort kept (s.afterInspection name id result) name := by
  by_cases hname : kept name
  · have hinspecting := h.current id hid hname
    have hphase : (s.afterInspection name id result).phase name =
        if result then .accepted id else .rejected id := by
      rw [phase_afterInspection, hinspecting, next_finished_self]
    refine {
      accepts := haccepts
      missed := absurd hname
      agrees := fun _ => ?_
      inspecting := fun other hother => ?_
      current := fun other hother _ => ?_
      accepted := fun other hother => ?_ }
    · rw [hphase]
      exact agrees_whenDone _ name id result
    · rw [hphase] at hother
      split_ifs at hother
    · rw [getElem?_afterInspection hid] at hother
      split_ifs at hother with heq
      · cases hother
      · cases hinspecting.symm.trans (h.current other hother hname)
        exact absurd rfl heq
    · rw [hphase] at hother
      split_ifs at hother
      cases hother
      exact ⟨⟨name, false, false⟩, by rw [getElem?_afterInspection hid, if_pos rfl], rfl⟩
  · have hphase : (s.afterInspection name id result).phase name = .absent := by
      rw [phase_afterInspection, h.missed hname, next_finished_of_ne Appearance.noConfusion]
    exact .of_missed haccepts hname hphase

/-- An inspection that is not outdated finishes. -/
theorem Tracked.finished (h : Tracked kept s) {id : Nat}
    (hid : s.inspections[id]? = some ⟨name, true, false⟩) (result : Bool) :
    Tracked kept (s.afterInspection name id result) := by
  intro other
  have hrunning : s.phase other ≠ .accepted id := by
    intro haccepted
    obtain ⟨inspection, hold, hdone⟩ := (h other).accepted id haccepted
    rw [hid] at hold
    cases hold
    cases hdone
  have haccepts : (offers other).Accepts .absent (s.afterInspection name id result).events := by
    have hevents : (s.afterInspection name id result).events =
        (s.record (.finished id result)).events := by
      cases result <;> rfl
    rw [hevents]
    exact (h other).accepts_record (.finished id result) hrunning
  by_cases hother : other = name
  · subst hother
    exact (h other).inspected hid result haccepts
  · have hport : s.phase other ≠ .inspecting id := by
      intro hinspecting
      have hold := (h other).inspecting id hinspecting
      rw [hid] at hold
      cases hold
      exact hother rfl
    have hphase : (s.afterInspection name id result).phase other = s.phase other := by
      rw [phase_afterInspection, next_finished_of_ne hport]
    refine (h other).frame haccepts hphase (seenPorts_whenDone_of_ne hother result)
      (fun id' => ?_) fun id' inspection hold hdone => ?_
    · rw [getElem?_afterInspection hid]
      split_ifs with heq
      · rw [heq, hid]
        simp [Ne.symm hother]
      · exact Iff.rfl
    · rw [getElem?_afterInspection hid, if_neg]
      · exact hold
      · rintro rfl
        rw [hid] at hold
        cases hold
        cases hdone

/-! ## Moves and runs -/

def Kept (s : SerialPortScanner) (name : String) : Prop :=
  match s.suspended with
  | none => True
  | some scan => name ∈ scan.names ++ scan.rest.map ListPortInfo.name

theorem Tracked.of_suspended (h : Tracked kept s) (suspended : Option SuspendedScan) :
    Tracked kept { s with suspended := suspended } := fun name =>
  { accepts := (h name).accepts
    missed := (h name).missed
    agrees := (h name).agrees
    inspecting := (h name).inspecting
    current := (h name).current
    accepted := (h name).accepted }

/-- The loop over the ports keeps the table in agreement. -/
theorem tracked_visitPorts (rest : List ListPortInfo)
    (h : Tracked (· ∈ names ++ rest.map ListPortInfo.name) s) (hsuspended : s.suspended = none) :
    Tracked (s.visitPorts names rest).Kept (s.visitPorts names rest) := by
  induction rest generalizing s names with
  | nil =>
      have hremoved : (s.removeUnseen names).Kept = fun _ => True := by
        funext name
        change (match s.suspended with
          | none => True
          | some scan => name ∈ scan.names ++ scan.rest.map ListPortInfo.name) = True
        rw [hsuspended]
      unfold visitPorts
      rw [hremoved]
      exact Tracked.removeUnseen (by simpa using h)
  | cons port rest ih =>
      have hnames : names ++ (port :: rest).map ListPortInfo.name =
          (names ++ [port.name]) ++ rest.map ListPortInfo.name := by simp
      rw [hnames] at h
      have hmem : port.name ∈ (names ++ [port.name]) ++ rest.map ListPortInfo.name := by simp
      unfold visitPorts
      dsimp only
      cases hstate : s.seenPorts port.name with
      | none => exact ih (h.startSoon hmem hstate) hsuspended
      | some state =>
          cases state with
          | toYield => exact (h.yielded hmem hstate port.device).of_suspended _
          | yielded => exact ih h hsuspended
          | ignored => exact ih h hsuspended
          | inspecting => exact ih h hsuspended
          | new =>
              have hagrees := (h port.name).agrees hmem
              rw [hstate] at hagrees
              cases hagrees

end Steps

def Consistent (s : SerialPortScanner) : Prop := Tracked s.Kept s

theorem Consistent.step {s s' : SerialPortScanner} {move : ScanMove} (h : Consistent s)
    (htime : s.InTime move) (hstep : s.step move = some s') : Consistent s' := by
  unfold Consistent at h
  cases move with
  | scan ports =>
      simp only [SerialPortScanner.step] at hstep
      split at hstep
      · cases hstep
      · next hsuspended =>
          cases hstep
          have hkept : s.Kept = fun _ => True := by
            funext name
            unfold Kept
            rw [hsuspended]
          rw [hkept] at h
          refine tracked_visitPorts ports ?_ hsuspended
          rw [List.nil_append]
          exact h.scanned (ports.map ListPortInfo.name)
  | resume =>
      simp only [SerialPortScanner.step] at hstep
      split at hstep
      · next scan hsuspended =>
          cases hstep
          have hkept : s.Kept = (· ∈ scan.names ++ scan.rest.map ListPortInfo.name) := by
            funext name
            unfold Kept
            rw [hsuspended]
          rw [hkept] at h
          exact tracked_visitPorts scan.rest (h.of_suspended none) rfl
      · cases hstep
  | finish id result =>
      simp only [SerialPortScanner.step] at hstep
      split at hstep
      · next inspection hid =>
          obtain ⟨hrunning, rfl⟩ := Machine.guarded hstep
          have houtdated := htime inspection hid
          obtain ⟨name, running, outdated⟩ := inspection
          cases hrunning
          cases houtdated
          have hkept : (s.afterInspection name id result).Kept = s.Kept := by
            cases result <;> rfl
          change Tracked (s.afterInspection name id result).Kept (s.afterInspection name id result)
          rw [hkept]
          exact Tracked.finished h hid result
      · cases hstep

/-- As long as no inspection outlives the appearance of its port, every port is offered at most once
per appearance, and not when its inspection has found nothing. -/
theorem once_per_appearance {moves : List ScanMove} {s : SerialPortScanner}
    (htime : machine.Throughout InTime {} moves) (hrun : machine.run {} moves = some s)
    (name : String) : OncePerAppearance name s.events := by
  have hconsistent : Consistent s :=
    machine.run_invariant (fun _ _ _ h hok hstep => h.step hok hstep) htime hrun Tracked.init
  exact oncePerAppearance_of_accepts (hconsistent name).accepts

private def usb : ListPortInfo := ⟨"ttyUSB0", "/dev/ttyUSB0"⟩

/-- A device is inspected, offered, unplugged, plugged in again and offered again. -/
private def replugged : List ScanMove :=
  [.scan [usb], .finish 0 true, .scan [usb], .resume, .scan [], .scan [usb], .finish 1 true,
    .scan [usb]]

theorem once_per_appearance_replugged :
    ∃ s, machine.run {} replugged = some s ∧ OncePerAppearance "ttyUSB0" s.events :=
  ⟨_, rfl, @once_per_appearance replugged _ (by decide) rfl "ttyUSB0"⟩

/-- An inspection that outlives the appearance of its port has the next one offered twice. -/
theorem offered_twice : ∃ moves s, machine.run {} moves = some s ∧
    ¬ OncePerAppearance "ttyUSB0" s.events := by
  refine ⟨[.scan [usb], .scan [], .scan [usb], .finish 0 true, .scan [usb], .resume,
    .finish 1 true, .scan [usb]], _, rfl, fun h => ?_⟩
  obtain ⟨front, names, middle, id, stretch, back, hname, hbetween⟩ :=
    h.renewed [.scanned ["ttyUSB0"], .started 0 "ttyUSB0", .scanned [], .scanned ["ttyUSB0"],
      .started 1 "ttyUSB0", .finished 0 true, .scanned ["ttyUSB0"]] "/dev/ttyUSB0"
      [.finished 1 true, .scanned ["ttyUSB0"]] "/dev/ttyUSB0" [] rfl
  have hscanned : ScanEvent.scanned names ∈
      [ScanEvent.finished 1 true, ScanEvent.scanned ["ttyUSB0"]] := by
    rw [hbetween]
    simp
  simp only [List.mem_cons, reduceCtorEq, ScanEvent.scanned.injEq, List.not_mem_nil, or_false,
    false_or] at hscanned
  subst hscanned
  exact hname List.mem_cons_self

end ApUploader.SerialPortScanner
