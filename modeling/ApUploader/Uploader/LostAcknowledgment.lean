import ApUploader.Uploader.Placement
import Mathlib.Algebra.Order.Field.Basic
import Mathlib.Tactic.Positivity
import Mathlib.Data.Rat.Cast.Order

/-! # Lost acknowledgments

The upload loop over a link that may lose a PROG_MULTI or its acknowledgment. A
timeout does not say which; the loop asks for the write pointer where the
bootloader can tell and gives up where it cannot. Either way the flash memory in
front of the write pointer always holds the beginning of the image.
-/

namespace ApUploader

open Effect MockBootloader

/-! ## The link -/

inductive ProgramOutcome where
  | acknowledged
  /-- The chunk was written but the call timed out. -/
  | acknowledgmentLost
  /-- The chunk did not reach the device and the call timed out. -/
  | requestLost
  deriving DecidableEq, Repr

/-- One chunk that was sent, with the device as it was at that moment. -/
structure Attempt where
  before : MockBootloader
  chunk : Bytes
  outcome : ProgramOutcome

/-- A device behind a lossy link, and what has happened on the link. -/
structure LossyDevice where
  device : MockBootloader
  outcomes : Nat → ProgramOutcome
  attempts : List Attempt := []
  progress : List ℚ := []

namespace LossyDevice

def execute (d : MockBootloader) (chunk : Bytes) : MockBootloader :=
  (writeToFlashMemory (recursionLimit chunk) chunk d).2

def afterOutcome (d : MockBootloader) (chunk : Bytes) : ProgramOutcome → MockBootloader
  | .requestLost => d
  | _ => execute d chunk

def programBytes (chunk : Bytes) : Proc Exn LossyDevice Unit := fun w =>
  let outcome := w.outcomes w.attempts.length
  let w := { w with
    device := afterOutcome w.device chunk outcome
    attempts := w.attempts ++ [⟨w.device, chunk, outcome⟩] }
  match outcome with
  | .acknowledged => (.ok (), w)
  | _ => (.raised .timeoutError, w)

def getWritePointer : Proc Exn LossyDevice Nat := fun w => (.ok w.device.flashMemoryWritePtr, w)

def onProgress (progress : ℚ) : Proc Exn LossyDevice Unit :=
  Proc.modify (fun w => { w with progress := w.progress ++ [progress] })

def upload (image : Bytes) (blRev fuel : Nat) : Proc Exn LossyDevice Unit :=
  uploadLoop image blRev programBytes getWritePointer onProgress fuel

end LossyDevice

open LossyDevice

/-- Writing the chunk at the write pointer keeps the memory a prefix of the image. -/
theorem HoldsPrefix.execute {image : Bytes} {size : Nat} {d : MockBootloader}
    (h : HoldsPrefix image size d) (hfit : image.length ≤ size) :
    HoldsPrefix image size (execute d (chunkAt image d.flashMemoryWritePtr)) ∧
      (LossyDevice.execute d (chunkAt image d.flashMemoryWritePtr)).flashMemoryWritePtr =
        d.flashMemoryWritePtr + (chunkAt image d.flashMemoryWritePtr).length := by
  obtain ⟨hmemory, hpointer⟩ := writeToFlashMemory_inside
    (2 * (chunkAt image d.flashMemoryWritePtr).length + 1) (h.inside hfit)
  exact ⟨h.written hfit hmemory hpointer, hpointer⟩

/-! ## The loop with a write pointer query -/

/-- Everything sent so far was in place, and the progress reported so far has been reached. -/
structure Placed (image : Bytes) (size : Nat) (w : LossyDevice) : Prop where
  holds : HoldsPrefix image size w.device
  chunks : ∀ a ∈ w.attempts, a.chunk = chunkAt image a.before.flashMemoryWritePtr
  memory : ∀ a ∈ w.attempts, a.before.flashMemory.take a.before.flashMemoryWritePtr =
    image.take a.before.flashMemoryWritePtr
  positive : ∀ p ∈ w.progress, 0 < p
  reached : ∀ p ∈ w.progress, p ≤ w.device.flashMemoryWritePtr / (image.length : ℚ)
  monotone : w.progress.Pairwise (· ≤ ·)

/-- At the loop head a known write pointer is the device's. -/
structure Uploading (image : Bytes) (size : Nat) (known : Option Nat) (w : LossyDevice) : Prop
    extends Placed image size w where
  known_eq : ∀ pointer, known = some pointer → pointer = w.device.flashMemoryWritePtr
  nonempty : known = none → 0 < image.length

theorem wp_programBytes {chunk : Bytes} {w : LossyDevice} {post : Post Exn LossyDevice Unit}
    (hok : w.outcomes w.attempts.length = .acknowledged →
      post.ok () { w with
        device := execute w.device chunk
        attempts := w.attempts ++ [⟨w.device, chunk, .acknowledged⟩] })
    (htimeout : ∀ outcome, w.outcomes w.attempts.length = outcome → outcome ≠ .acknowledged →
      post.raised .timeoutError { w with
        device := afterOutcome w.device chunk outcome
        attempts := w.attempts ++ [⟨w.device, chunk, outcome⟩] }) :
    wp (programBytes chunk) post w := by
  unfold wp programBytes
  cases houtcome : w.outcomes w.attempts.length with
  | acknowledged => exact hok houtcome
  | acknowledgmentLost => exact htimeout _ houtcome (by decide)
  | requestLost => exact htimeout _ houtcome (by decide)

theorem wp_acknowledged {ω : Type} {program : Proc Exn ω Unit} {post : Post Exn ω Bool} {w : ω}
    (h : wp program ⟨fun _ => post.ok true, fun error => if error = .timeoutError then
      post.ok false else post.raised error, post.running⟩ w) :
    wp (acknowledged program) post w := by
  unfold acknowledged
  simp only [wp_catching, wp_bind, wp_pure]
  refine wp_mono h (fun _ _ h => h) (fun error w h => ?_) (fun _ h => h)
  by_cases herror : error = .timeoutError
  · simpa [herror] using h
  · simpa [herror] using h

/-- The write pointer can only have moved on by the chunk that was sent. -/
theorem Placed.afterOutcome {image : Bytes} {size : Nat} {w : LossyDevice}
    (h : Placed image size w) (hfit : image.length ≤ size) (outcome : ProgramOutcome) :
    Placed image size { w with
      device := afterOutcome w.device (chunkAt image w.device.flashMemoryWritePtr) outcome
      attempts := w.attempts ++
        [⟨w.device, chunkAt image w.device.flashMemoryWritePtr, outcome⟩] } := by
  obtain ⟨hexecuted, hpointer⟩ := h.holds.execute hfit
  have hcases : HoldsPrefix image size (LossyDevice.afterOutcome w.device
        (chunkAt image w.device.flashMemoryWritePtr) outcome) ∧
      w.device.flashMemoryWritePtr ≤ (LossyDevice.afterOutcome w.device
        (chunkAt image w.device.flashMemoryWritePtr) outcome).flashMemoryWritePtr := by
    cases outcome with
    | requestLost => exact ⟨h.holds, Nat.le_refl _⟩
    | acknowledged => exact ⟨hexecuted, by simp only [LossyDevice.afterOutcome]; omega⟩
    | acknowledgmentLost => exact ⟨hexecuted, by simp only [LossyDevice.afterOutcome]; omega⟩
  refine ⟨hcases.1, ?_, ?_, h.positive, ?_, h.monotone⟩
  · intro a ha
    rcases List.mem_append.mp ha with ha | ha
    · exact h.chunks a ha
    · rw [List.mem_singleton.mp ha]
  · intro a ha
    rcases List.mem_append.mp ha with ha | ha
    · exact h.memory a ha
    · rw [List.mem_singleton.mp ha]
      exact h.holds.take
  · intro p hp
    refine (h.reached p hp).trans ?_
    have hle : (w.device.flashMemoryWritePtr : ℚ) ≤ (LossyDevice.afterOutcome w.device
        (chunkAt image w.device.flashMemoryWritePtr) outcome).flashMemoryWritePtr := by
      exact_mod_cast hcases.2
    exact div_le_div_of_nonneg_right hle (by positivity)

theorem Placed.onProgress {image : Bytes} {size : Nat} {w : LossyDevice}
    (h : Placed image size w) (hpos : 0 < w.device.flashMemoryWritePtr)
    (hne : 0 < image.length) :
    Placed image size { w with
      progress := w.progress ++ [w.device.flashMemoryWritePtr / (image.length : ℚ)] } := by
  have hfraction : (0 : ℚ) < w.device.flashMemoryWritePtr / (image.length : ℚ) := by positivity
  refine ⟨h.holds, h.chunks, h.memory, ?_, ?_, ?_⟩
  · intro p hp
    rcases List.mem_append.mp hp with hp | hp
    · exact h.positive p hp
    · rw [List.mem_singleton.mp hp]
      exact hfraction
  · intro p hp
    rcases List.mem_append.mp hp with hp | hp
    · exact h.reached p hp
    · rw [List.mem_singleton.mp hp]
  · rw [List.pairwise_append]
    refine ⟨h.monotone, List.pairwise_singleton _ _, ?_⟩
    intro p hp q hq
    rw [List.mem_singleton.mp hq]
    exact h.reached p hp

def uploaded (image : Bytes) (size : Nat) : Post Exn LossyDevice Unit where
  ok _ w := Placed image size w ∧
    w.device.flashMemory = image ++ List.replicate (size - image.length) 0xff
  raised _ _ := False
  running w := Placed image size w

theorem uploading_pass {image : Bytes} {size blRev : Nat} (hfit : image.length ≤ size)
    (hrev : 6 ≤ blRev) {known : Option Nat} {w : LossyDevice} (h : Uploading image size known w) :
    wp (uploadPass image blRev programBytes getWritePointer LossyDevice.onProgress known)
      (roundPost (Uploading image size) (uploaded image size)) w := by
  have hle := h.holds.pointer_le
  unfold uploadPass
  cases hunfinished : unfinished image known with
  | false =>
      cases known with
      | none => cases hunfinished
      | some pointer =>
          have hdone : image.length ≤ pointer := by simpa [unfinished] using hunfinished
          have hpointer := h.known_eq pointer rfl
          have hend : w.device.flashMemoryWritePtr = image.length := by omega
          exact ⟨h.toPlaced, h.holds.complete hend⟩
  | true =>
      have hne : 0 < image.length := by
        cases known with
        | none => exact h.nonempty rfl
        | some pointer =>
            have hless : pointer < image.length := by simpa [unfinished] using hunfinished
            omega
      have hlocate : locate blRev getWritePointer known w =
          (.ok w.device.flashMemoryWritePtr, w) := by
        cases known with
        | none => simp [locate, hrev, getWritePointer]
        | some pointer => rw [h.known_eq pointer rfl]; rfl
      have hlocated : wp (locate blRev getWritePointer known)
          (.returns fun pointer x => pointer = w.device.flashMemoryWritePtr ∧ x = w) w :=
        wp_returns_iff.mpr ⟨_, _, hlocate, rfl, rfl⟩
      simp only [↓reduceIte, wp_bind]
      refine wp_mono hlocated ?_ (fun _ _ h => h.elim) (fun _ h => h.elim)
      rintro pointer x ⟨rfl, rfl⟩
      apply wp_acknowledged
      apply wp_programBytes
      · intro _
        have hplaced := h.toPlaced.afterOutcome hfit .acknowledged
        obtain ⟨_, hpointer⟩ := h.holds.execute hfit
        have hpos : 0 < x.device.flashMemoryWritePtr +
            (chunkAt image x.device.flashMemoryWritePtr).length := by
          have hchunk := chunkAt_length image x.device.flashMemoryWritePtr
          unfold progMultiMaxPayloadLength at hchunk
          omega
        have hnext := hplaced.onProgress (by
          simp only [LossyDevice.afterOutcome, hpointer]
          exact hpos) hne
        simp only [LossyDevice.afterOutcome, hpointer] at hnext
        refine ⟨hnext, ?_, by simp⟩
        rintro _ ⟨⟩
        exact hpointer.symm
      · intro outcome _ _
        have hplaced := h.toPlaced.afterOutcome hfit outcome
        exact ⟨hplaced, by simp, fun _ => hne⟩

/-! ## The loop without a write pointer query -/

def lostAcknowledgment : Exn :=
  .runtimeError "acknowledgment of PROG_WRITE command lost, bootloader may be out of sync now"

/-- The last chunk, and only the last, was not acknowledged. -/
def GaveUp (attempts : List Attempt) : Prop :=
  ∃ front last, attempts = front ++ [last] ∧ (∀ a ∈ front, a.outcome = .acknowledged) ∧
    last.outcome ≠ .acknowledged

/-- At the loop head a known write pointer means that every chunk was acknowledged. -/
def Confirmed (known : Option Nat) (w : LossyDevice) : Prop :=
  match known with
  | some _ => ∀ a ∈ w.attempts, a.outcome = .acknowledged
  | none => GaveUp w.attempts

def remaining (image : Bytes) : Option Nat → Nat
  | some pointer => image.length - pointer + 1
  | none => 0

def confirmedOrGivenUp : Post Exn LossyDevice Unit where
  ok _ w := ∀ a ∈ w.attempts, a.outcome = .acknowledged
  raised error w := error = lostAcknowledgment ∧ GaveUp w.attempts
  running _ := False

theorem confirmed_pass {image : Bytes} {blRev : Nat} (hrev : blRev < 6) {known : Option Nat}
    {w : LossyDevice} (h : Confirmed known w) :
    wp (uploadPass image blRev programBytes getWritePointer LossyDevice.onProgress known)
      (roundPost (fun known' w' => Confirmed known' w' ∧
        remaining image known' < remaining image known) confirmedOrGivenUp) w := by
  unfold uploadPass
  cases known with
  | none =>
      have hold : ¬ 6 ≤ blRev := by omega
      simp only [unfinished, ↓reduceIte, locate, hold, wp_bind, wp_raise]
      exact ⟨rfl, h⟩
  | some pointer =>
      by_cases hunfinished : pointer < image.length
      · have hchunk := chunkAt_length image pointer
        unfold progMultiMaxPayloadLength at hchunk
        simp only [unfinished, hunfinished, decide_true, ↓reduceIte, locate, wp_bind, wp_pure]
        apply wp_acknowledged
        apply wp_programBytes
        · intro _
          refine ⟨?_, ?_⟩
          · intro a ha
            rcases List.mem_append.mp ha with ha | ha
            · exact h a ha
            · rw [List.mem_singleton.mp ha]
          · simp only [remaining]
            omega
        · intro outcome _ hlost
          exact ⟨⟨w.attempts, _, rfl, h, hlost⟩, Nat.succ_pos _⟩
      · simp only [unfinished, hunfinished, decide_false, Bool.false_eq_true, ↓reduceIte]
        exact h

/-! ## The upload -/

/-- Lost acknowledgments never misplace data: bootloaders that tell their write pointer get every
chunk where it belongs, and with older ones the first timeout ends the attempt. -/
theorem lost_acknowledgments_never_misplace {image : Bytes} {size : Nat}
    (hfit : image.length ≤ size) {d : MockBootloader} (herased : Erased size d)
    (outcomes : Nat → ProgramOutcome) {fuel blRev : Nat} {outcome : Outcome Exn Unit}
    {w : LossyDevice}
    (hrun : LossyDevice.upload image blRev fuel { device := d, outcomes := outcomes } =
      (outcome, w)) :
    (6 ≤ blRev → Placed image size w ∧ (∀ p ∈ w.progress, p ≤ 1) ∧
      (∀ error, outcome ≠ .raised error) ∧
      (outcome = .ok () →
        w.device.flashMemory = image ++ List.replicate (size - image.length) 0xff)) ∧
    (blRev = 4 ∨ blRev = 5 → image.length + 1 < fuel →
      outcome = .ok () ∧ (∀ a ∈ w.attempts, a.outcome = .acknowledged) ∨
        outcome = .raised lostAcknowledgment ∧ GaveUp w.attempts) := by
  constructor
  · intro hrev
    have hpost : wp (LossyDevice.upload image blRev fuel) (uploaded image size)
        { device := d, outcomes := outcomes } := by
      apply wp_loop_invariant (Uploading image size) (fun _ _ h => h.toPlaced)
        (fun _ _ h => uploading_pass hfit hrev h)
      refine ⟨⟨herased.holdsPrefix image, ?_, ?_, ?_, ?_, ?_⟩, ?_, ?_⟩ <;> simp [herased.pointer]
    have hplaced : Placed image size w := by
      unfold wp at hpost
      rw [hrun] at hpost
      cases outcome with
      | ok _ => exact hpost.1
      | raised error => exact hpost.elim
      | running => exact hpost
    unfold wp at hpost
    rw [hrun] at hpost
    refine ⟨hplaced, ?_, ?_, ?_⟩
    · intro p hp
      refine (hplaced.reached p hp).trans ?_
      have hle : (w.device.flashMemoryWritePtr : ℚ) ≤ image.length := by
        exact_mod_cast hplaced.holds.pointer_le
      exact div_le_one_of_le₀ hle (by positivity)
    · rintro error rfl
      exact hpost
    · rintro rfl
      exact hpost.2
  · intro hrev hfuel
    have hpost : wp (LossyDevice.upload image blRev fuel) confirmedOrGivenUp
        { device := d, outcomes := outcomes } := by
      apply wp_loop_variant Confirmed (fun known _ => remaining image known)
        (fun _ _ h => confirmed_pass (by omega) h)
      · simp [Confirmed]
      · simpa [remaining] using hfuel
    unfold wp at hpost
    rw [hrun] at hpost
    cases outcome with
    | ok _ => exact .inl ⟨rfl, hpost⟩
    | raised error => exact .inr ⟨by rw [hpost.1], hpost.2⟩
    | running => exact hpost.elim

/-- Three bytes into a memory of four, the first acknowledgment being lost. -/
theorem lost_acknowledgments_never_misplace_first :
    ∃ outcome w, LossyDevice.upload [1, 2, 3] 6 3
        { device := { flashMemory := [0xff, 0xff, 0xff, 0xff] }
          outcomes := fun k => if k = 0 then .acknowledgmentLost else .acknowledged } =
            (outcome, w) ∧ outcome = .ok () ∧ w.device.flashMemory = [1, 2, 3, 0xff] := by
  rcases hrun : LossyDevice.upload [1, 2, 3] 6 3
      { device := { flashMemory := [0xff, 0xff, 0xff, 0xff] }
        outcomes := fun k => if k = 0 then .acknowledgmentLost else .acknowledged }
    with ⟨outcome, w⟩
  have hok : outcome = .ok () := by
    have hfirst := (congrArg Prod.fst hrun).symm
    dsimp only at hfirst
    rw [hfirst]
    decide +kernel
  have hfit : ([1, 2, 3] : Bytes).length ≤ 4 := by decide
  have hplaced := (lost_acknowledgments_never_misplace hfit
    (d := { flashMemory := [0xff, 0xff, 0xff, 0xff] }) ⟨rfl, rfl⟩ _ hrun).1 (by decide)
  exact ⟨outcome, w, rfl, hok, hplaced.2.2.2 hok⟩

end ApUploader
