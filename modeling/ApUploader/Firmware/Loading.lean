import ApUploader.Firmware
import ApUploader.Logic.Machine
import ApUploader.Logic.Proc
import Mathlib.Data.List.AList

/-! # Loading firmware files

A loaded file replaces image and metadata and drops the cached checksum, in three
statements. The decoders of JSON, base64 and zlib are parameters that may fail.
The metadata is passed on as keyword arguments of a method, so a key named like
its first parameter fails the last statement behind the other two.
-/

namespace ApUploader

open Effect

inductive LoadError where
  | runtimeError (message : String)
  | typeError
  | keyError
  | attributeError
  /-- What a decoder raises. -/
  | decoding (name : String)
  deriving DecidableEq, Repr

abbrev Metadata (Value : Type) : Type := AList fun _ : String => Value

/-- What `json.load` returns, as the loader tells documents apart. -/
inductive Document (Value : Type) where
  | object (members : Metadata Value)
  | array
  /-- A string, a number, a boolean or `null`. -/
  | scalar

structure Decoders (File Value : Type) where
  load : File → Except LoadError (Document Value)
  b64decode : Value → Except LoadError Bytes
  decompress : Bytes → Except LoadError Bytes

structure FirmwareBase (Value : Type) where
  cachedCrc : Option Nat := none
  loadedImage : Option Bytes := none
  metadata : Metadata Value := ∅

namespace FirmwareBase

variable {File Value : Type}

abbrev Method (Value α : Type) : Type := Proc LoadError (FirmwareBase Value) α

def image : Method Value Bytes := do
  let f ← Proc.get
  match f.loadedImage with
  | none => Proc.raise (.runtimeError "image has not been loaded yet")
  | some image => pure image

def crc : Method Value Nat := do
  let f ← Proc.get
  match f.cachedCrc with
  | some crc => pure crc
  | none => do
      let image ← image
      Proc.modify fun f => { f with cachedCrc := some (crc32 image 0) }
      pure (crc32 image 0)

def clearMetadata : Method Value Unit := Proc.modify fun f => { f with metadata := ∅ }

def setImage (image : Bytes) : Method Value Unit :=
  Proc.modify fun f => { f with loadedImage := some image, cachedCrc := none }

/-- The keywords include the name of the receiver when a file has a member of that name. -/
def updateMetadata (keywords : Metadata Value) : Method Value Unit :=
  if "self" ∈ keywords then Proc.raise .typeError
  else Proc.modify fun f => { f with metadata := keywords ∪ f.metadata }

def processLoadedImageAndMetadata (image : Bytes) (metadata : Metadata Value) :
    Method Value Unit := do
  clearMetadata
  setImage image
  updateMetadata metadata

/-- `obj.pop("image")`, with the object that is left. -/
def popImage : Document Value → Except LoadError (Value × Metadata Value)
  | .array => .error .typeError
  | .scalar => .error .attributeError
  | .object members =>
      match members.lookup "image" with
      | none => .error .keyError
      | some value => .ok (value, members.erase "image")

def loadImage (D : Decoders File Value) (file : File) :
    Except LoadError (Bytes × Metadata Value) := do
  let document ← D.load file
  let (encoded, metadata) ← popImage document
  let compressed ← D.b64decode encoded
  let image ← D.decompress compressed
  pure (image, metadata)

def readSync (D : Decoders File Value) (file : File) : Method Value Unit :=
  match loadImage D file with
  | .error error => Proc.raise error
  | .ok (image, metadata) => processLoadedImageAndMetadata image metadata

/-! ## Runs of loads and reads -/

inductive FirmwareCall (File : Type) where
  | readSync (file : File)
  | crc
  | image
  | metadata

def call (D : Decoders File Value) (f : FirmwareBase Value) : FirmwareCall File →
    FirmwareBase Value
  | .readSync file => (readSync D file f).2
  | .crc => (crc f).2
  | .image => (image f).2
  | .metadata => f

def machine (D : Decoders File Value) : Machine (FirmwareBase Value) (FirmwareCall File) :=
  ⟨fun f c => some (call D f c)⟩

/-- What the properties of a firmware object show. -/
def SameFirmware (f f' : FirmwareBase Value) : Prop :=
  f'.loadedImage = f.loadedImage ∧ f'.metadata = f.metadata ∧ (crc f').1 = (crc f).1

/-- A load replaces image and metadata together or changes nothing, a read changes nothing. -/
def Atomic (D : Decoders File Value) (f : FirmwareBase Value) : FirmwareCall File → Prop
  | .readSync file =>
      (∃ image metadata, loadImage D file = .ok (image, metadata) ∧
        (readSync D file f).1 = .ok () ∧ (readSync D file f).2.loadedImage = some image ∧
        (readSync D file f).2.metadata = metadata) ∨
      ((∃ error, (readSync D file f).1 = .raised error) ∧ SameFirmware f (readSync D file f).2)
  | c => SameFirmware f (call D f c)

def CrcOfImage (f : FirmwareBase Value) : Prop :=
  (crc f).1 = match f.loadedImage with
    | none => .raised (.runtimeError "image has not been loaded yet")
    | some image => .ok (crc32 image 0)

/-- A cached checksum is the one of the image. -/
def Coherent (f : FirmwareBase Value) : Prop :=
  ∀ crc, f.cachedCrc = some crc → f.loadedImage.map (crc32 · 0) = some crc

/-- The file has no member that clashes, or the object has this image and no metadata already. -/
def Loadable (D : Decoders File Value) (f : FirmwareBase Value) : FirmwareCall File → Prop
  | .readSync file => ∀ image metadata, loadImage D file = .ok (image, metadata) →
      "self" ∈ metadata → f.loadedImage = some image ∧ f.metadata = ∅
  | _ => True

variable {D : Decoders File Value} {f : FirmwareBase Value}

theorem crc_cached {crc : Nat} (h : f.cachedCrc = some crc) :
    FirmwareBase.crc f = (.ok crc, f) := by
  unfold FirmwareBase.crc
  rw [Proc.get_bind, h]
  rfl

theorem crc_unloaded (h : f.cachedCrc = none) (himage : f.loadedImage = none) :
    crc f = (.raised (.runtimeError "image has not been loaded yet"), f) := by
  have hraised : image f = (.raised (.runtimeError "image has not been loaded yet"), f) := by
    unfold image
    rw [Proc.get_bind, himage]
    rfl
  unfold crc
  rw [Proc.get_bind, h]
  exact Proc.bind_of_raised hraised _

theorem image_loaded {data : Bytes} (h : f.loadedImage = some data) :
    image f = (.ok data, f) := by
  unfold image
  rw [Proc.get_bind, h]
  rfl

theorem crc_computed {data : Bytes} (h : f.cachedCrc = none) (himage : f.loadedImage = some data) :
    crc f = (.ok (crc32 data 0), { f with cachedCrc := some (crc32 data 0) }) := by
  unfold crc
  rw [Proc.get_bind, h]
  exact Proc.bind_of_ok (image_loaded himage) _

theorem crc_frame (f : FirmwareBase Value) :
    (crc f).2 = f ∨ ∃ data, f.loadedImage = some data ∧ f.cachedCrc = none ∧
      (crc f).2 = { f with cachedCrc := some (crc32 data 0) } := by
  cases hcrc : f.cachedCrc with
  | some crc =>
      left
      rw [crc_cached hcrc]
  | none =>
      cases himage : f.loadedImage with
      | none =>
          left
          rw [crc_unloaded hcrc himage]
      | some data =>
          right
          exact ⟨data, rfl, rfl, by rw [crc_computed hcrc himage, himage]⟩

theorem image_frame (f : FirmwareBase Value) : (image f).2 = f := by
  unfold image
  rw [Proc.get_bind]
  cases f.loadedImage <;> rfl

theorem readSync_failed {file : File} {error : LoadError} (h : loadImage D file = .error error) :
    readSync D file f = (.raised error, f) := by
  unfold readSync
  rw [h]
  rfl

/-- A decoded file has replaced image and metadata, or has left the image without metadata. -/
theorem readSync_decoded {file : File} {data : Bytes} {metadata : Metadata Value}
    (h : loadImage D file = .ok (data, metadata)) :
    readSync D file f = if "self" ∈ metadata
      then (.raised .typeError, { loadedImage := some data })
      else (.ok (), { loadedImage := some data, metadata := metadata }) := by
  unfold readSync
  rw [h]
  change updateMetadata metadata { loadedImage := some data } = _
  unfold updateMetadata
  split_ifs
  · rfl
  · change (Outcome.ok (), FirmwareBase.mk none (some data) (metadata ∪ ∅)) = _
    rw [AList.union_empty]

/-! ## The cached checksum -/

theorem Coherent.crcOfImage (h : Coherent f) : CrcOfImage f := by
  unfold CrcOfImage
  cases hcrc : f.cachedCrc with
  | some crc =>
      have hcached := h crc hcrc
      rw [crc_cached hcrc]
      cases himage : f.loadedImage with
      | none => simp [himage] at hcached
      | some data =>
          rw [himage, Option.map_some, Option.some.injEq] at hcached
          simp only [hcached]
  | none =>
      cases himage : f.loadedImage with
      | none => rw [crc_unloaded hcrc himage]
      | some data => rw [crc_computed hcrc himage]

/-- The firmware an upload works with, the image size seen as integer arithmetic sees it. -/
def snapshot (view : Value → Option MetadataValue) (f : FirmwareBase Value) : Option Firmware :=
  f.loadedImage.map fun image => ⟨image, (f.metadata.lookup "image_size").bind view⟩

/-- What an upload reads of a firmware object is the image and the checksum of its snapshot. -/
theorem Coherent.snapshot (h : Coherent f) {view : Value → Option MetadataValue}
    {firmware : Firmware} (hsnapshot : f.snapshot view = some firmware) :
    (image f).1 = .ok firmware.image ∧ (crc f).1 = .ok firmware.crc := by
  obtain ⟨data, himage, rfl⟩ := Option.map_eq_some_iff.mp hsnapshot
  have hcrc : CrcOfImage f := h.crcOfImage
  unfold CrcOfImage at hcrc
  rw [himage] at hcrc
  rw [image_loaded himage]
  exact ⟨rfl, hcrc⟩

theorem Coherent.call (h : Coherent f) (c : FirmwareCall File) : Coherent (call D f c) := by
  cases c with
  | metadata => exact h
  | image => rw [FirmwareBase.call, image_frame]; exact h
  | crc =>
      rcases crc_frame f with hsame | ⟨data, himage, _, hcomputed⟩
      · rw [FirmwareBase.call, hsame]
        exact h
      · rw [FirmwareBase.call, hcomputed]
        intro crc hcrc
        rw [← hcrc, himage]
        rfl
  | readSync file =>
      cases hload : loadImage D file with
      | error error =>
          rw [FirmwareBase.call, readSync_failed hload]
          exact h
      | ok result =>
          obtain ⟨data, metadata⟩ := result
          rw [FirmwareBase.call, readSync_decoded hload]
          split_ifs <;> exact fun _ hcrc => nomatch hcrc

/-! ## Loads -/

theorem SameFirmware.refl (f : FirmwareBase Value) : SameFirmware f f := ⟨rfl, rfl, rfl⟩

theorem sameFirmware_crc (f : FirmwareBase Value) : SameFirmware f (crc f).2 := by
  rcases crc_frame f with hsame | ⟨data, himage, hcrc, hcomputed⟩
  · rw [hsame]
    exact .refl f
  · rw [hcomputed]
    refine ⟨rfl, rfl, ?_⟩
    rw [crc_computed hcrc himage, crc_cached rfl]

/-- Behind a clash the image is the new one and the metadata is gone. -/
theorem atomic_iff_of_clash (h : Coherent f) {file : File} {data : Bytes}
    {metadata : Metadata Value} (hload : loadImage D file = .ok (data, metadata))
    (hself : "self" ∈ metadata) :
    Atomic D f (.readSync file) ↔ Loadable D f (.readSync file) := by
  have hread : readSync D file f = (.raised .typeError, { loadedImage := some data }) := by
    rw [readSync_decoded hload, if_pos hself]
  constructor
  · rintro (⟨_, _, _, hok, _⟩ | ⟨_, himage, hmetadata, _⟩)
    · rw [hread] at hok
      cases hok
    · rw [hread] at himage hmetadata
      intro data' metadata' hdecoded _
      rw [hload] at hdecoded
      cases hdecoded
      exact ⟨himage.symm, hmetadata.symm⟩
  · intro hloadable
    obtain ⟨himage, hmetadata⟩ := hloadable data metadata hload hself
    right
    rw [hread]
    refine ⟨⟨_, rfl⟩, himage.symm, hmetadata.symm, ?_⟩
    have hcrc : CrcOfImage f := h.crcOfImage
    unfold CrcOfImage at hcrc
    rw [hcrc, himage, crc_computed rfl rfl]

theorem atomic_iff_loadable (h : Coherent f) (c : FirmwareCall File) :
    Atomic D f c ↔ Loadable D f c := by
  cases c with
  | metadata => exact iff_of_true (.refl f) trivial
  | image =>
      refine iff_of_true ?_ trivial
      change SameFirmware f (image f).2
      rw [image_frame]
      exact .refl f
  | crc => exact iff_of_true (sameFirmware_crc f) trivial
  | readSync file =>
      cases hload : loadImage D file with
      | error error =>
          refine iff_of_true (.inr ?_) ?_
          · rw [readSync_failed hload]
            exact ⟨⟨error, rfl⟩, .refl f⟩
          · intro data metadata hdecoded
            rw [hload] at hdecoded
            cases hdecoded
      | ok result =>
          obtain ⟨data, metadata⟩ := result
          by_cases hself : "self" ∈ metadata
          · exact atomic_iff_of_clash h hload hself
          · have hread : readSync D file f =
                (.ok (), { loadedImage := some data, metadata := metadata }) := by
              rw [readSync_decoded hload, if_neg hself]
            refine iff_of_true (.inl ⟨data, metadata, hload, ?_⟩) ?_
            · rw [hread]
              exact ⟨rfl, rfl, rfl⟩
            · intro data' metadata' hdecoded hself'
              rw [hload] at hdecoded
              cases hdecoded
              exact absurd hself' hself

/-- In every run the checksum read is the one of the image, and the loads are atomic exactly where
none of them meets a member that clashes. -/
theorem loads_atomic_iff (D : Decoders File Value) (calls : List (FirmwareCall File)) :
    (machine D).Always CrcOfImage {} calls ∧
      ((machine D).Throughout (Atomic D) {} calls ↔
        (machine D).Throughout (Loadable D) {} calls) := by
  have hinit : Coherent ({} : FirmwareBase Value) := fun _ hcrc => nomatch hcrc
  have hstep : ∀ (f : FirmwareBase Value) (c : FirmwareCall File) f', Coherent f →
      (machine D).step f c = some f' → Coherent f' := by
    intro f c f' hf hcall
    cases hcall
    exact hf.call c
  exact ⟨Machine.always_of_invariant hstep (fun f hf => hf.crcOfImage) calls hinit,
    Machine.throughout_congr hstep (fun f c hf => atomic_iff_loadable hf c) calls hinit⟩

/-! ## A file with a member named like the receiver -/

/-- Four bytes as a zlib stream. -/
def compressed : Bytes :=
  [0x78, 0x9C, 0x63, 0x64, 0x62, 0x66, 0x01, 0x00, 0x00, 0x18, 0x00, 0x0B]

/-- base64 and zlib where the file below needs them. -/
def fileDecoders : Decoders (Document String) String where
  load := .ok
  b64decode text := if text = "eJxjZGJmAQAAGAAL" then .ok compressed
    else .error (.decoding "binascii.Error")
  decompress stream := if stream = compressed then .ok [1, 2, 3, 4]
    else .error (.decoding "zlib.error")

/-- The members `image` and `self`. -/
def clashingFile : Document String :=
  .object (.insert "image" "eJxjZGJmAQAAGAAL" (.insert "self" "" ∅))

/-- Its load fails and leaves an image where none was loaded before. -/
theorem loads_not_atomic :
    ¬ (machine fileDecoders).Throughout (Atomic fileDecoders) {} [.readSync clashingFile] ∧
      (readSync fileDecoders clashingFile {}).1 = .raised .typeError ∧
      (readSync fileDecoders clashingFile {}).2.loadedImage = some [1, 2, 3, 4] := by
  have hload : loadImage fileDecoders clashingFile =
      .ok ([1, 2, 3, 4], .insert "self" "" ∅) := by rfl
  have hself : "self" ∈ (AList.insert "self" "" ∅ : Metadata String) :=
    (AList.mem_insert ∅).mpr (.inl rfl)
  have hinit : Coherent ({} : FirmwareBase String) := fun _ hcrc => nomatch hcrc
  have hread : readSync fileDecoders clashingFile {} =
      (.raised .typeError, { loadedImage := some [1, 2, 3, 4] }) := by
    rw [readSync_decoded hload, if_pos hself]
  refine ⟨?_, by rw [hread], by rw [hread]⟩
  intro hatomic
  have hloadable := (atomic_iff_of_clash hinit hload hself).mp hatomic.1
  cases (hloadable [1, 2, 3, 4] _ hload hself).1

end FirmwareBase

end ApUploader
