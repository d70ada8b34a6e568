import ApUploader.Utils

/-! # Firmware files

A loaded firmware is its image and the metadata of its file. Of the metadata the
upload reads the image size only, which may be any JSON value.
-/

namespace ApUploader

/-- A JSON value other than `null`, as integer arithmetic sees it: booleans are the integers 0 and
1, everything else cannot be counted with. -/
inductive MetadataValue where
  | int (n : Int)
  | other
  deriving DecidableEq, Repr

structure Firmware where
  image : Bytes
  /-- `metadata.get("image_size")`, `none` when it is absent or `null`. -/
  imageSizeMetadata : Option MetadataValue := none
  deriving DecidableEq, Repr

namespace Firmware

def imageSize (f : Firmware) : MetadataValue :=
  match f.imageSizeMetadata with
  | none => .int f.image.length
  | some size => size

def crc (f : Firmware) : Nat := crc32 f.image 0

/-- The range of the repeat count that `itertools.repeat` accepts. -/
def InSsizeRange (n : Int) : Prop := -2 ^ 63 ≤ n ∧ n < 2 ^ 63

instance (n : Int) : Decidable (InSsizeRange n) := by unfold InSsizeRange; infer_instance

/-- The number of items of `repeat(255, flash_size - firmware.image_size)`. -/
def paddingLength (f : Firmware) (flashSize : Nat) : Except Exn Nat :=
  match f.imageSize with
  | .other => .error .typeError
  | .int size =>
      if InSsizeRange (flashSize - size) then .ok (flashSize - size).toNat
      else .error .overflowError

/-- The image size can be counted with at this flash size. -/
def SizeUsable (f : Firmware) (flashSize : Nat) : Prop :=
  ∃ size, f.imageSize = .int size ∧ InSsizeRange (flashSize - size)

theorem paddingLength_eq_ok_iff {f : Firmware} {flashSize : Nat} :
    (∃ padding, f.paddingLength flashSize = .ok padding) ↔ f.SizeUsable flashSize := by
  unfold paddingLength SizeUsable
  cases f.imageSize with
  | other => simp
  | int size =>
      by_cases h : InSsizeRange (flashSize - size)
      · simp [h]
      · simp [h]

end Firmware

end ApUploader
