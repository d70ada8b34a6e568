import ApUploader.Mock.Bootloader
import ApUploader.Uploader.Upload

/-! # Chunks in the flash memory

Writing the chunk at the write pointer extends the part of the image that the flash
memory holds. The memory is long enough for the image, so no write wraps around.
-/

namespace ApUploader

open Effect MockBootloader

/-! ## Writing inside the memory -/

/-- A write that ends inside the memory replaces the bytes at the write pointer and advances it,
also where it goes on to simulate a loss. -/
theorem writeToFlashMemory_inside {d : MockBootloader} {data : Bytes} (depth : Nat)
    (hinside : d.flashMemoryWritePtr + data.length ≤ d.flashMemory.length) :
    (writeToFlashMemory (depth + 1) data d).2.flashMemory =
        d.flashMemory.take d.flashMemoryWritePtr ++ data ++
          d.flashMemory.drop (d.flashMemoryWritePtr + data.length) ∧
      (writeToFlashMemory (depth + 1) data d).2.flashMemoryWritePtr =
        d.flashMemoryWritePtr + data.length := by
  have hpost : wp (writeToFlashMemory (depth + 1) data) (.always fun x =>
      x.flashMemory = d.flashMemory.take d.flashMemoryWritePtr ++ data ++
          d.flashMemory.drop (d.flashMemoryWritePtr + data.length) ∧
        x.flashMemoryWritePtr = d.flashMemoryWritePtr + data.length) d := by
    unfold writeToFlashMemory
    by_cases hdata : data = []
    · simp [hdata, Post.always]
    · rw [if_neg hdata]
      simp only [wp_bind, wp_get, hinside, ↓reduceIte, wp_modify]
      split_ifs
      · simp only [wp_bind, nextRandom, wp_get, wp_modify, wp_pure]
        split_ifs <;> simp [Post.always]
      · simp [Post.always]
  exact wp_always_iff.mp hpost

/-! ## Placement -/

/-- The memory holds the image up to the write pointer and is erased behind it. -/
structure HoldsPrefix (image : Bytes) (size : Nat) (d : MockBootloader) : Prop where
  pointer_le : d.flashMemoryWritePtr ≤ image.length
  memory : d.flashMemory = image.take d.flashMemoryWritePtr ++
    List.replicate (size - d.flashMemoryWritePtr) 0xff

theorem chunkAt_length (image : Bytes) (pointer : Nat) :
    (chunkAt image pointer).length = min progMultiMaxPayloadLength (image.length - pointer) := by
  simp [chunkAt]

theorem take_append_chunkAt (image : Bytes) (pointer : Nat) :
    image.take pointer ++ chunkAt image pointer =
      image.take (pointer + (chunkAt image pointer).length) := by
  have hchunk : chunkAt image pointer =
      (image.drop pointer).take (chunkAt image pointer).length := by
    simp [chunkAt]
  rw [List.take_add, ← hchunk]

theorem HoldsPrefix.length {image : Bytes} {size : Nat} {d : MockBootloader}
    (h : HoldsPrefix image size d) (hfit : image.length ≤ size) : d.flashMemory.length = size := by
  have hle := h.pointer_le
  rw [h.memory]
  simp only [List.length_append, List.length_take, List.length_replicate]
  omega

theorem HoldsPrefix.take {image : Bytes} {size : Nat} {d : MockBootloader}
    (h : HoldsPrefix image size d) :
    d.flashMemory.take d.flashMemoryWritePtr = image.take d.flashMemoryWritePtr := by
  have hle := h.pointer_le
  rw [h.memory, List.take_append_of_le_length (by simp [hle]), List.take_take, Nat.min_self]

theorem HoldsPrefix.inside {image : Bytes} {size : Nat} {d : MockBootloader}
    (h : HoldsPrefix image size d) (hfit : image.length ≤ size) :
    d.flashMemoryWritePtr + (chunkAt image d.flashMemoryWritePtr).length ≤
      d.flashMemory.length := by
  have hle := h.pointer_le
  have hchunk := chunkAt_length image d.flashMemoryWritePtr
  rw [h.length hfit]
  omega

/-- Once the chunk at the write pointer is written the memory holds a longer prefix. -/
theorem HoldsPrefix.written {image : Bytes} {size : Nat} {d d' : MockBootloader}
    (h : HoldsPrefix image size d) (hfit : image.length ≤ size)
    (hmemory : d'.flashMemory = d.flashMemory.take d.flashMemoryWritePtr ++
      chunkAt image d.flashMemoryWritePtr ++ d.flashMemory.drop
        (d.flashMemoryWritePtr + (chunkAt image d.flashMemoryWritePtr).length))
    (hpointer : d'.flashMemoryWritePtr =
      d.flashMemoryWritePtr + (chunkAt image d.flashMemoryWritePtr).length) :
    HoldsPrefix image size d' := by
  have hle := h.pointer_le
  have hchunk := chunkAt_length image d.flashMemoryWritePtr
  refine ⟨by omega, ?_⟩
  rw [hpointer, hmemory, h.take, take_append_chunkAt]
  congr 1
  rw [h.memory, List.drop_append, List.drop_eq_nil_of_le (by simp), List.nil_append,
    List.drop_replicate]
  congr 1
  simp only [List.length_take]
  omega

/-- Once the write pointer is behind the image the rest of the memory is still erased. -/
theorem HoldsPrefix.complete {image : Bytes} {size : Nat} {d : MockBootloader}
    (h : HoldsPrefix image size d) (hend : d.flashMemoryWritePtr = image.length) :
    d.flashMemory = image ++ List.replicate (size - image.length) 0xff := by
  have hmemory := h.memory
  rw [hend, List.take_length] at hmemory
  exact hmemory

structure Erased (size : Nat) (d : MockBootloader) : Prop where
  memory : d.flashMemory = List.replicate size 0xff
  pointer : d.flashMemoryWritePtr = 0

theorem Erased.holdsPrefix {size : Nat} {d : MockBootloader} (h : Erased size d) (image : Bytes) :
    HoldsPrefix image size d :=
  ⟨by rw [h.pointer]; exact Nat.zero_le _, by rw [h.memory, h.pointer]; simp⟩

end ApUploader
