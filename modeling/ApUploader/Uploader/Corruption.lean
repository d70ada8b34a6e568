import ApUploader.Checksum
import ApUploader.Uploader.Upload

/-! # Corrupted flash memory in the verifying step

The verifying step compares the checksum of the image and its padding with the
one the device reports, and tells the two checksums when they differ.
-/

namespace ApUploader

open Effect Uploader

variable {σ : Type}

/-- What is compared and told, on every normal ending. -/
theorem wp_verify_compares (S : Session σ) (fuel : Nat) {firmware : Firmware}
    {flashSize padding : Nat} (hpadding : firmware.paddingLength flashSize = .ok padding)
    (w : BootloaderConnection σ UploadTask) :
    wp (verify S fuel firmware flashSize) (.ifReturns fun _ w' =>
      ∃ observed, w'.client.observedCrc = some observed ∧
        (crc32 (firmware.image ++ List.replicate padding 255) 0 ≠ observed →
          .crcMismatch (crc32 (firmware.image ++ List.replicate padding 255) 0) observed ∈
            w'.client.events)) w := by
  have hexpected : crc32 (List.replicate padding 255) firmware.crc =
      crc32 (firmware.image ++ List.replicate padding 255) 0 := (crc32_append _ _ 0).symm
  have hlength : wp (BootloaderConnection.ofExcept (.ok padding) : Upload σ Nat)
      (.ifReturns fun value _ => value = padding) w := rfl
  unfold verify
  rw [hpadding]
  apply wp_bind_ifReturns hlength
  intro value w₀ hvalue
  subst hvalue
  apply wp_bind_ifReturns (wp_ifReturns_true _ w₀)
  intro _ w₁ _
  apply wp_bind_ifReturns (wp_ifReturns_true _ w₁)
  intro observed w₂ _
  rw [hexpected, wp_bind]
  split_ifs with hne
  · exact ⟨observed, rfl, fun _ => List.mem_append_right _ (List.mem_singleton.mpr rfl)⟩
  · exact ⟨observed, rfl, fun h => absurd h hne⟩

/-- Every corruption within four consecutive bytes changes the checksum from any state, and a flash
memory corrupted so fails the comparison of the verifying step. -/
theorem short_corruption_detected {data data' : Bytes} (h : ShortCorruption data data') :
    (∀ state < 2 ^ 32, crc32 data state ≠ crc32 data' state) ∧
      ∀ (σ : Type) (S : Session σ) (fuel : Nat) (firmware : Firmware) (flashSize padding : Nat)
        (w : BootloaderConnection σ UploadTask),
        firmware.paddingLength flashSize = .ok padding →
        data = firmware.image ++ List.replicate padding 255 →
        wp (verify S fuel firmware flashSize) (.ifReturns fun _ w' =>
          w'.client.observedCrc = some (crc32 data' 0) →
            .crcMismatch (crc32 data 0) (crc32 data' 0) ∈ w'.client.events) w := by
  constructor
  · intro state hstate
    exact h.crc32_ne hstate
  · intro σ S fuel firmware flashSize padding w hpadding hdata
    have hne : crc32 data 0 ≠ crc32 data' 0 := h.crc32_ne (by decide)
    refine wp_mono (wp_verify_compares S fuel hpadding w) ?_ (fun _ _ h => h) (fun _ h => h)
    rintro _ w' ⟨observed, hobserved, htold⟩ hcorrupt
    have hsame : observed = crc32 data' 0 := Option.some.inj (hobserved.symm.trans hcorrupt)
    subst hdata hsame
    exact htold hne

/-- One byte of firmware in two bytes of memory, and the byte of padding is wrong. -/
theorem short_corruption_detected_two_bytes :
    (∀ state < 2 ^ 32, crc32 [1, 255] state ≠ crc32 [1, 254] state) ∧
      ∀ (σ : Type) (S : Session σ) (fuel : Nat) (w : BootloaderConnection σ UploadTask),
        wp (verify S fuel { image := [1] } 2) (.ifReturns fun _ w' =>
          w'.client.observedCrc = some (crc32 [1, 254] 0) →
            .crcMismatch (crc32 [1, 255] 0) (crc32 [1, 254] 0) ∈ w'.client.events) w := by
  have hcorruption : ShortCorruption [1, 255] [1, 254] := by
    refine ⟨rfl, by decide, 0, ?_⟩
    intro i hi
    by_contra hout
    apply hi
    rw [List.getElem?_eq_none (by simp; omega), List.getElem?_eq_none (by simp; omega)]
  obtain ⟨hstates, hverify⟩ := short_corruption_detected hcorruption
  exact ⟨hstates, fun σ S fuel w => hverify σ S fuel { image := [1] } 2 1 w rfl rfl⟩

end ApUploader
