import RethCosmos.Encoding.Bytes

/-!
# Blob sidecars

The blobs of a transaction with their commitments and proofs, in the variant of either
fork; the sidecars a payload collects; and the bundles they are returned in.
-/

namespace RethCosmos.Upstream

open Encoding

abbrev Blob := FixedBytes 131072

abbrev Bytes48 := FixedBytes 48

structure BlobTransactionSidecar where
  blobs : List Blob
  commitments : List Bytes48
  proofs : List Bytes48
  deriving DecidableEq

structure BlobTransactionSidecarEip7594 where
  blobs : List Blob
  commitments : List Bytes48
  cellProofs : List Bytes48
  deriving DecidableEq

inductive BlobTransactionSidecarVariant
  | eip4844 (sidecar : BlobTransactionSidecar)
  | eip7594 (sidecar : BlobTransactionSidecarEip7594)
  deriving DecidableEq

namespace BlobTransactionSidecarVariant

def isEip4844 : BlobTransactionSidecarVariant → Bool
  | eip4844 _ => true
  | eip7594 _ => false

def isEip7594 : BlobTransactionSidecarVariant → Bool
  | eip4844 _ => false
  | eip7594 _ => true

def blobs : BlobTransactionSidecarVariant → List Blob
  | eip4844 sidecar => sidecar.blobs
  | eip7594 sidecar => sidecar.blobs

theorem isEip7594_eq_false {sidecar : BlobTransactionSidecarVariant}
    (hvariant : sidecar.isEip4844 = true) : sidecar.isEip7594 = false := by
  cases sidecar with
  | eip4844 sidecar => rfl
  | eip7594 sidecar => exact absurd hvariant (by simp [isEip4844])

end BlobTransactionSidecarVariant

/-! ## The sidecars of a payload -/

inductive BlobSidecars
  | empty
  | eip4844 (sidecars : List BlobTransactionSidecar)
  | eip7594 (sidecars : List BlobTransactionSidecarEip7594)
  deriving DecidableEq

namespace BlobSidecars

/-- A sidecar of the other variant is ignored. -/
def pushSidecarVariant : BlobSidecars → BlobTransactionSidecarVariant → BlobSidecars
  | empty, .eip4844 sidecar => eip4844 [sidecar]
  | empty, .eip7594 sidecar => eip7594 [sidecar]
  | eip4844 sidecars, .eip4844 sidecar => eip4844 (sidecars ++ [sidecar])
  | eip7594 sidecars, .eip7594 sidecar => eip7594 (sidecars ++ [sidecar])
  | eip4844 sidecars, .eip7594 _ => eip4844 sidecars
  | eip7594 sidecars, .eip4844 _ => eip7594 sidecars

/-- The sidecars in order. -/
def toList : BlobSidecars → List BlobTransactionSidecarVariant
  | empty => []
  | eip4844 sidecars => sidecars.map .eip4844
  | eip7594 sidecars => sidecars.map .eip7594

/-- All sidecars are of the variant that is in use before or after Osaka. -/
def Uniform (isOsaka : Bool) : BlobSidecars → Prop
  | empty => True
  | eip4844 _ => isOsaka = false
  | eip7594 _ => isOsaka = true

/-- As long as all are of one variant, a push appends. -/
theorem Uniform.push {isOsaka : Bool} {sidecars : BlobSidecars}
    {sidecar : BlobTransactionSidecarVariant} (huniform : sidecars.Uniform isOsaka)
    (hvariant : sidecar.isEip7594 = isOsaka) :
    (sidecars.pushSidecarVariant sidecar).Uniform isOsaka ∧
      (sidecars.pushSidecarVariant sidecar).toList = sidecars.toList ++ [sidecar] := by
  cases sidecars with
  | empty =>
      cases sidecar with
      | eip4844 sidecar => exact ⟨hvariant.symm, rfl⟩
      | eip7594 sidecar => exact ⟨hvariant.symm, rfl⟩
  | eip4844 sidecars =>
      cases sidecar with
      | eip4844 sidecar => exact ⟨huniform, by simp [pushSidecarVariant, toList]⟩
      | eip7594 sidecar => exact absurd (hvariant.trans huniform) (by simp [
          BlobTransactionSidecarVariant.isEip7594])
  | eip7594 sidecars =>
      cases sidecar with
      | eip4844 sidecar => exact absurd (hvariant.trans huniform) (by simp [
          BlobTransactionSidecarVariant.isEip7594])
      | eip7594 sidecar => exact ⟨huniform, by simp [pushSidecarVariant, toList]⟩

theorem Uniform.isEip7594 {isOsaka : Bool} {sidecars : BlobSidecars}
    (huniform : sidecars.Uniform isOsaka) :
    ∀ sidecar ∈ sidecars.toList, sidecar.isEip7594 = isOsaka := by
  intro sidecar hmem
  cases sidecars with
  | empty => simp [toList] at hmem
  | eip4844 sidecars =>
      obtain ⟨s, _, rfl⟩ := List.mem_map.mp hmem
      exact huniform.symm
  | eip7594 sidecars =>
      obtain ⟨s, _, rfl⟩ := List.mem_map.mp hmem
      exact huniform.symm

end BlobSidecars

/-! ## Bundles -/

structure BlobsBundleV1 where
  commitments : List Bytes48
  proofs : List Bytes48
  blobs : List Blob

structure BlobsBundleV2 where
  commitments : List Bytes48
  proofs : List Bytes48
  blobs : List Blob

def BlobsBundleV1.empty : BlobsBundleV1 := ⟨[], [], []⟩

def BlobsBundleV1.ofSidecars (sidecars : List BlobTransactionSidecar) : BlobsBundleV1 where
  commitments := sidecars.flatMap BlobTransactionSidecar.commitments
  proofs := sidecars.flatMap BlobTransactionSidecar.proofs
  blobs := sidecars.flatMap BlobTransactionSidecar.blobs

def BlobsBundleV2.empty : BlobsBundleV2 := ⟨[], [], []⟩

def BlobsBundleV2.ofSidecars (sidecars : List BlobTransactionSidecarEip7594) :
    BlobsBundleV2 where
  commitments := sidecars.flatMap BlobTransactionSidecarEip7594.commitments
  proofs := sidecars.flatMap BlobTransactionSidecarEip7594.cellProofs
  blobs := sidecars.flatMap BlobTransactionSidecarEip7594.blobs

end RethCosmos.Upstream
