import ApUploader.Logic.LittleEndian
import Mathlib.Data.List.Forall2

/-! # Packed records

A format is a list of field codes. Fields are little-endian and follow each other
without padding. Packing refuses values that do not fit their field; unpacking refuses
data of another size, and gives back what was packed, but for strings, which are cut or
filled with zeros to the size of their field.
-/

namespace Struct

inductive Code where
  | char
  | uint (width : Nat)
  | int (width : Nat)
  | float
  | string (width : Nat)
  deriving Repr, DecidableEq

/-- Floats are known by their bit patterns. -/
inductive Value where
  | int (n : Int)
  | float (bits : UInt32)
  | bytes (data : List UInt8)
  deriving Repr, DecidableEq

namespace Code

def size : Code → Nat
  | char => 1
  | uint width => width
  | int width => width
  | float => 4
  | string width => width

def encode : Code → Value → Option (List UInt8)
  | char, .bytes data => if data.length = 1 then some data else none
  | uint width, .int n =>
      if 0 ≤ n ∧ n < (256 ^ width : Nat) then some (LittleEndian.encode width n.toNat) else none
  | int width, .int n =>
      if -((256 ^ width / 2 : Nat) : Int) ≤ n ∧ n < (256 ^ width / 2 : Nat) then
        some (LittleEndian.encode width (n % (256 ^ width : Nat)).toNat)
      else none
  | float, .float bits => some (LittleEndian.encode 4 bits.toNat)
  | string width, .bytes data =>
      some (data.take width ++ List.replicate (width - data.length) 0)
  | _, _ => none

def decode : Code → List UInt8 → Value
  | char, data => .bytes data
  | uint _, data => .int (LittleEndian.decode data)
  | int width, data =>
      let n := LittleEndian.decode data
      .int (if n < 256 ^ width / 2 then n else n - (256 ^ width : Nat))
  | float, data => .float (UInt32.ofNat (LittleEndian.decode data))
  | string _, data => .bytes data

def stored : Code → Value → Value
  | string width, .bytes data => .bytes (data.take width ++ List.replicate (width - data.length) 0)
  | _, value => value

variable {code : Code} {value : Value} {data : List UInt8}

theorem encode_length (h : code.encode value = some data) : data.length = code.size := by
  cases code with
  | char =>
      cases value with
      | bytes bytes =>
          simp only [encode] at h
          split at h
          · next hlength =>
              cases h
              exact hlength
          · cases h
      | _ => cases h
  | uint width =>
      cases value with
      | int n =>
          simp only [encode] at h
          split at h
          · cases h
            exact LittleEndian.encode_length _ _
          · cases h
      | _ => cases h
  | int width =>
      cases value with
      | int n =>
          simp only [encode] at h
          split at h
          · cases h
            exact LittleEndian.encode_length _ _
          · cases h
      | _ => cases h
  | float =>
      cases value with
      | float bits =>
          cases h
          exact LittleEndian.encode_length _ _
      | _ => cases h
  | string width =>
      cases value with
      | bytes bytes =>
          cases h
          simp only [List.length_append, List.length_take, List.length_replicate, size]
          omega
      | _ => cases h

theorem decode_encode (h : code.encode value = some data) :
    code.decode data = code.stored value := by
  cases code with
  | char =>
      cases value with
      | bytes bytes =>
          simp only [encode] at h
          split at h
          · cases h
            rfl
          · cases h
      | _ => cases h
  | uint width =>
      cases value with
      | int n =>
          simp only [encode] at h
          split at h
          · next hrange =>
              cases h
              have hlt : n.toNat < 256 ^ width := by omega
              simp only [decode, stored, LittleEndian.decode_encode hlt]
              rw [Int.toNat_of_nonneg hrange.1]
          · cases h
      | _ => cases h
  | int width =>
      cases value with
      | int n =>
          simp only [encode] at h
          split at h
          · next hrange =>
              cases h
              -- a negative number is stored as its complement
              generalize hpow : 256 ^ width = m at *
              have hmod : n % (m : Int) = if 0 ≤ n then n else n + m := by
                split
                · exact Int.emod_eq_of_lt (by omega) (by omega)
                · rw [← Int.add_emod_right]
                  exact Int.emod_eq_of_lt (by omega) (by omega)
              have hlt : (n % (m : Int)).toNat < 256 ^ width := by
                rw [hmod, hpow]
                split <;> omega
              simp only [decode, stored, LittleEndian.decode_encode hlt, hpow]
              rw [hmod]
              congr 1
              split <;> split <;> omega
          · cases h
      | _ => cases h
  | float =>
      cases value with
      | float bits =>
          cases h
          have hlt : bits.toNat < 256 ^ 4 := bits.toNat_lt
          simp only [decode, stored, LittleEndian.decode_encode hlt]
          rw [UInt32.ofNat_toNat]
      | _ => cases h
  | string width =>
      cases value with
      | bytes bytes =>
          cases h
          rfl
      | _ => cases h

end Code

def calcsize (codes : List Code) : Nat := (codes.map Code.size).sum

def pack : List Code → List Value → Option (List UInt8)
  | [], [] => some []
  | code :: codes, value :: values =>
      (code.encode value).bind fun front => (pack codes values).map (front ++ ·)
  | _, _ => none

def unpack : List Code → List UInt8 → Option (List Value)
  | [], data => if data.isEmpty then some [] else none
  | code :: codes, data =>
      if data.length < code.size then none
      else (unpack codes (data.drop code.size)).map (code.decode (data.take code.size) :: ·)

variable {codes : List Code} {values : List Value} {data : List UInt8}

theorem exists_of_pack_cons {code : Code} (h : pack (code :: codes) values = some data) :
    ∃ value rest front back, values = value :: rest ∧ code.encode value = some front ∧
      pack codes rest = some back ∧ data = front ++ back := by
  cases values with
  | nil => cases h
  | cons value rest =>
      simp only [pack, Option.bind_eq_some_iff, Option.map_eq_some_iff] at h
      obtain ⟨front, hfront, back, hback, hdata⟩ := h
      exact ⟨value, rest, front, back, rfl, hfront, hback, hdata.symm⟩

theorem pack_length (h : pack codes values = some data) : data.length = calcsize codes := by
  induction codes generalizing values data with
  | nil =>
      cases values with
      | nil =>
          cases h
          rfl
      | cons value values => cases h
  | cons code codes ih =>
      obtain ⟨value, rest, front, back, rfl, hfront, hback, rfl⟩ := exists_of_pack_cons h
      simp only [List.length_append, Code.encode_length hfront, ih hback, calcsize,
        List.map_cons, List.sum_cons]

theorem exists_pack (h : List.Forall₂ (fun code value => (code.encode value).isSome) codes values) :
    ∃ data, pack codes values = some data := by
  induction h with
  | nil => exact ⟨[], rfl⟩
  | cons hvalue _ ih =>
      obtain ⟨front, hfront⟩ := Option.isSome_iff_exists.mp hvalue
      obtain ⟨back, hback⟩ := ih
      exact ⟨front ++ back, by simp [pack, hfront, hback]⟩

/-- Only values that all fit their fields are packed. -/
theorem forall₂_of_pack (h : pack codes values = some data) :
    List.Forall₂ (fun code value => (Code.encode code value).isSome) codes values := by
  induction codes generalizing values data with
  | nil =>
      cases values with
      | nil => exact .nil
      | cons value values => cases h
  | cons code codes ih =>
      obtain ⟨value, rest, front, back, rfl, hfront, hback, -⟩ := exists_of_pack_cons h
      exact .cons (Option.isSome_of_eq_some hfront) (ih hback)

/-- Unpacking gives back what was packed. -/
theorem unpack_pack (h : pack codes values = some data) :
    unpack codes data = some (List.zipWith Code.stored codes values) := by
  induction codes generalizing values data with
  | nil =>
      cases values with
      | nil =>
          cases h
          rfl
      | cons value values => cases h
  | cons code codes ih =>
      obtain ⟨value, rest, front, back, rfl, hfront, hback, rfl⟩ := exists_of_pack_cons h
      have hlength := Code.encode_length hfront
      rw [unpack, if_neg (by simp [hlength]), ← hlength, List.drop_left, List.take_left,
        ih hback, Code.decode_encode hfront]
      rfl

end Struct
