import CoServer.Lib.CString
import Mathlib.Data.Int.Basic

/-! # Values shared by every layer

The return codes of the server, the fixed-width arithmetic of its integer types
and the byte strings that buffers, messages and sockets hold. -/

namespace CoServer

/-- The content of a `std::string`, of a buffer or of a socket. -/
abbrev Bytes := List UInt8

/-! ## Return codes -/

abbrev coException : Int := -5
abbrev coConnectionClose : Int := -4
abbrev coAgain : Int := -3
abbrev coTimeout : Int := -2
abbrev coError : Int := -1
abbrev coOk : Int := 0

/-! ## Fixed-width arithmetic -/

/-- The value of a sum or product of `size_t` operands. -/
def sizeT (n : Nat) : Nat := n % 2 ^ 64

/-- Subtraction of `size_t` operands. -/
def sizeSub (a b : Nat) : Nat := sizeT (a + (2 ^ 64 - b))

/-- Conversion to `int32_t`. -/
def int32 (n : Int) : Int := (BitVec.ofInt 32 n).toInt

def atoi (text : Bytes) : Int := int32 (Lib.strtol text)

theorem sizeT_of_lt {n : Nat} (h : n < 2 ^ 64) : sizeT n = n := Nat.mod_eq_of_lt h

theorem sizeT_lt (n : Nat) : sizeT n < 2 ^ 64 := Nat.mod_lt _ (by decide)

theorem sizeSub_of_le {a b : Nat} (ha : a < 2 ^ 64) (h : b ≤ a) : sizeSub a b = a - b := by
  unfold sizeSub sizeT
  omega

theorem int32_eq_bmod (n : Int) : int32 n = n.bmod (2 ^ 32) := BitVec.toInt_ofInt n

theorem int32_of_bounds {n : Int} (hl : -2 ^ 31 ≤ n) (hu : n < 2 ^ 31) : int32 n = n := by
  rw [int32_eq_bmod, Int.bmod_eq_of_le] <;> omega

theorem int32_bounds (n : Int) : -2 ^ 31 ≤ int32 n ∧ int32 n < 2 ^ 31 := by
  rw [int32_eq_bmod]
  constructor
  · exact Int.le_bmod (by decide)
  · exact Int.bmod_lt (by decide)

theorem atoi_decimalInt {n : Int} (hlow : -2 ^ 31 ≤ n) (hhigh : n < 2 ^ 31) : atoi (Lib.decimalInt n) = n := by
  rw [atoi, Lib.strtol_decimalInt (by omega) (by omega), int32_of_bounds hlow hhigh]

theorem int32_int32 (n : Int) : int32 (int32 n) = int32 n :=
  int32_of_bounds (int32_bounds n).1 (int32_bounds n).2

theorem int32_add (m n : Int) : int32 (int32 m + n) = int32 (m + n) := by
  rw [int32_eq_bmod, int32_eq_bmod, int32_eq_bmod, Int.bmod_add_bmod]

theorem int32_turns (n : Int) : ∃ turns : Int, n = int32 n + turns * 2 ^ 32 :=
  ⟨n.bdiv (2 ^ 32), by rw [int32_eq_bmod]; exact (Int.bmod_add_bdiv' n (2 ^ 32)).symm⟩

attribute [irreducible] int32

end CoServer
