/-
# The C values of `vfs_tracking.c`

What the tracking VFS computes with: the SQLite result codes it returns, the
`DEFAULT_PAGE_SIZE` of `vfs_tracking.h`, the conversion of an `int64_t` to the
`uint32_t` page numbers, the undefined behaviour a step of the C code can reach,
and the filename normalisation of `vfs_tracking_get_file`.

C strings are the lists of their characters before the terminating NUL; the
integer types are `Int` and `Nat`, with the wrap of `uint32_t` written out as
`% 2 ^ 32` where the code relies on it.
-/
import Mathlib.Tactic.Common
import Mathlib.Algebra.Group.Int
import Mathlib.Algebra.Group.Nat.Basic

namespace TrackingVfs

/-- `SQLITE_OK`. -/
def SQLITE_OK : Int := 0

/-- `SQLITE_ERROR`. -/
def SQLITE_ERROR : Int := 1

/-- `SQLITE_NOMEM`. -/
def SQLITE_NOMEM : Int := 7

/-- `DEFAULT_PAGE_SIZE` of `vfs_tracking.h`. -/
def DEFAULT_PAGE_SIZE : Nat := 4096

/-- The largest `int64_t`. -/
def INT64_MAX : Int := 2 ^ 63 - 1

/-- The conversion `(uint32_t)x` of a signed value: reduction modulo `2 ^ 32`. -/
def u32 (x : Int) : Nat := (x % 2 ^ 32).toNat

theorem u32_lt (x : Int) : u32 x < 2 ^ 32 := by
  unfold u32; omega

theorem u32_of_lt {x : Int} (h0 : 0 ≤ x) (h : x < 2 ^ 32) : u32 x = x.toNat := by
  unfold u32; rw [Int.emod_eq_of_lt h0 h]

/-- What a step of the C code does when it has undefined behaviour: the model
stops there instead of guessing what the machine does. -/
inductive Fault where
  /-- A read or write through a null pointer. -/
  | nullDeref
  /-- A read or write past the end of an allocated block. -/
  | outOfBounds
  /-- An access to a block that was freed. -/
  | useAfterFree
  /-- An integer division by zero. -/
  | divByZero
  /-- A signed (`int64_t`) overflow. -/
  | signedOverflow
  /-- A loop that does not terminate. -/
  | diverges
  deriving DecidableEq, Repr

theorem bind_eq_ok {ε α β : Type} {x : Except ε α} {f : α → Except ε β} {b : β} :
    x >>= f = .ok b ↔ ∃ a, x = .ok a ∧ f a = .ok b := by
  cases x <;> simp [bind, Except.bind]

/-- The normalisation of `vfs_tracking_get_file`:
`(filename[0] == '/') ? filename + 1 : filename`. -/
def normalizeName : List Char → List Char
  | '/' :: rest => rest
  | s => s

theorem normalizeName_slash (s : List Char) : normalizeName ('/' :: s) = s := rfl

/-- Only one leading separator goes: `"//db"` normalises to `"/db"`. -/
example : normalizeName "//db".toList = "/db".toList := by decide

end TrackingVfs
