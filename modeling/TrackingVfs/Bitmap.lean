/-
# The dirty bitmap

`FileTracker.dirtyBitmap` is a heap block of `uint32_t` words, `NULL` until the
first mark; page `i` is bit `i % 32` of word `i / 32`. The word accesses are
modelled as `vfs_tracking.c` writes them (`&` and `|=` with `1U << bitIndex`,
through a pointer that may be `NULL` into a block that may be too short), and
so are its three loops over pages: the marking loop of
`vfs_tracking_mark_dirty`, and the counting and filling loops of
`vfs_tracking_get_dirty_pages`. Each is related to `bit`, the page bit the
words hold.

The marking loop runs over a `uint32_t i` with the test `i <= endPage`: for
`endPage = UINT32_MAX` that test never fails (`markLoop_ne_ok`).

Key theorems: `bit_orBit`, `bit_grow`, `markLoop_spec`, `markLoop_ne_ok`,
`countLoop_eq`, `fillLoop_eq`, `fillLoop_overflow`.
-/
import TrackingVfs.Basic

namespace TrackingVfs
namespace Bitmap

/-- The bit of page `i` in the words `ws`: bit `i % 32` of word `i / 32`, and
`false` past the block. -/
def bit (ws : List Nat) (i : Nat) : Bool := (ws.getD (i / 32) 0).testBit (i % 32)

/-- The words after `dirtyBitmap[i / 32] |= (1U << (i % 32))`. -/
def orBit (ws : List Nat) (i : Nat) : List Nat :=
  ws.set (i / 32) (ws.getD (i / 32) 0 ||| 1 <<< (i % 32))

/-- `dirtyBitmap[i / 32] & (1U << (i % 32))` is nonzero, read through the
pointer `bm` (`none` is `NULL`). -/
def testBit (bm : Option (List Nat)) (i : Nat) : Except Fault Bool :=
  match bm with
  | none => .error .nullDeref
  | some ws =>
    if i / 32 < ws.length then .ok (ws.getD (i / 32) 0 &&& 1 <<< (i % 32) != 0)
    else .error .outOfBounds

/-- `dirtyBitmap[i / 32] |= (1U << (i % 32))`. -/
def setBit (bm : Option (List Nat)) (i : Nat) : Except Fault (List Nat) :=
  match bm with
  | none => .error .nullDeref
  | some ws => if i / 32 < ws.length then .ok (orBit ws i) else .error .outOfBounds

/-- The block `realloc(dirtyBitmap, newSize * sizeof(uint32_t))` returns once
the `memset` has zeroed the `newSize - oldSize` words past the `oldSize` the
tracker had (`realloc` of `NULL` starts from no words). -/
def grow (bm : Option (List Nat)) (oldSize newSize : Nat) : List Nat :=
  bm.getD [] ++ List.replicate (newSize - oldSize) 0

/-- `memset(dirtyBitmap, 0, n * sizeof(uint32_t))`. -/
def clear (ws : List Nat) (n : Nat) : Except Fault (List Nat) :=
  if n ≤ ws.length then .ok (List.replicate n 0 ++ ws.drop n) else .error .outOfBounds

theorem and_one_shiftLeft_ne_zero (w b : Nat) : (w &&& 1 <<< b != 0) = w.testBit b := by
  rw [Nat.one_shiftLeft]
  cases h : w.testBit b
  · have : w &&& 2 ^ b = 0 := Nat.eq_of_testBit_eq fun j => by
      simp only [Nat.testBit_and, Nat.testBit_two_pow, Nat.zero_testBit]
      by_cases hj : b = j <;> simp_all
    simp [this]
  · have : (w &&& 2 ^ b).testBit b = true := by simp [h]
    have hne : w &&& 2 ^ b ≠ 0 := fun h0 => by simp [h0] at this
    simpa using hne

theorem testBit_some {ws : List Nat} {i : Nat} (h : i / 32 < ws.length) :
    testBit (some ws) i = .ok (bit ws i) := by
  simp [testBit, h, bit, and_one_shiftLeft_ne_zero]

theorem setBit_some {ws : List Nat} {i : Nat} (h : i / 32 < ws.length) :
    setBit (some ws) i = .ok (orBit ws i) := by
  simp [setBit, h]

@[simp] theorem length_orBit (ws : List Nat) (i : Nat) : (orBit ws i).length = ws.length :=
  List.length_set ..

/-- Setting the bit of page `i` sets that bit and no other. -/
theorem bit_orBit {ws : List Nat} {i : Nat} (h : i / 32 < ws.length) (j : Nat) :
    bit (orBit ws i) j = (bit ws j || decide (j = i)) := by
  unfold bit orBit
  simp only [List.getD_eq_getElem?_getD, List.getElem?_set, if_pos h]
  by_cases hw : i / 32 = j / 32
  · simp only [hw, if_true, Option.getD_some, Nat.one_shiftLeft, Nat.testBit_or,
      Nat.testBit_two_pow]
    congr 1
    exact decide_eq_decide.mpr (by omega)
  · simp only [hw, if_false]
    have : j ≠ i := fun e => hw (e ▸ rfl)
    simp [this]

/-- The zeroed words `grow` appends hold no bit. -/
theorem bit_append_zeros (ws : List Nat) (k j : Nat) :
    bit (ws ++ List.replicate k 0) j = bit ws j := by
  unfold bit
  simp only [List.getD_eq_getElem?_getD]
  by_cases h : j / 32 < ws.length
  · rw [List.getElem?_append_left h]
  · have h1 : ws.length ≤ j / 32 := Nat.le_of_not_lt h
    rw [List.getElem?_append_right h1, List.getElem?_eq_none h1, List.getElem?_replicate]
    split <;> simp

theorem bit_grow (bm : Option (List Nat)) (oldSize newSize j : Nat) :
    bit (grow bm oldSize newSize) j = bit (bm.getD []) j :=
  bit_append_zeros ..

@[simp] theorem length_grow (ws : List Nat) (oldSize newSize : Nat) :
    (grow (some ws) oldSize newSize).length = ws.length + (newSize - oldSize) := by
  simp [grow]

@[simp] theorem bit_nil (j : Nat) : bit [] j = false := by simp [bit]

@[simp] theorem bit_replicate_zero (n j : Nat) : bit (List.replicate n 0) j = false :=
  (bit_append_zeros [] n j).trans (bit_nil j)

theorem clear_all (ws : List Nat) : clear ws ws.length = .ok (List.replicate ws.length 0) := by
  simp [clear]

/-! ### The marking loop -/

/-- The marking loop `for (i = startPage; i <= endPage; i++)` of
`vfs_tracking_mark_dirty`, over a `uint32_t i`, for at most `fuel` rounds. -/
def markLoop : Nat → Option (List Nat) → Nat → Nat → Except Fault (Option (List Nat))
  | 0, _, _, _ => .error .diverges
  | fuel + 1, bm, i, endPage =>
    if i ≤ endPage then
      match setBit bm i with
      | .error e => .error e
      | .ok ws => markLoop fuel (some ws) ((i + 1) % 2 ^ 32) endPage
    else .ok bm

/-- **The marking loop sets exactly the pages `[i, e]`.** Below `UINT32_MAX`,
with fuel for every round and a block that reaches word `e / 32`, the loop ends
and sets the bits of the pages from `i` to `e`, and no other. -/
theorem markLoop_spec {e : Nat} (he : e + 1 < 2 ^ 32) :
    ∀ (fuel : Nat) (ws : List Nat) (i : Nat), i ≤ e + 1 → e + 1 - i < fuel →
      e / 32 < ws.length →
      ∃ ws', markLoop fuel (some ws) i e = .ok (some ws') ∧ ws'.length = ws.length ∧
        ∀ j, bit ws' j = (bit ws j || decide (i ≤ j ∧ j ≤ e))
  | 0, _, _, _, hf, _ => by omega
  | fuel + 1, ws, i, hi, hf, hl => by
    by_cases hie : i ≤ e
    · have hw : i / 32 < ws.length := by omega
      obtain ⟨ws', h1, h2, h3⟩ :=
        markLoop_spec he fuel (orBit ws i) (i + 1) (by omega) (by omega) (by simpa using hl)
      refine ⟨ws', ?_, by simp [h2], fun j => ?_⟩
      · rw [markLoop, if_pos hie, setBit_some hw, Nat.mod_eq_of_lt (by omega)]
        exact h1
      · rw [h3, bit_orBit hw, Bool.or_assoc]
        congr 1
        rw [Bool.eq_iff_iff]
        simp only [Bool.or_eq_true, decide_eq_true_eq]
        omega
    · refine ⟨ws, by rw [markLoop, if_neg hie], rfl, fun j => ?_⟩
      simp [show ¬(i ≤ j ∧ j ≤ e) by omega]

theorem setBit_ok {bm : Option (List Nat)} {i : Nat} {ws : List Nat} (h : setBit bm i = .ok ws) :
    ∃ ws0, bm = some ws0 ∧ i / 32 < ws0.length ∧ ws = orBit ws0 i := by
  cases bm with
  | none => cases h
  | some ws0 =>
    by_cases hi : i / 32 < ws0.length
    · rw [setBit_some hi] at h
      cases h
      exact ⟨ws0, rfl, hi, rfl⟩
    · simp [setBit, hi] at h

/-- **The marking loop clears no bit**: when it returns, every bit set before
is still set, whatever the bounds. -/
theorem markLoop_bits : ∀ (fuel : Nat) (bm : Option (List Nat)) (i e : Nat)
    {bm' : Option (List Nat)}, markLoop fuel bm i e = .ok bm' →
      ∀ p, bit (bm.getD []) p = true → bit (bm'.getD []) p = true
  | 0, _, _, _, _, h => by cases h
  | fuel + 1, bm, i, e, bm', h => by
    rw [markLoop] at h
    split_ifs at h
    · split at h
      · cases h
      · rename_i ws hs
        obtain ⟨ws0, rfl, hi, rfl⟩ := setBit_ok hs
        intro p hp
        refine markLoop_bits fuel _ _ e h p ?_
        rw [Option.getD_some] at hp ⊢
        simp [bit_orBit hi, hp]
    · cases h
      exact fun _ => id

/-- **At `endPage = UINT32_MAX` the loop never ends normally**: `i <= endPage`
holds of every `uint32_t i`, so the loop runs until an access faults or the
fuel is spent, however much fuel it is given. -/
theorem markLoop_ne_ok : ∀ (fuel : Nat) (bm : Option (List Nat)) (i : Nat), i < 2 ^ 32 →
    ∀ r, markLoop fuel bm i (2 ^ 32 - 1) ≠ .ok r
  | 0, _, _, _, _ => by simp [markLoop]
  | fuel + 1, bm, i, hi, r => by
    rw [markLoop, if_pos (by omega)]
    cases setBit bm i with
    | error e => simp
    | ok ws => exact markLoop_ne_ok fuel _ _ (Nat.mod_lt _ (Nat.two_pow_pos 32)) r

/-! ### The counting and filling loops -/

/-- The pages below `n` whose bit is set, ascending. -/
def dirtyPages (ws : List Nat) (n : Nat) : List Nat := (List.range n).filter (bit ws)

theorem dirtyPages_succ (ws : List Nat) (n : Nat) :
    dirtyPages ws (n + 1) = dirtyPages ws n ++ if bit ws n then [n] else [] := by
  simp only [dirtyPages, List.range_succ, List.filter_append, List.filter_cons,
    List.filter_nil]

/-- The counting loop of `vfs_tracking_get_dirty_pages`:
`for (i = 0; i < totalPages; i++)` adds one to the `uint32_t dirtyCount` for
each set bit. -/
def countLoop (bm : Option (List Nat)) (totalPages : Nat) : Except Fault Nat :=
  (List.range totalPages).foldlM (fun dirtyCount i => do
    let b ← testBit bm i
    pure (if b then (dirtyCount + 1) % 2 ^ 32 else dirtyCount)) 0

/-- The filling loop of `vfs_tracking_get_dirty_pages`: `pages[pageIndex++] = i`
for each set bit below `totalPages`, into a block of `cap` words; the pages
written so far are the accumulator, so `pageIndex` is its length. -/
def fillLoop (bm : Option (List Nat)) (cap totalPages : Nat) : Except Fault (List Nat) :=
  (List.range totalPages).foldlM (fun pages i => do
    let b ← testBit bm i
    if b then
      if pages.length < cap then pure (pages ++ [i]) else .error .outOfBounds
    else pure pages) []

/-- The counting loop counts the set bits, modulo `2 ^ 32`. -/
theorem countLoop_eq (ws : List Nat) :
    ∀ n, n ≤ 32 * ws.length → countLoop (some ws) n = .ok ((dirtyPages ws n).length % 2 ^ 32)
  | 0, _ => rfl
  | n + 1, hn => by
    have hw : n / 32 < ws.length := by omega
    rw [countLoop, List.range_succ, List.foldlM_append, ← countLoop,
      countLoop_eq ws n (by omega), dirtyPages_succ]
    simp only [List.foldlM_cons, List.foldlM_nil, testBit_some hw]
    cases bit ws n <;> simp [bind, Except.bind, pure, Except.pure, Nat.add_mod]

/-- With room for every set bit, the filling loop writes the dirty pages in
ascending order. -/
theorem fillLoop_eq (ws : List Nat) (cap : Nat) :
    ∀ n, n ≤ 32 * ws.length → (dirtyPages ws n).length ≤ cap →
      fillLoop (some ws) cap n = .ok (dirtyPages ws n)
  | 0, _, _ => rfl
  | n + 1, hn, hc => by
    have hw : n / 32 < ws.length := by omega
    rw [dirtyPages_succ, List.length_append] at hc
    rw [fillLoop, List.range_succ, List.foldlM_append, ← fillLoop,
      fillLoop_eq ws cap n (by omega) (by omega), dirtyPages_succ]
    simp only [List.foldlM_cons, List.foldlM_nil, testBit_some hw]
    cases hb : bit ws n
    · simp [bind, Except.bind, pure, Except.pure]
    · simp only [hb, if_true, List.length_singleton] at hc
      simp [bind, Except.bind, pure, Except.pure, show (dirtyPages ws n).length < cap by omega]

/-- Without room for every set bit, the filling loop writes past its block. -/
theorem fillLoop_overflow (ws : List Nat) (cap : Nat) :
    ∀ n, n ≤ 32 * ws.length → cap < (dirtyPages ws n).length →
      fillLoop (some ws) cap n = .error .outOfBounds
  | 0, _, hc => by simp [dirtyPages] at hc
  | n + 1, hn, hc => by
    rw [fillLoop, List.range_succ, List.foldlM_append, ← fillLoop]
    by_cases hlt : cap < (dirtyPages ws n).length
    · rw [fillLoop_overflow ws cap n (by omega) hlt]; rfl
    -- the block is full when the loop reaches bit `n`, and that bit is set
    have hw : n / 32 < ws.length := by omega
    rw [dirtyPages_succ, List.length_append] at hc
    rw [fillLoop_eq ws cap n (by omega) (by omega)]
    simp only [List.foldlM_cons, List.foldlM_nil, testBit_some hw]
    cases hb : bit ws n
    · simp [hb] at hc; omega
    · simp only [hb, if_true, List.length_singleton] at hc
      simp [bind, Except.bind, show ¬ (dirtyPages ws n).length < cap by omega]

end Bitmap
end TrackingVfs
