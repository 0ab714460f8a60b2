/-
# A file tracker and `vfs_tracking_mark_dirty`

`FileTracker` of `vfs_tracking.h` and what `vfs_tracking.c` does to one
tracker: `vfs_tracking_mark_dirty` (grow the bitmap to `endPage + 1` pages in
`uint32_t` arithmetic, then set the bits of `[startPage, endPage]`), the
`memset` of `vfs_tracking_reset_dirty`, and the two loops and the `malloc` of
`vfs_tracking_get_dirty_pages` once the tracker is found.

`Holds t D` says that tracker `t` holds the set `D` of dirty pages. A mark
whose last page stays 32 below `2 ^ 32` adds exactly its pages to `D`
(`markDirty_holds`), a reset empties `D` (`clearBitmap_holds`), and the query
returns `D` ascending (`dirtyPagesOf_eq`). Above that bound `endPage + 1` and
`requiredPages + 31` wrap, and the mark writes outside the block
(`markDirty_top_page`). The query's byte count wraps too, in the 32-bit
`size_t` of wasm32: from `2 ^ 30` dirty pages on, which one-page writes
(`markDirty_page`) reach, the query writes past its block
(`dirtyPagesOf_wraps`).

Key definitions: `FileTracker`, `vfsTrackingMarkDirty`, `FileTracker.Holds`.
-/
import TrackingVfs.Bitmap
import Mathlib.Data.Finset.Sort
import Mathlib.Order.Interval.Finset.Nat

namespace TrackingVfs

open Bitmap

/-- `FileTracker` of `vfs_tracking.h`, less its `next` link: the registry keeps
the order of its list (`Sys.files`). `filename` is `none` when `strdup`
failed, `dirtyBitmap` is `none` while `NULL`, and `isOpen` holds the `0` or `1`
the code stores. -/
structure FileTracker where
  filename : Option (List Char)
  dirtyBitmap : Option (List Nat)
  bitmapSize : Nat
  totalPages : Nat
  pageSize : Nat
  isOpen : Bool
  deriving DecidableEq, Repr

namespace FileTracker

/-- The words the bitmap pointer reaches: none while it is `NULL`. -/
def words (t : FileTracker) : List Nat := t.dirtyBitmap.getD []

/-- The fields a mark, a reset and a query leave alone. -/
def Frame (t t' : FileTracker) : Prop :=
  t'.filename = t.filename ∧ t'.pageSize = t.pageSize ∧ t'.isOpen = t.isOpen

theorem Frame.refl (t : FileTracker) : Frame t t := ⟨rfl, rfl, rfl⟩

theorem Frame.trans {t t' t'' : FileTracker} (h : Frame t t') (h' : Frame t' t'') :
    Frame t t'' :=
  ⟨h'.1.trans h.1, h'.2.1.trans h.2.1, h'.2.2.trans h.2.2⟩

/-- Tracker `t` holds the dirty pages `D`: its block is `bitmapSize` words and
covers its `totalPages` pages, its set bits are exactly `D`, and `D` lies below
`totalPages`. -/
structure Holds (t : FileTracker) (D : Finset Nat) : Prop where
  size : t.words.length = t.bitmapSize
  cover : t.totalPages ≤ 32 * t.bitmapSize
  bits : ∀ p, bit t.words p = decide (p ∈ D)
  below : ∀ p ∈ D, p < t.totalPages

/-- A fresh tracker, as `calloc` and `vfs_tracking_get_file` leave it, holds no
page. -/
theorem holds_empty (name : Option (List Char)) (ps : Nat) :
    Holds ⟨name, none, 0, 0, ps, false⟩ ∅ :=
  ⟨rfl, le_refl 0, fun p => by simp [words], by simp⟩

theorem Holds.setIsOpen {t : FileTracker} {D : Finset Nat} (h : Holds t D) (b : Bool) :
    Holds { t with isOpen := b } D :=
  ⟨h.size, h.cover, h.bits, h.below⟩

/-- A tracker whose bitmap is `NULL` holds no page. -/
theorem Holds.eq_empty {t : FileTracker} {D : Finset Nat} (h : Holds t D)
    (hb : t.dirtyBitmap = none) : D = ∅ :=
  Finset.eq_empty_of_forall_not_mem fun p hp => by
    have := h.bits p
    simp [words, hb, hp] at this

/-- A tracker holds at most `totalPages` dirty pages. -/
theorem Holds.card_le {t : FileTracker} {D : Finset Nat} (h : Holds t D) :
    D.card ≤ t.totalPages := by
  simpa using Finset.card_le_card fun p hp => Finset.mem_range.mpr (h.below p hp)

/-- A tracker with pages has a block. -/
theorem Holds.some_words {t : FileTracker} {D : Finset Nat} (h : Holds t D)
    (hp : 0 < t.totalPages) : t.dirtyBitmap = some t.words := by
  cases hb : t.dirtyBitmap with
  | none =>
    have := h.size
    have := h.cover
    simp [words, hb] at *
    omega
  | some ws => simp [words, hb]

end FileTracker

open FileTracker

/-! ### `vfs_tracking_mark_dirty` -/

/-- `startPage = (uint32_t)(offset / tracker->pageSize)`: a signed division
of the `int64_t` offset. -/
def startPage (pageSize : Nat) (offset : Int) : Nat := u32 (offset.tdiv pageSize)

/-- `endPage = (uint32_t)((offset + amount - 1) / tracker->pageSize)`. -/
def endPage (pageSize : Nat) (offset amount : Int) : Nat :=
  u32 ((offset + amount - 1).tdiv pageSize)

/-- The block "Ensure bitmap is large enough" of `vfs_tracking_mark_dirty`, in
`uint32_t` arithmetic; `none` when `realloc` fails (`alloc` is false) and the
function returns. -/
def ensureBitmap (alloc : Bool) (t : FileTracker) (requiredPages : Nat) :
    Option FileTracker :=
  if requiredPages > t.totalPages then
    let newBitmapSize := (requiredPages + 31) % 2 ^ 32 / 32
    if newBitmapSize > t.bitmapSize then
      if alloc then
        some { t with dirtyBitmap := some (grow t.dirtyBitmap t.bitmapSize newBitmapSize),
                      bitmapSize := newBitmapSize, totalPages := requiredPages }
      else none
    else some { t with totalPages := requiredPages }
  else some t

/-- `vfs_tracking_mark_dirty(tracker, offset, amount)` on a tracker that is not
`NULL` (its callers test that); `realloc` succeeds when `alloc` holds. The
marking loop is given `2 ^ 32 + 1` rounds: a `uint32_t` loop that has not ended
by then never ends. -/
def vfsTrackingMarkDirty (alloc : Bool) (t : FileTracker) (offset amount : Int) :
    Except Fault FileTracker :=
  if amount ≤ 0 then .ok t
  else if t.pageSize = 0 then .error .divByZero
  else if offset + amount > INT64_MAX then .error .signedOverflow
  else
    let requiredPages := (endPage t.pageSize offset amount + 1) % 2 ^ 32
    match ensureBitmap alloc t requiredPages with
    | none => .ok t
    | some t' => do
      let bm ← markLoop (2 ^ 32 + 1) t'.dirtyBitmap (startPage t.pageSize offset)
        (endPage t.pageSize offset amount)
      pure { t' with dirtyBitmap := bm }

theorem tdiv_natCast {x : Int} (hx : 0 ≤ x) (ps : Nat) :
    x.tdiv ps = ((x.toNat / ps : Nat) : Int) := by
  rw [Int.tdiv_eq_ediv hx (Int.natCast_nonneg ps), Int.natCast_div, Int.toNat_of_nonneg hx]

theorem startPage_of_nonneg {offset : Int} (ho : 0 ≤ offset) (ps : Nat)
    (h : offset.toNat / ps < 2 ^ 32) : startPage ps offset = offset.toNat / ps := by
  rw [startPage, tdiv_natCast ho, u32_of_lt (Int.natCast_nonneg _) (by omega), Int.toNat_ofNat]

theorem endPage_of_nonneg {offset amount : Int} (ho : 0 ≤ offset) (ha : 0 < amount) (ps : Nat)
    (h : (offset + amount - 1).toNat / ps < 2 ^ 32) :
    endPage ps offset amount = (offset + amount - 1).toNat / ps := by
  rw [endPage, tdiv_natCast (by omega), u32_of_lt (Int.natCast_nonneg _) (by omega),
    Int.toNat_ofNat]

/-- **Growth keeps the dirty pages** and covers `requiredPages`: with `realloc`
succeeding and `requiredPages + 31` below `2 ^ 32`, the tracker grows to
`max totalPages requiredPages` pages and its bits stay as they were. -/
theorem ensureBitmap_holds {t : FileTracker} {D : Finset Nat} (h : Holds t D) {req : Nat}
    (hreq : req + 31 < 2 ^ 32) :
    ∃ t', ensureBitmap true t req = some t' ∧ Holds t' D ∧
      t'.totalPages = max t.totalPages req ∧ Frame t t' := by
  have hs := h.size
  have hc := h.cover
  unfold ensureBitmap
  rw [Nat.mod_eq_of_lt hreq]
  by_cases hgt : req > t.totalPages
  · by_cases hsz : (req + 31) / 32 > t.bitmapSize
    · simp only [if_pos hgt, if_pos hsz, if_true]
      refine ⟨_, rfl, ⟨?_, by simp; omega, fun p => by simpa [words, bit_grow] using h.bits p,
        fun p hp => by have := h.below p hp; simp; omega⟩, by simp; omega, ⟨rfl, rfl, rfl⟩⟩
      simp only [words, Option.getD_some, grow, List.length_append, List.length_replicate] at hs ⊢
      omega
    · simp only [if_pos hgt, if_neg hsz]
      exact ⟨_, rfl, ⟨hs, by simp; omega, h.bits, fun p hp => by have := h.below p hp; simp; omega⟩,
        by simp; omega, ⟨rfl, rfl, rfl⟩⟩
  · exact ⟨t, by simp only [if_neg hgt], h, by omega, Frame.refl t⟩

/-- **A mark adds exactly its pages.** For a write of `amount > 0` bytes at
`offset ≥ 0` whose last page is 32 below `2 ^ 32`, with `realloc` succeeding,
`vfs_tracking_mark_dirty` returns, its tracker holds `D` and the pages from
`offset / pageSize` to `(offset + amount - 1) / pageSize`, and it covers the
last of them. -/
theorem markDirty_holds {t : FileTracker} {D : Finset Nat} (h : Holds t D)
    {offset amount : Int} (ho : 0 ≤ offset) (ha : 0 < amount) (hps : 0 < t.pageSize)
    (hmax : offset + amount ≤ INT64_MAX)
    (hend : (offset + amount - 1).toNat / t.pageSize + 32 < 2 ^ 32) :
    ∃ t', vfsTrackingMarkDirty true t offset amount = .ok t' ∧
      Holds t' (D ∪ Finset.Icc (offset.toNat / t.pageSize)
        ((offset + amount - 1).toNat / t.pageSize)) ∧
      t'.totalPages = max t.totalPages ((offset + amount - 1).toNat / t.pageSize + 1) ∧
      Frame t t' := by
  set e := (offset + amount - 1).toNat / t.pageSize with he
  have hs : offset.toNat / t.pageSize ≤ e :=
    Nat.div_le_div_right (by omega)
  have hsp : startPage t.pageSize offset = offset.toNat / t.pageSize :=
    startPage_of_nonneg ho _ (by omega)
  have hep : endPage t.pageSize offset amount = e := endPage_of_nonneg ho ha _ (by omega)
  obtain ⟨t1, h1, ht1, htot, hf1⟩ := ensureBitmap_holds h (show e + 1 + 31 < 2 ^ 32 by omega)
  have hb : t1.dirtyBitmap = some t1.words := ht1.some_words (by omega)
  obtain ⟨ws, hloop, hlen, hbits⟩ := markLoop_spec (show e + 1 < 2 ^ 32 by omega) (2 ^ 32 + 1) t1.words
    (offset.toNat / t.pageSize) (by omega) (by omega)
    (by have := ht1.size; have := ht1.cover; omega)
  refine ⟨{ t1 with dirtyBitmap := some ws }, ?_, ?_, by simpa using htot, hf1⟩
  · simp only [vfsTrackingMarkDirty, if_neg (show ¬amount ≤ 0 by omega),
      if_neg (show t.pageSize ≠ 0 by omega), if_neg (show ¬offset + amount > INT64_MAX by omega),
      hep, Nat.mod_eq_of_lt (show e + 1 < 2 ^ 32 by omega), h1, hb, hsp, hloop]
    rfl
  · refine ⟨by simpa [words, hlen] using ht1.size, ht1.cover, fun p => ?_, fun p hp => ?_⟩
    · show bit ws p = _
      simp only [hbits, ht1.bits, Finset.mem_union, Finset.mem_Icc, Bool.decide_or]
    · rcases Finset.mem_union.mp hp with hp | hp
      · exact ht1.below p hp
      · simp only [Finset.mem_Icc] at hp
        simp only [htot]
        omega

theorem ensureBitmap_frame {alloc : Bool} {t t' : FileTracker} {req : Nat}
    (h : ensureBitmap alloc t req = some t') : Frame t t' := by
  unfold ensureBitmap at h
  dsimp only at h
  split_ifs at h <;> cases h <;> exact ⟨rfl, rfl, rfl⟩

/-- A mark changes neither the name, the page size nor `isOpen`, whatever it
does to the bitmap. -/
theorem markDirty_frame {alloc : Bool} {t t' : FileTracker} {offset amount : Int}
    (h : vfsTrackingMarkDirty alloc t offset amount = .ok t') : Frame t t' := by
  unfold vfsTrackingMarkDirty at h
  split_ifs at h
  · cases h; exact Frame.refl t
  · dsimp only at h
    split at h
    · cases h; exact Frame.refl t
    · rename_i t1 h1
      have hf1 := ensureBitmap_frame h1
      revert h
      cases markLoop (2 ^ 32 + 1) t1.dirtyBitmap _ _ <;>
        simp [bind, Except.bind, pure, Except.pure]
      rintro rfl
      exact hf1

/-- Growth keeps every bit. -/
theorem ensureBitmap_bits {alloc : Bool} {t t1 : FileTracker} {req : Nat}
    (h : ensureBitmap alloc t req = some t1) (p : Nat) : bit t1.words p = bit t.words p := by
  unfold ensureBitmap at h
  dsimp only at h
  split_ifs at h <;> cases h
  · simp [words, bit_grow]
  · rfl
  · rfl

/-- **A mark clears no bit**, whatever its arguments and `realloc` do, when it
returns. -/
theorem markDirty_bits {alloc : Bool} {t t' : FileTracker} {offset amount : Int}
    (h : vfsTrackingMarkDirty alloc t offset amount = .ok t') (p : Nat)
    (hp : bit t.words p = true) : bit t'.words p = true := by
  unfold vfsTrackingMarkDirty at h
  split_ifs at h
  · cases h; exact hp
  · dsimp only at h
    split at h
    · cases h; exact hp
    · rename_i t1 h1
      revert h
      cases hl : markLoop (2 ^ 32 + 1) t1.dirtyBitmap (startPage t.pageSize offset)
        (endPage t.pageSize offset amount) with
      | error e => simp [bind, Except.bind]
      | ok bm =>
        simp only [bind, Except.bind, pure, Except.pure, Except.ok.injEq]
        rintro rfl
        exact markLoop_bits _ _ _ _ hl p (by rw [← ensureBitmap_bits h1 p] at hp; exact hp)

theorem ensureBitmap_realloc_fails (t : FileTracker) (req : Nat) :
    ensureBitmap false t req = none ∨ ensureBitmap false t req = ensureBitmap true t req := by
  simp only [ensureBitmap, Bool.false_eq_true, ↓reduceIte]
  split_ifs <;> simp

/-- **A failed `realloc`** makes the mark return at once, leaving the tracker as
it was; where no growth is needed the mark does what it does with `realloc`
succeeding. -/
theorem markDirty_realloc_fails (t : FileTracker) (offset amount : Int) :
    vfsTrackingMarkDirty false t offset amount = .ok t ∨
      vfsTrackingMarkDirty false t offset amount = vfsTrackingMarkDirty true t offset amount := by
  unfold vfsTrackingMarkDirty
  split_ifs
  · exact .inl rfl
  · exact .inr rfl
  · exact .inr rfl
  · generalize (endPage t.pageSize offset amount + 1) % 2 ^ 32 = req
    rcases ensureBitmap_realloc_fails t req with h | h <;> simp [h]

/-- **The top page is never marked.** At `endPage = UINT32_MAX`,
`requiredPages = endPage + 1` wraps to `0`, so the bitmap does not grow, and the
loop `i <= endPage` runs until it writes outside the block (or forever):
`vfs_tracking_mark_dirty` never returns normally, whatever the tracker. -/
theorem markDirty_top_page {alloc : Bool} {t : FileTracker} {offset amount : Int}
    (ha : 0 < amount) (hps : 0 < t.pageSize) (hmax : offset + amount ≤ INT64_MAX)
    (htop : endPage t.pageSize offset amount = 2 ^ 32 - 1) (t' : FileTracker) :
    vfsTrackingMarkDirty alloc t offset amount ≠ .ok t' := by
  have hens : ensureBitmap alloc t 0 = some t := by simp [ensureBitmap]
  simp only [vfsTrackingMarkDirty, if_neg (show ¬amount ≤ 0 by omega),
    if_neg (show t.pageSize ≠ 0 by omega), if_neg (show ¬offset + amount > INT64_MAX by omega),
    htop, show (2 ^ 32 - 1 + 1) % 2 ^ 32 = 0 by rfl, hens]
  have hloop := markLoop_ne_ok (2 ^ 32 + 1) t.dirtyBitmap (startPage t.pageSize offset)
    (u32_lt _)
  revert hloop
  cases markLoop (2 ^ 32 + 1) t.dirtyBitmap _ _ <;> simp [bind, Except.bind]

/-- A write of one byte at the first byte of page `UINT32_MAX` of a fresh
tracker dereferences the `NULL` bitmap. -/
example :
    vfsTrackingMarkDirty true ⟨some "db".toList, none, 0, 0, 4096, true⟩
      (4096 * (2 ^ 32 - 1)) 1 = .error .nullDeref := by
  rfl

/-! ### Reset and query -/

/-- The `memset` of `vfs_tracking_reset_dirty` on a tracker whose bitmap is not
`NULL`: its `bitmapSize` words are zeroed. -/
def clearBitmap (t : FileTracker) (ws : List Nat) : Except Fault FileTracker := do
  let ws' ← clear ws t.bitmapSize
  pure { t with dirtyBitmap := some ws' }

theorem clearBitmap_frame {t t' : FileTracker} {ws : List Nat} (h : clearBitmap t ws = .ok t') :
    Frame t t' := by
  revert h
  unfold clearBitmap
  cases clear ws t.bitmapSize <;> simp [bind, Except.bind, pure, Except.pure]
  rintro rfl
  exact ⟨rfl, rfl, rfl⟩

/-- **A reset empties the dirty set** and keeps `totalPages`. -/
theorem clearBitmap_holds {t : FileTracker} {D : Finset Nat} (h : Holds t D) {ws : List Nat}
    (hb : t.dirtyBitmap = some ws) :
    ∃ t', clearBitmap t ws = .ok t' ∧ Holds t' ∅ ∧ t'.totalPages = t.totalPages ∧ Frame t t' := by
  have hs : ws.length = t.bitmapSize := by simpa [words, hb] using h.size
  refine ⟨{ t with dirtyBitmap := some (List.replicate ws.length 0) },
    by rw [clearBitmap, ← hs, clear_all]; rfl, ⟨by simp [words, hs], h.cover,
    fun p => by simp [words], by simp⟩, rfl, ⟨rfl, rfl, rfl⟩⟩

/-- What `vfs_tracking_get_dirty_pages` returns: its result code and, when it
writes them, `*pPageCount` and `*ppPages` (`none` for `NULL`). -/
structure DirtyPages where
  rc : Int
  out : Option (Nat × Option (List Nat))
  deriving DecidableEq, Repr

/-- `vfs_tracking_get_dirty_pages` once it has found tracker `t`: count the set
bits, `malloc` room for that many `uint32_t` (the byte count in the 32-bit
`size_t` of the wasm32 target; `alloc` says whether `malloc` succeeds) and fill
it. -/
def dirtyPagesOf (alloc : Bool) (t : FileTracker) : Except Fault DirtyPages :=
  match t.dirtyBitmap with
  | none => .ok ⟨SQLITE_OK, some (0, none)⟩
  | some ws => do
    let dirtyCount ← countLoop (some ws) t.totalPages
    if dirtyCount = 0 then .ok ⟨SQLITE_OK, some (0, none)⟩
    else if !alloc then .ok ⟨SQLITE_NOMEM, none⟩
    else
      let pages ← fillLoop (some ws) (dirtyCount * 4 % 2 ^ 32 / 4) t.totalPages
      pure ⟨SQLITE_OK, some (dirtyCount, some pages)⟩

/-- The set bits below `n` ascending are the sorted dirty set. -/
theorem dirtyPages_eq_sort {ws : List Nat} {n : Nat} {D : Finset Nat}
    (hbits : ∀ p, bit ws p = decide (p ∈ D)) (hbelow : ∀ p ∈ D, p < n) :
    dirtyPages ws n = D.sort (· ≤ ·) := by
  have hsorted : (dirtyPages ws n).Sorted (· < ·) :=
    (List.pairwise_lt_range n).sublist (List.filter_sublist _)
  apply List.eq_of_perm_of_sorted _ (hsorted.imp le_of_lt) (Finset.sort_sorted _ _)
  rw [List.perm_ext_iff_of_nodup hsorted.nodup (Finset.sort_nodup _ _)]
  intro p
  simp only [dirtyPages, List.mem_filter, List.mem_range, hbits, decide_eq_true_eq,
    Finset.mem_sort]
  exact ⟨And.right, fun hp => ⟨hbelow p hp, hp⟩⟩

/-- **The query returns the dirty set, ascending.** On a tracker holding `D`
with fewer than `2 ^ 30` pages and a `malloc` that succeeds,
`vfs_tracking_get_dirty_pages` returns `SQLITE_OK`, `|D|`, and `D` sorted, or
`NULL` when `D` is empty. -/
theorem dirtyPagesOf_eq {t : FileTracker} {D : Finset Nat} (h : Holds t D)
    (hn : t.totalPages < 2 ^ 30) :
    dirtyPagesOf true t =
      .ok ⟨SQLITE_OK, some (D.card, if D = ∅ then none else some (D.sort (· ≤ ·)))⟩ := by
  have hsort := dirtyPages_eq_sort h.bits h.below
  have hcard := h.card_le
  have hcover : t.totalPages ≤ 32 * t.words.length := h.size ▸ h.cover
  unfold dirtyPagesOf
  cases hb : t.dirtyBitmap with
  | none => simp [h.eq_empty hb]
  | some ws =>
    have hw : t.words = ws := by simp [words, hb]
    rw [hw] at hsort hcover
    simp only [countLoop_eq ws _ hcover, hsort, Finset.length_sort,
      Nat.mod_eq_of_lt (show D.card < 2 ^ 32 by omega), bind, Except.bind]
    by_cases hD : D = ∅
    · simp [hD]
    · have hc : D.card ≠ 0 := by simpa using hD
      simp only [hc, if_false, hD, Bool.not_true, Bool.false_eq_true,
        Nat.mod_eq_of_lt (show D.card * 4 < 2 ^ 32 by omega),
        Nat.mul_div_cancel _ (show 0 < 4 by omega),
        fillLoop_eq ws _ _ hcover (by rw [hsort, Finset.length_sort]), hsort]
      rfl

/-- **Below `2 ^ 30` pages the query never faults**, whatever `malloc` does:
the counting loop stays in the block, and the block `malloc` returns has room
for every dirty page. -/
theorem dirtyPagesOf_ok {t : FileTracker} {D : Finset Nat} (h : Holds t D)
    (hn : t.totalPages < 2 ^ 30) : ∀ alloc, ∃ r, dirtyPagesOf alloc t = .ok r
  | true => ⟨_, dirtyPagesOf_eq h (by omega)⟩
  | false => by
    have hcover : t.totalPages ≤ 32 * t.words.length := h.size ▸ h.cover
    unfold dirtyPagesOf
    cases hb : t.dirtyBitmap with
    | none => exact ⟨_, rfl⟩
    | some ws =>
      rw [show t.words = ws by simp [words, hb]] at hcover
      simp only [countLoop_eq ws _ hcover, bind, Except.bind, Bool.not_false, ↓reduceIte]
      split_ifs <;> simp

/-- **From `2 ^ 30` dirty pages on the query writes past its block.** The
block is `malloc(dirtyCount * sizeof(uint32_t))` with the product in the 32-bit
`size_t` of wasm32: from `2 ^ 30` dirty pages on it wraps, the block has room
for fewer pages than are dirty, and the filling loop stores past its end. -/
theorem dirtyPagesOf_wraps {t : FileTracker} {D : Finset Nat} (h : Holds t D)
    (hn : t.totalPages < 2 ^ 32) (hD : 2 ^ 30 ≤ D.card) :
    dirtyPagesOf true t = .error .outOfBounds := by
  have hsort := dirtyPages_eq_sort h.bits h.below
  have hcard := h.card_le
  have hcover : t.totalPages ≤ 32 * t.words.length := h.size ▸ h.cover
  have hcap : D.card * 4 % 2 ^ 32 / 4 < (dirtyPages t.words t.totalPages).length := by
    rw [hsort, Finset.length_sort]
    omega
  simp only [dirtyPagesOf, h.some_words (by omega), countLoop_eq _ _ hcover, bind, Except.bind,
    hsort, Finset.length_sort, Nat.mod_eq_of_lt (show D.card < 2 ^ 32 by omega),
    if_neg (show D.card ≠ 0 by omega), Bool.not_true, Bool.false_eq_true, if_false,
    fillLoop_overflow _ _ _ hcover hcap]

/-- **A one-page write marks its page.** A write of `pageSize` bytes at the
start of page `i < 2 ^ 30`, with a page size that a C `int` holds, returns with
`i` added to the dirty pages. -/
theorem markDirty_page {t : FileTracker} {D : Finset Nat} (h : Holds t D) (hps : 0 < t.pageSize)
    (hps31 : t.pageSize < 2 ^ 31) {i : Nat} (hi : i < 2 ^ 30) :
    ∃ t', vfsTrackingMarkDirty true t (i * t.pageSize : Nat) t.pageSize = .ok t' ∧
      Holds t' (insert i D) ∧ t'.totalPages = max t.totalPages (i + 1) ∧ Frame t t' := by
  obtain ⟨n, hn⟩ : ∃ n, n = i * t.pageSize := ⟨_, rfl⟩
  rw [← hn]
  have hbig : n + t.pageSize ≤ 2 ^ 61 := by
    rw [hn, ← Nat.succ_mul]
    exact (Nat.mul_le_mul hi hps31.le).trans (by decide)
  -- the write starts and ends in page `i`
  have hlast : ((n : Int) + t.pageSize - 1).toNat / t.pageSize = i := by
    rw [show ((n : Int) + t.pageSize - 1).toNat = n + t.pageSize - 1 by omega]
    exact Nat.div_eq_of_lt_le (by omega) (by rw [Nat.succ_mul]; omega)
  obtain ⟨t', hm, ht', htot, hf⟩ := markDirty_holds h (Int.natCast_nonneg n)
    (by omega : (0 : Int) < t.pageSize) hps (by simp only [INT64_MAX]; omega)
    (by rw [hlast]; omega)
  rw [hlast, Int.toNat_natCast, hn, Nat.mul_div_cancel _ hps, Finset.Icc_self,
    Finset.union_comm, ← Finset.insert_eq] at ht'
  exact ⟨t', hm, ht', hlast ▸ htot, hf⟩

end TrackingVfs
