/-
# Which faults each call can raise

For each function of `vfs_tracking.c`, the faults it can raise, and when
(`Raises`). The accesses to a bitmap raise only a `NULL` block, a word past the
block or a loop that does not end (`BlockFault`). `vfs_tracking_mark_dirty`
adds a signed overflow, and a division by zero only on a tracker of page size
`0` (`markDirty_raises`). A walk of the list raises a null dereference, or a
use after free only at a freed tracker on the list (`findTracker_raises`), and
a write of `isOpen` a use after free only at a freed tracker
(`setIsOpen_raises`).

Lifted to events: a division by zero comes only from a file whose tracker has
page size `0` (`step_raises_divByZero`), and a use after free only from a freed
tracker that is on the list or that a file points at
(`step_raises_useAfterFree`). `PageSize` and `Lifetime` show which runs never
have either.

Key definitions: `Raises`, `BlockFault`, `ListFault`.
Key theorems: `markDirty_raises`, `step_raises_divByZero`,
`step_raises_useAfterFree`.
-/
import TrackingVfs.System

namespace TrackingVfs

open Bitmap

/-- Every fault `x` raises satisfies `P`. -/
def Raises {α : Type} (P : Fault → Prop) (x : Except Fault α) : Prop :=
  ∀ e, x = .error e → P e

namespace Raises

variable {α β : Type} {P Q : Fault → Prop}

theorem ok (a : α) : Raises P (.ok a : Except Fault α) := fun _ h => nomatch h

theorem error {e : Fault} (h : P e) : Raises P (.error e : Except Fault α) :=
  fun _ he => Except.error.inj he ▸ h

theorem bind {x : Except Fault α} {f : α → Except Fault β} (hx : Raises P x)
    (hf : ∀ a, x = .ok a → Raises P (f a)) : Raises P (x >>= f) := by
  cases x with
  | error e => exact .error (hx e rfl)
  | ok a => exact hf a rfl

theorem mono {x : Except Fault α} (hx : Raises P x) (h : ∀ e, P e → Q e) : Raises Q x :=
  fun e he => h e (hx e he)

/-- A call raises no fault `k` when every fault it raises is not `k`. -/
theorem ne {x : Except Fault α} {k : Fault} (hx : Raises (· ≠ k) x) : x ≠ .error k :=
  fun h => hx k h rfl

end Raises

theorem foldlM_raises {α β : Type} {P : Fault → Prop} {f : β → α → Except Fault β}
    (hf : ∀ b a, Raises P (f b a)) : ∀ (l : List α) (init : β), Raises P (l.foldlM f init)
  | [], init => .ok init
  | a :: l, init => by
    rw [List.foldlM_cons]
    exact (hf init a).bind fun b _ => foldlM_raises hf l b

/-! ### The bitmap -/

/-- The faults of an access to the bitmap: a `NULL` block, a word past it, or a
loop that does not end. -/
def BlockFault (e : Fault) : Prop := e = .nullDeref ∨ e = .outOfBounds ∨ e = .diverges

theorem blockFault_ne {e : Fault} (h : BlockFault e) : e ≠ .divByZero ∧ e ≠ .useAfterFree := by
  rcases h with rfl | rfl | rfl <;> decide

theorem testBit_raises (bm : Option (List Nat)) (i : Nat) : Raises BlockFault (testBit bm i) := by
  unfold testBit
  split
  · exact .error (.inl rfl)
  · split
    · exact .ok _
    · exact .error (.inr (.inl rfl))

theorem setBit_raises (bm : Option (List Nat)) (i : Nat) : Raises BlockFault (setBit bm i) := by
  unfold setBit
  split
  · exact .error (.inl rfl)
  · split
    · exact .ok _
    · exact .error (.inr (.inl rfl))

theorem markLoop_raises : ∀ (fuel : Nat) (bm : Option (List Nat)) (i e : Nat),
    Raises BlockFault (markLoop fuel bm i e)
  | 0, _, _, _ => .error (.inr (.inr rfl))
  | fuel + 1, bm, i, e => by
    rw [markLoop]
    split_ifs
    · split
      · exact .error (setBit_raises bm i _ ‹_›)
      · exact markLoop_raises fuel _ _ e
    · exact .ok _

theorem countLoop_raises (bm : Option (List Nat)) (n : Nat) : Raises BlockFault (countLoop bm n) :=
  foldlM_raises (fun _ i => (testBit_raises bm i).bind fun _ _ => .ok _) _ _

theorem fillLoop_raises (bm : Option (List Nat)) (cap n : Nat) :
    Raises BlockFault (fillLoop bm cap n) :=
  foldlM_raises (fun _ i => (testBit_raises bm i).bind fun _ _ => by
    split_ifs
    · exact .ok _
    · exact .error (.inr (.inl rfl))
    · exact .ok _) _ _

theorem clearBitmap_raises (t : FileTracker) (ws : List Nat) :
    Raises BlockFault (clearBitmap t ws) := by
  refine Raises.bind ?_ fun _ _ => .ok _
  unfold clear
  split
  · exact .ok _
  · exact .error (.inr (.inl rfl))

theorem dirtyPagesOf_raises (alloc : Bool) (t : FileTracker) :
    Raises BlockFault (dirtyPagesOf alloc t) := by
  unfold dirtyPagesOf
  split
  · exact .ok _
  · refine (countLoop_raises _ _).bind fun k _ => ?_
    split_ifs
    · exact .ok _
    · exact .ok _
    · exact (fillLoop_raises _ _ _).bind fun _ _ => .ok _

/-- **The faults of a mark**: those of the bitmap, a signed overflow, and a
division by zero only on a tracker of page size `0`. -/
theorem markDirty_raises (alloc : Bool) (t : FileTracker) (offset amount : Int) :
    Raises (fun e => BlockFault e ∨ e = .signedOverflow ∨ e = .divByZero ∧ t.pageSize = 0)
      (vfsTrackingMarkDirty alloc t offset amount) := by
  unfold vfsTrackingMarkDirty
  split_ifs with h0 hps
  · exact .ok _
  · exact .error (.inr (.inr ⟨rfl, hps⟩))
  · exact .error (.inr (.inl rfl))
  · dsimp only
    split
    · exact .ok _
    · exact ((markLoop_raises _ _ _ _).mono fun _ h => .inl h).bind fun _ _ => .ok _

/-! ### The list and the heap -/

/-- **The faults of a walk of the list**: a `NULL` filename, or a use after
free at a freed tracker on the list. -/
theorem findTracker_raises (heap : Nat → Option FileTracker) (name : List Char) :
    ∀ files, Raises (fun e => e = .nullDeref ∨ e = .useAfterFree ∧ ∃ a ∈ files, heap a = none)
      (findTracker heap name files)
  | [] => .ok _
  | a :: rest => by
    unfold findTracker
    split
    · exact .error (.inr ⟨rfl, a, List.mem_cons_self _ _, ‹_›⟩)
    · split
      · exact .error (.inl rfl)
      · split_ifs
        · exact .ok _
        · exact (findTracker_raises heap name rest).mono fun _ h =>
            h.imp_right fun ⟨he, b, hb, hb'⟩ => ⟨he, b, List.mem_cons_of_mem _ hb, hb'⟩

/-- The faults of a call that walks the list: those of the bitmap (a `NULL`
filename among them), or a use after free at a freed tracker on the list. -/
def ListFault (s : Sys) (e : Fault) : Prop :=
  BlockFault e ∨ e = .useAfterFree ∧ ∃ a ∈ s.gState.files, s.heap a = none

namespace ListFault

variable {s : Sys} {e : Fault}

theorem ne_divByZero (h : ListFault s e) : e ≠ .divByZero := by
  rcases h with hb | ⟨rfl, -⟩
  · exact (blockFault_ne hb).1
  · decide

theorem freed (h : ListFault s .useAfterFree) : ∃ a ∈ s.gState.files, s.heap a = none := by
  rcases h with hb | ⟨-, h⟩
  · exact absurd rfl (blockFault_ne hb).2
  · exact h

end ListFault

theorem getFile_raises (c d : Bool) (s : Sys) (n : Option (List Char)) :
    Raises (ListFault s) (vfsTrackingGetFile c d s n) := by
  cases n with
  | none => exact .ok _
  | some name =>
    refine ((findTracker_raises _ _ _).mono fun _ h => h.imp_left .inl).bind fun r _ => ?_
    split <;> (try split_ifs) <;> exact .ok _

/-- A tracker a lookup returns is allocated. -/
theorem getFile_alloc {c d : Bool} {s s1 : Sys} {n : Option (List Char)} {a : Nat}
    (hg : vfsTrackingGetFile c d s n = .ok (some a, s1)) : (s1.heap a).isSome := by
  cases n with
  | none => cases hg
  | some name =>
    rcases getFile_ok hg with ⟨rfl, hf⟩ | ⟨hb, rfl⟩
    · obtain ⟨t, ht, -⟩ := Option.bind_eq_some.mp (hf a rfl).2
      simp [ht]
    · cases hb
      simp

theorem setIsOpen_raises (s : Sys) (a : Nat) (b : Bool) :
    Raises (fun e => e = .useAfterFree ∧ s.heap a = none) (s.setIsOpen a b) := by
  unfold Sys.setIsOpen Sys.updTracker
  split
  · exact .error ⟨rfl, ‹_›⟩
  · exact Raises.bind (.ok _) fun _ _ => .ok _

/-! ### The exported functions and the methods -/

/-- A query faults only as its walk of the list does: the tracker it returns is
allocated. -/
theorem getDirtyPages_raises (c d m : Bool) (s : Sys) (n : Option (List Char)) (outs : Bool) :
    Raises (ListFault s) (vfsTrackingGetDirtyPages c d m s n outs) := by
  unfold vfsTrackingGetDirtyPages
  split
  · refine (getFile_raises _ _ _ _).bind fun p hg => ?_
    rcases p with ⟨_ | a, s1⟩
    · exact .ok _
    dsimp only
    split
    · exact absurd (getFile_alloc hg) (by simp [‹s1.heap a = none›])
    · exact ((dirtyPagesOf_raises _ _).mono fun _ h => .inl h).bind fun _ _ => .ok _
  · exact .ok _

theorem resetDirty_raises (c d : Bool) (s : Sys) (n : Option (List Char)) :
    Raises (ListFault s) (vfsTrackingResetDirty c d s n) := by
  cases n with
  | none => exact .ok _
  | some name =>
    refine (getFile_raises _ _ _ _).bind fun p hg => ?_
    rcases p with ⟨_ | a, s1⟩
    · exact .ok _
    dsimp only
    split
    · exact absurd (getFile_alloc hg) (by simp [‹s1.heap a = none›])
    · split
      · exact .ok _
      · exact ((clearBitmap_raises _ _).mono fun _ h => .inl h).bind fun _ _ => .ok _

/-- An open faults only as its walk of the list does, or on a `NULL`
`pAppData`. -/
theorem trackingOpen_raises (c d : Bool) (s : Sys) (h : Nat) (zName : Option (List Char))
    (rc : Int) : Raises (ListFault s) (trackingOpen c d s h zName rc) := by
  unfold trackingOpen
  split
  · exact .error (.inl (.inl rfl))
  · split_ifs
    · split
      · exact .ok _
      · refine (getFile_raises _ _ _ _).bind fun p hg => ?_
        rcases p with ⟨_ | a, s1⟩
        · exact .ok _
        · refine Raises.bind ((setIsOpen_raises _ _ _).mono fun _ hf => ?_) fun _ _ => .ok _
          exact absurd (getFile_alloc hg) (by simp [hf.2])
    · exact .ok _

theorem fileClose_raises (s : Sys) (h : Nat) (rc : Int) :
    Raises (fun e => e = .useAfterFree ∧ ∃ a, (s.handles h).pTracker = some a ∧ s.heap a = none)
      (fileClose s h rc) := by
  unfold fileClose
  split
  · exact .ok _
  · exact ((setIsOpen_raises _ _ _).mono fun _ hf => ⟨hf.1, _, ‹_›, hf.2⟩).bind fun _ _ => .ok _

/-- **The faults of a write or a truncation**: those of a mark, where a
division by zero is at the file's tracker, or a use after free at the file's
tracker. -/
theorem markOnSuccess_raises (alloc : Bool) (s : Sys) (h : Nat) (offset amount rc : Int) :
    Raises (fun e => BlockFault e ∨ e = .signedOverflow ∨ ∃ a, (s.handles h).pTracker = some a ∧
      (e = .useAfterFree ∧ s.heap a = none ∨
        e = .divByZero ∧ ∃ t, s.heap a = some t ∧ t.pageSize = 0))
      (markOnSuccess alloc s h offset amount rc) := by
  unfold markOnSuccess
  split_ifs
  · split
    · exact .ok _
    · rename_i a hp
      refine Raises.bind ?_ fun _ _ => .ok _
      unfold Sys.updTracker
      split
      · exact .error (.inr (.inr ⟨a, hp, .inl ⟨rfl, ‹_›⟩⟩))
      · rename_i t ht
        refine ((markDirty_raises _ _ _ _).mono fun e he => ?_).bind fun _ _ => .ok _
        rcases he with hb | ho | ⟨rfl, h0⟩
        · exact .inl hb
        · exact .inr (.inl ho)
        · exact .inr (.inr ⟨a, hp, .inr ⟨rfl, t, ht, h0⟩⟩)
  · exact .ok _

/-! ### Events -/

/-- **A division by zero comes only from a file whose tracker has page size
`0`.** -/
theorem step_raises_divByZero (s : Sys) (e : Event) :
    Raises (fun f => f = .divByZero → ∃ h a t, (s.handles h).pTracker = some a ∧
      s.heap a = some t ∧ t.pageSize = 0) (step s e) := by
  -- a query, a reset and an open do not divide
  have hl : ∀ {α : Type} {x : Except Fault α}, Raises (ListFault s) x →
      Raises (fun f => f = .divByZero → ∃ h a t, (s.handles h).pTracker = some a ∧
        s.heap a = some t ∧ t.pageSize = 0) x :=
    fun hx => hx.mono fun _ hf hd => absurd hd hf.ne_divByZero
  cases e with
  | init | shutdown => exact .ok _
  | getDirtyPages => exact (hl (getDirtyPages_raises _ _ _ _ _ _)).bind fun _ _ => .ok _
  | resetDirty => exact (hl (resetDirty_raises _ _ _ _)).bind fun _ _ => .ok _
  | xOpen => exact (hl (trackingOpen_raises _ _ _ _ _ _)).bind fun _ _ => .ok _
  | xClose => exact ((fileClose_raises _ _ _).mono fun _ hf hd => by
      rw [hd] at hf; cases hf.1).bind fun _ _ => .ok _
  | xWrite hd _ _ _ _ | xTruncate hd _ _ _ =>
    refine ((markOnSuccess_raises _ _ _ _ _ _).mono fun f hf hd => ?_).bind fun _ _ => .ok _
    subst hd
    rcases hf with hb | ho | ⟨a, hp, ⟨hu, -⟩ | ⟨-, t, ht, h0⟩⟩
    · exact absurd rfl (blockFault_ne hb).1
    · cases ho
    · cases hu
    · exact ⟨_, a, t, hp, ht, h0⟩

/-- **A use after free comes only from a freed tracker** that is on the list or
that an open file points at, for an event within the engine's contract. -/
theorem step_raises_useAfterFree {s : Sys} {e : Event} (hl : engineLegal s e = true) :
    Raises (fun f => f = .useAfterFree → (∃ a ∈ s.gState.files, s.heap a = none) ∨
      ∃ h a, (s.handles h).pMethods = true ∧ (s.handles h).pTracker = some a ∧
        s.heap a = none) (step s e) := by
  -- a query, a reset and an open fault only as their walk of the list does
  have hw : ∀ {α : Type} {x : Except Fault α}, Raises (ListFault s) x →
      Raises (fun f => f = .useAfterFree → (∃ a ∈ s.gState.files, s.heap a = none) ∨
        ∃ h a, (s.handles h).pMethods = true ∧ (s.handles h).pTracker = some a ∧
          s.heap a = none) x :=
    fun hx => hx.mono fun _ hf hu => .inl (hu ▸ hf).freed
  cases e with
  | init | shutdown => exact .ok _
  | getDirtyPages => exact (hw (getDirtyPages_raises _ _ _ _ _ _)).bind fun _ _ => .ok _
  | resetDirty => exact (hw (resetDirty_raises _ _ _ _)).bind fun _ _ => .ok _
  | xOpen => exact (hw (trackingOpen_raises _ _ _ _ _ _)).bind fun _ _ => .ok _
  | xClose hd _ =>
    refine ((fileClose_raises _ _ _).mono fun _ hf _ => ?_).bind fun _ _ => .ok _
    obtain ⟨a, hp, hn⟩ := hf.2
    exact .inr ⟨hd, a, hl, hp, hn⟩
  | xWrite hd _ _ _ _ | xTruncate hd _ _ _ =>
    refine ((markOnSuccess_raises _ _ _ _ _ _).mono fun f hf hu => ?_).bind fun _ _ => .ok _
    subst hu
    rcases hf with hb | ho | ⟨a, hp, ⟨-, hn⟩ | ⟨hd, -⟩⟩
    · exact absurd rfl (blockFault_ne hb).2
    · cases ho
    · exact .inr ⟨hd, a, hl, hp, hn⟩
    · cases hd

end TrackingVfs
