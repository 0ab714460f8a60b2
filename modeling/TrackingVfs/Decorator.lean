/-
# The tracking methods of the decorator

The four methods of `vfs_tracking.c` that touch tracker state: `trackingOpen`
(open the real file, then look up the tracker and set `isOpen`), `fileClose`
(close the real file, then clear `isOpen`), `fileWrite` and `fileTruncate`
(forward, then mark on success). The real file's answer is the argument `rc`;
what the real VFS does with the call is the business of `Forwarding`.

Each method changes the trackers only through `Sys.updTracker` at the
handle's tracker (or `vfs_tracking_get_file` for an open), and leaves every
field but `isOpen` of a tracker alone except through `vfs_tracking_mark_dirty`.
-/
import TrackingVfs.Registry

namespace TrackingVfs

namespace Sys

/-- Write the engine's file `h`. -/
def setHandle (s : Sys) (h : Nat) (f : Handle) : Sys :=
  { s with handles := Function.update s.handles h f }

@[simp] theorem setHandle_handles_same (s : Sys) (h : Nat) (f : Handle) :
    (s.setHandle h f).handles h = f := by simp [setHandle]

theorem setHandle_handles_ne (s : Sys) {h h' : Nat} (f : Handle) (hne : h' ≠ h) :
    (s.setHandle h f).handles h' = s.handles h' := by
  simp [setHandle, Function.update_noteq hne]

@[simp] theorem setHandle_heap (s : Sys) (h : Nat) (f : Handle) :
    (s.setHandle h f).heap = s.heap := rfl

@[simp] theorem setHandle_gState (s : Sys) (h : Nat) (f : Handle) :
    (s.setHandle h f).gState = s.gState := rfl

@[simp] theorem setHandle_nextAddr (s : Sys) (h : Nat) (f : Handle) :
    (s.setHandle h f).nextAddr = s.nextAddr := rfl

@[simp] theorem setHandle_trackingVfs (s : Sys) (h : Nat) (f : Handle) :
    (s.setHandle h f).trackingVfs = s.trackingVfs := rfl

@[simp] theorem setHandle_setHandle (s : Sys) (h : Nat) (f g : Handle) :
    (s.setHandle h f).setHandle h g = s.setHandle h g := by
  simp [setHandle]

/-- Set `isOpen` of tracker `a`. -/
def setIsOpen (s : Sys) (a : Nat) (b : Bool) : Except Fault Sys :=
  s.updTracker a fun t => .ok { t with isOpen := b }

theorem setIsOpen_ok {s s' : Sys} {a : Nat} {b : Bool} (h : s.setIsOpen a b = .ok s') :
    ∃ t, s.heap a = some t ∧ s' = s.setTracker a { t with isOpen := b } := by
  obtain ⟨t, t', ht, hf, rfl⟩ := updTracker_ok h
  cases hf
  exact ⟨t, ht, rfl⟩

theorem setIsOpen_eq {s : Sys} {a : Nat} {t : FileTracker} (ht : s.heap a = some t) (b : Bool) :
    s.setIsOpen a b = .ok (s.setTracker a { t with isOpen := b }) := by
  simp [setIsOpen, updTracker, ht, bind, Except.bind, pure, Except.pure]

/-- Setting `isOpen` moves no engine file and allocates nothing. -/
theorem setIsOpen_frame {s s' : Sys} {a : Nat} {b : Bool} (h : s.setIsOpen a b = .ok s') :
    s'.handles = s.handles ∧ s'.nextAddr = s.nextAddr := by
  obtain ⟨t, -, rfl⟩ := setIsOpen_ok h
  exact ⟨rfl, rfl⟩

/-- Setting `isOpen` of tracker `a` changes no other tracker, and `a` only in
its flag. -/
theorem setIsOpen_heap {s s' : Sys} {a : Nat} {b : Bool} (h : s.setIsOpen a b = .ok s')
    {c : Nat} {t' : FileTracker} (hc : s'.heap c = some t') :
    (c = a ∧ t'.isOpen = b) ∨ (c ≠ a ∧ s.heap c = some t') := by
  obtain ⟨t, -, rfl⟩ := setIsOpen_ok h
  by_cases hca : c = a
  · subst hca
    simp only [setTracker_heap_same, Option.some.injEq] at hc
    exact .inl ⟨rfl, by rw [← hc]⟩
  · rw [setTracker_heap_ne _ _ hca] at hc
    exact .inr ⟨hca, hc⟩

end Sys

/-- `trackingOpen(pVfs, zName, pFile, flags, pOutFlags)` on the engine's file
`h`, where `rc` is what the real `xOpen` (reached through `pVfs->pAppData`)
returns. On success `pMethods` is set and, for a named file, the tracker is
looked up and marked open; on failure nothing is written. -/
def trackingOpen (calloc strdup : Bool) (s : Sys) (h : Nat) (zName : Option (List Char))
    (rc : Int) : Except Fault (Int × Sys) :=
  match s.trackingVfs.pAppData with
  | none => .error .nullDeref
  | some _ =>
    if rc = SQLITE_OK then
      match zName with
      | none => pure (rc, s.setHandle h { s.handles h with pMethods := true, pTracker := none })
      | some name => do
        let (pTracker, s') ← vfsTrackingGetFile calloc strdup s (some name)
        let s'' ← match pTracker with
          | none => pure s'
          | some a => s'.setIsOpen a true
        pure (rc, s''.setHandle h { s''.handles h with pMethods := true, pTracker := pTracker })
    else pure (rc, s)

/-- `fileClose(pFile)`, where `rc` is what the real `xClose` returns: whatever
it returns, the tracker is marked closed. -/
def fileClose (s : Sys) (h : Nat) (rc : Int) : Except Fault (Int × Sys) :=
  match (s.handles h).pTracker with
  | none => .ok (rc, s)
  | some a => do
    let s' ← s.setIsOpen a false
    pure (rc, s')

/-- The body `fileWrite` and `fileTruncate` share: the real method returned
`rc`; on success, mark `amount` bytes at `offset` in the handle's tracker, if it
has one. `alloc` says whether the bitmap's `realloc` succeeds. -/
def markOnSuccess (alloc : Bool) (s : Sys) (h : Nat) (offset amount : Int) (rc : Int) :
    Except Fault (Int × Sys) :=
  if rc = SQLITE_OK then
    match (s.handles h).pTracker with
    | none => .ok (rc, s)
    | some a => do
      let s' ← s.updTracker a fun t => vfsTrackingMarkDirty alloc t offset amount
      pure (rc, s')
  else .ok (rc, s)

/-- `fileWrite(pFile, zBuf, iAmt, iOfst)`, where `rc` is what the real `xWrite`
returns. -/
def fileWrite (alloc : Bool) (s : Sys) (h : Nat) (iAmt iOfst : Int) (rc : Int) :
    Except Fault (Int × Sys) :=
  markOnSuccess alloc s h iOfst iAmt rc

/-- `fileTruncate(pFile, size)`, where `rc` is what the real `xTruncate`
returns: on success one byte at `size` is marked. -/
def fileTruncate (alloc : Bool) (s : Sys) (h : Nat) (size : Int) (rc : Int) :
    Except Fault (Int × Sys) :=
  markOnSuccess alloc s h size 1 rc

/-- **What a mark on success can do**: nothing, or replace the file's tracker
with what `vfs_tracking_mark_dirty` returned for it. -/
theorem markOnSuccess_ok {alloc : Bool} {s s' : Sys} {h : Nat} {offset amount rc rc' : Int}
    (hm : markOnSuccess alloc s h offset amount rc = .ok (rc', s')) :
    s' = s ∨ ∃ a t t', (s.handles h).pTracker = some a ∧ s.heap a = some t ∧
      vfsTrackingMarkDirty alloc t offset amount = .ok t' ∧ s' = s.setTracker a t' := by
  unfold markOnSuccess at hm
  split_ifs at hm
  · split at hm
    · cases hm; exact .inl rfl
    · rename_i a hp
      obtain ⟨s1, hs1, hm⟩ := bind_eq_ok.mp hm
      cases hm
      obtain ⟨t, t', ht, hmk, rfl⟩ := Sys.updTracker_ok hs1
      exact .inr ⟨a, t, t', hp, ht, hmk, rfl⟩
  · cases hm; exact .inl rfl

/-! ### What the methods return

`fileClose`, `fileWrite` and `fileTruncate` return the real method's `rc`,
whatever the trackers hold; `Forwarding` hands that code to the engine. -/

theorem fileClose_rc {s s' : Sys} {h : Nat} {rc rc' : Int}
    (hr : fileClose s h rc = .ok (rc', s')) : rc' = rc := by
  unfold fileClose at hr
  split at hr
  · cases hr; rfl
  · revert hr
    cases Sys.setIsOpen _ _ _ <;> simp [bind, Except.bind, pure, Except.pure]
    intro h1 _; exact h1.symm

theorem markOnSuccess_rc {alloc : Bool} {s s' : Sys} {h : Nat} {offset amount rc rc' : Int}
    (hr : markOnSuccess alloc s h offset amount rc = .ok (rc', s')) : rc' = rc := by
  unfold markOnSuccess at hr
  split_ifs at hr
  · split at hr
    · cases hr; rfl
    · revert hr
      cases Sys.updTracker _ _ _ <;> simp [bind, Except.bind, pure, Except.pure]
      intro h1 _; exact h1.symm
  · cases hr; rfl

end TrackingVfs
