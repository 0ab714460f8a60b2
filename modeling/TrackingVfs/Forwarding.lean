/-
# What reaches the real backend

The tracking VFS decorates a real VFS. Each method of `trackingIoMethods` calls
the same method of the real file `p->pReal` with the same arguments and returns
its answer; `fileClose`, `fileWrite` and `fileTruncate` then update the
tracker. `trackingCall` is one call of the engine on a tracking file over an
arbitrary real file (`RealFile`), and `directCall` the same call made on the
real file itself.

For every method of the table the engine sees the real method's answer (for
`xClose`, `xWrite` and `xTruncate`, the code `fileClose`, `fileWrite` and
`fileTruncate` hand back) and the real file moves as it would directly,
whatever the trackers hold (`trackingCall_forwards`); the tracker update can
only fault, which is the business of `vfs_tracking_mark_dirty`. But the table
has `0` for the shared-memory and fetch methods of version 3
(`trackingCall_shm`): a real file that provides `xShmMap` answers it directly,
and through the decorator the engine finds no method. `trackingCall` answers
`none` for a `0` slot, as an engine that checks the slot sees it; an engine
that calls `xFetch` without the check is left out. Two more calls differ from direct use: a copied VFS
method runs with the tracking VFS as its `pVfs` (`copiedMethod_self`), and a
failed open leaves the tracking file's `pMethods` unset, so the engine issues
no `xClose` that could reach the real file (`xOpen_fails`).

The VFS methods the tracking VFS implements itself (`trackingDelete`,
`trackingAccess`, `trackingFullPathname`) read the real VFS from `pAppData`.
Only init and shutdown touch what init sets up (`step_setup`), so after a
successful init every init is ignored until a shutdown (`init_ignored`), and in
every run the tracking VFS is registered at most once and only while `pAppData`
is the base VFS of `g_state` (`Registered`): while registered, these methods
reach that VFS with it as `pVfs` (`trackingPass_forwards`). Under SQLite's own
registration, an init that fails changes nothing, and one that succeeds leaves
the tracking VFS the host's default (`init_real_host`).
-/
import TrackingVfs.System

namespace TrackingVfs

/-- The methods of `sqlite3_io_methods` up to version 3, in table order. -/
inductive IoMethod where
  | xClose | xRead | xWrite | xTruncate | xSync | xFileSize | xLock | xUnlock
  | xCheckReservedLock | xFileControl | xSectorSize | xDeviceCharacteristics
  | xShmMap | xShmLock | xShmBarrier | xShmUnmap | xFetch | xUnfetch
  deriving DecidableEq, Repr

/-- An `sqlite3_io_methods` table: its `iVersion` and the methods that are not
`0`. -/
structure IoMethods where
  iVersion : Nat
  methods : List IoMethod
  deriving DecidableEq, Repr

/-- `trackingIoMethods`: version 3, the twelve methods of version 1, and `0`
for the shared-memory and fetch methods. -/
def trackingIoMethods : IoMethods :=
  ⟨3, [.xClose, .xRead, .xWrite, .xTruncate, .xSync, .xFileSize, .xLock, .xUnlock,
    .xCheckReservedLock, .xFileControl, .xSectorSize, .xDeviceCharacteristics]⟩

/-- A call of the engine on an open file. `xWrite` and `xTruncate` carry the
arguments the tracking methods read; `args` stands for all the others
(buffers, flags, out-pointers), which they pass on unread. -/
inductive IoCall (α : Type) where
  | xClose (args : α)
  | xWrite (iAmt iOfst : Int) (args : α)
  | xTruncate (size : Int) (args : α)
  | other (m : IoMethod) (hm : m ≠ .xClose ∧ m ≠ .xWrite ∧ m ≠ .xTruncate) (args : α)

/-- The method a call is of. -/
def IoCall.method {α : Type} : IoCall α → IoMethod
  | .xClose _ => .xClose
  | .xWrite .. => .xWrite
  | .xTruncate .. => .xTruncate
  | .other m _ _ => m

/-- A real file: its io-methods table, and what each call does (the return
code, the out-values it writes, and the file's next state), in any way at all. -/
structure RealFile (σ α ρ : Type) where
  methods : IoMethods
  call : IoCall α → σ → (Int × ρ) × σ

variable {σ α ρ : Type}

/-- The call made on the real file itself: `none` when its slot is `0`. -/
def directCall (f : RealFile σ α ρ) (st : σ) (c : IoCall α) : Option ((Int × ρ) × σ) :=
  if c.method ∈ f.methods.methods then some (f.call c st) else none

/-- The call made on the engine's file `h` through `trackingIoMethods`, over
the real file `f` in state `st`: `none` when the slot is `0`; otherwise the
call through the real file's slot (which faults when that slot is `0`), and the
engine gets the code the tracking method returns with the out-values the real
call wrote, the real file's next state, and the state after the tracker update.
`fileClose`, `fileWrite` and `fileTruncate` return the code they compute; the
other methods return the real method's call as it is. -/
def trackingCall (alloc : Bool) (f : RealFile σ α ρ) (s : Sys) (h : Nat) (st : σ)
    (c : IoCall α) : Except Fault (Option ((Int × ρ) × σ × Sys)) :=
  if c.method ∈ trackingIoMethods.methods then
    if c.method ∈ f.methods.methods then
      let ((rc, out), st') := f.call c st
      match c with
      | .xClose _ => do
        let (rc', s') ← fileClose s h rc
        pure (some ((rc', out), st', s'))
      | .xWrite iAmt iOfst _ => do
        let (rc', s') ← fileWrite alloc s h iAmt iOfst rc
        pure (some ((rc', out), st', s'))
      | .xTruncate size _ => do
        let (rc', s') ← fileTruncate alloc s h size rc
        pure (some ((rc', out), st', s'))
      | .other .. => pure (some ((rc, out), st', s))
    else .error .nullDeref
  else pure none

/-- **The methods of the table forward.** A call through the tracking table
that does not fault gives the engine exactly the answer of the direct call (the
tracking methods return the real method's code, `fileClose_rc` and
`markOnSuccess_rc`) and leaves the real file in the same state, whatever the
trackers hold. -/
theorem trackingCall_forwards {alloc : Bool} {f : RealFile σ α ρ} {s s' : Sys} {h : Nat}
    {st st' : σ} {c : IoCall α} {r : Int × ρ}
    (hc : trackingCall alloc f s h st c = .ok (some (r, st', s'))) :
    directCall f st c = some (r, st') := by
  unfold trackingCall at hc
  by_cases ht : c.method ∈ trackingIoMethods.methods
  swap
  · simp [ht, pure, Except.pure] at hc
  by_cases hf : c.method ∈ f.methods.methods
  swap
  · simp [ht, hf] at hc
  simp only [if_pos ht, if_pos hf] at hc
  rw [directCall, if_pos hf]
  -- a tracker update that returns the code it was given hands it to the engine
  have hans : ∀ {x : Except Fault (Int × Sys)},
      (∀ rc' s1, x = .ok (rc', s1) → rc' = (f.call c st).1.1) →
      x >>= (fun q => pure (some ((q.1, (f.call c st).1.2), (f.call c st).2, q.2))) =
        .ok (some (r, st', s')) → some (f.call c st) = some (r, st') := by
    intro x hrc hx
    obtain ⟨⟨rc', s1⟩, hq, hx⟩ := bind_eq_ok.mp hx
    simp only [pure, Except.pure, Except.ok.injEq, Option.some.injEq, Prod.mk.injEq] at hx
    rw [← hx.1, ← hx.2.1, hrc rc' s1 hq]
  cases c with
  | xClose => exact hans (fun _ _ => fileClose_rc) hc
  | xWrite => exact hans (fun _ _ => markOnSuccess_rc) hc
  | xTruncate => exact hans (fun _ _ => markOnSuccess_rc) hc
  | other m hm a =>
    simp only [pure, Except.pure, Except.ok.injEq, Option.some.injEq, Prod.mk.injEq] at hc
    rw [← hc.1, ← hc.2.1]

/-- After an init and an open of `db`, a write of ten bytes through the
tracking table on file `0`, which has tracker `0`, over a real file that
answers `SQLITE_OK` to every call: the tracker is marked, and the engine gets
the direct call's answer. -/
theorem trackingCall_forwards_write :
    ∃ s s', Reach [] (fun _ _ => True) s ∧ (s.handles 0).pTracker = some 0 ∧
      trackingCall true (⟨trackingIoMethods, fun _ _ => ((SQLITE_OK, ()), ())⟩ :
        RealFile Unit Unit Unit) s 0 () (.xWrite 10 0 ()) =
        .ok (some ((SQLITE_OK, ()), (), s')) ∧ s'.heap 0 ≠ s.heap 0 ∧
      directCall (⟨trackingIoMethods, fun _ _ => ((SQLITE_OK, ()), ())⟩ : RealFile Unit Unit Unit)
        () (.xWrite 10 0 ()) = some ((SQLITE_OK, ()), ()) := by
  have hr := @reach_of_legalRun [] _ _ [.init (some ⟨"memfs".toList, 0, 0, []⟩) 4096 SQLITE_OK,
    .xOpen 0 (some "db".toList) SQLITE_OK true true] .start rfl
  exact ⟨_, _, hr, rfl, (fun hc => ⟨hc, by decide, trackingCall_forwards hc⟩) rfl⟩

/-- **The shared-memory methods are not forwarded.** For every real file that
provides `xShmMap`, the engine's `xShmMap` reaches it when made directly,
but through the decorator finds the slot `0`. -/
theorem trackingCall_shm {f : RealFile σ α ρ} (hf : IoMethod.xShmMap ∈ f.methods.methods)
    (alloc : Bool) (s : Sys) (h : Nat) (st : σ) (args : α) :
    directCall f st (.other .xShmMap (by decide) args) =
        some (f.call (.other .xShmMap (by decide) args) st) ∧
      trackingCall alloc f s h st (.other .xShmMap (by decide) args) = .ok none := by
  refine ⟨by simp [directCall, IoCall.method, hf], ?_⟩
  simp [trackingCall, IoCall.method, trackingIoMethods, pure, Except.pure]

/-- A real file of version 3 with every method, whose calls all return
`SQLITE_OK`. -/
theorem trackingCall_shm_full :
    IoMethod.xShmMap ∈ [.xClose, .xRead, .xWrite, .xTruncate, .xSync, .xFileSize, .xLock,
      .xUnlock, .xCheckReservedLock, .xFileControl, .xSectorSize, .xDeviceCharacteristics,
      .xShmMap, .xShmLock, .xShmBarrier, .xShmUnmap, .xFetch, .xUnfetch] ∧
    directCall (⟨⟨3, [.xClose, .xRead, .xWrite, .xTruncate, .xSync, .xFileSize, .xLock,
        .xUnlock, .xCheckReservedLock, .xFileControl, .xSectorSize, .xDeviceCharacteristics,
        .xShmMap, .xShmLock, .xShmBarrier, .xShmUnmap, .xFetch, .xUnfetch]⟩,
        fun _ _ => ((SQLITE_OK, ()), ())⟩ : RealFile Unit Unit Unit) ()
        (.other .xShmMap (by decide) ()) = some ((SQLITE_OK, ()), ()) ∧
    trackingCall true (⟨⟨3, [.xClose, .xRead, .xWrite, .xTruncate, .xSync, .xFileSize, .xLock,
        .xUnlock, .xCheckReservedLock, .xFileControl, .xSectorSize, .xDeviceCharacteristics,
        .xShmMap, .xShmLock, .xShmBarrier, .xShmUnmap, .xFetch, .xUnfetch]⟩,
        fun _ _ => ((SQLITE_OK, ()), ())⟩ : RealFile Unit Unit Unit) (Sys.start []) 0 ()
        (.other .xShmMap (by decide) ()) = .ok none :=
  ⟨by decide, trackingCall_shm (by decide) true (Sys.start []) 0 () ()⟩

/-! ### The VFS methods -/

/-- The function the engine finds in slot `m` of a registered VFS, as the VFS
it belongs to and the method, with the `pVfs` the engine passes to it; `none`
when the slot is `0`. -/
def vfsCall : VfsRef → SqliteVfs → VfsMethod → Option ((BaseVfs × VfsMethod) × VfsRef)
  | .base v, _, m => if m ∈ v.methods then some ((v, m), .base v) else none
  | .tracking, tv, m =>
    match tv.pAppData with
    | some v => if m ∈ tv.methods then some ((v, m), .tracking) else none
    | none => none

/-- **A copied method runs with the tracking VFS as `pVfs`.** After an init
that finds the base VFS `v`, each method the tracking VFS copied from `v` is
`v`'s own function, called with `&trackingVfs`, whose `pAppData` is `v`,
where a direct call passes `v`. -/
theorem copiedMethod_self {s : Sys} (h0 : s.gState.pRealVfs = none) (v : BaseVfs)
    (pageSize : UInt32) (rc : Int) {m : VfsMethod} (hm : m ∈ v.methods) :
    vfsCall .tracking (vfsTrackingInit (some v) pageSize rc s).2.trackingVfs m =
        some ((v, m), .tracking) ∧
      vfsCall (.base v) (vfsTrackingInit (some v) pageSize rc s).2.trackingVfs m =
        some ((v, m), .base v) := by
  constructor <;> unfold vfsTrackingInit <;> by_cases hr : rc = SQLITE_OK <;>
    simp [h0, hr, vfsCall, hm]

/-- **A failed open changes nothing**, so the tracking file's `pMethods`
stays unset and the engine does not close it, whatever the real `xOpen` left
in the real file. -/
theorem xOpen_fails {s : Sys} (ha : s.trackingVfs.pAppData.isSome) {hd : Nat}
    {zName : Option (List Char)} {rc : Int} (hrc : rc ≠ SQLITE_OK) (c d : Bool) :
    step s (.xOpen hd zName rc c d) = .ok s := by
  obtain ⟨v, hv⟩ := Option.isSome_iff_exists.mp ha
  simp [step, trackingOpen, hv, hrc, bind, Except.bind, pure, Except.pure]

/-! ### The pass-through VFS methods

`trackingDelete`, `trackingAccess` and `trackingFullPathname` are the tracking
VFS's own functions. Each reads the real VFS from `pVfs->pAppData` and calls its
method with the real VFS as `pVfs`, where a copied method gets the tracking VFS
(`copiedMethod_self`). The base VFS's `xDelete`, `xAccess` and `xFullPathname`
are taken to be present, as SQLite requires of every VFS. -/

/-- The VFS methods that `trackingVfs` implements by passing the call on. -/
inductive PassMethod where
  | xDelete | xAccess | xFullPathname
  deriving DecidableEq, Repr

/-- The body shared by the pass-through methods, on the tracking VFS `tv`:
`pRealVfs = pVfs->pAppData`, then `pRealVfs->xM(pRealVfs, ...)` with the other
arguments unchanged. It returns the VFS whose method runs, with the method, and
the `pVfs` passed to it. -/
def trackingPass (tv : SqliteVfs) (m : PassMethod) :
    Except Fault ((BaseVfs × PassMethod) × VfsRef) :=
  match tv.pAppData with
  | some pRealVfs => .ok ((pRealVfs, m), .base pRealVfs)
  | none => .error .nullDeref

/-- `trackingDelete`. -/
def trackingDelete (tv : SqliteVfs) : Except Fault ((BaseVfs × PassMethod) × VfsRef) :=
  trackingPass tv .xDelete

/-- `trackingAccess`. -/
def trackingAccess (tv : SqliteVfs) : Except Fault ((BaseVfs × PassMethod) × VfsRef) :=
  trackingPass tv .xAccess

/-- `trackingFullPathname`. -/
def trackingFullPathname (tv : SqliteVfs) : Except Fault ((BaseVfs × PassMethod) × VfsRef) :=
  trackingPass tv .xFullPathname

/-! ### What init sets up

Only `vfs_tracking_init` and `vfs_tracking_shutdown` touch the host's list,
the static `trackingVfs`, `g_state.pRealVfs` and `g_state.defaultPageSize`
(`step_setup`), and an init while `g_state` holds a base VFS returns at once.
So after a successful init every later init is ignored until a shutdown
(`init_ignored`); and in every run the tracking VFS is in the list at most once,
and only while `g_state` holds the base VFS that `pAppData` names
(`Registered`). -/

/-- What `vfs_tracking_init` sets up: the host's list, the static
`trackingVfs`, `g_state.pRealVfs` and `g_state.defaultPageSize`. -/
def Sys.setup (s : Sys) : List VfsRef × SqliteVfs × Option BaseVfs × Nat :=
  (s.vfsList, s.trackingVfs, s.gState.pRealVfs, s.gState.defaultPageSize)

theorem getFile_setup {c d : Bool} {s s' : Sys} {n : Option (List Char)}
    {r : Option Nat} (h : vfsTrackingGetFile c d s n = .ok (r, s')) : s'.setup = s.setup := by
  cases n with
  | none => cases h; rfl
  | some name => rcases getFile_ok h with ⟨rfl, -⟩ | ⟨-, rfl⟩ <;> rfl

theorem setIsOpen_setup {s s' : Sys} {a : Nat} {b : Bool} (h : s.setIsOpen a b = .ok s') :
    s'.setup = s.setup := by
  obtain ⟨t, -, rfl⟩ := Sys.setIsOpen_ok h
  rfl

theorem Quiet.setup {d : Bool} {s s' : Sys} (hq : Quiet d s s') : s'.setup = s.setup := by
  induction hq with
  | refl => rfl
  | getFile hg _ ih => exact ih.trans (getFile_setup hg)
  | write _ _ _ ih => exact ih

/-- **Only init and shutdown touch the setup.** -/
theorem step_setup {s s' : Sys} {e : Event} (h : step s e = .ok s')
    (hi : ∀ found ps rc, e ≠ .init found ps rc) (hs : e ≠ .shutdown) : s'.setup = s.setup := by
  cases e with
  | init found ps rc => exact absurd rfl (hi found ps rc)
  | shutdown => exact absurd rfl hs
  | xOpen hd zName rc c d =>
    rcases step_xOpen h with rfl | ⟨-, r, s1, s2, hg, hr, rfl⟩
    · rfl
    refine Eq.trans (?_ : s2.setup = s1.setup) (getFile_setup hg)
    rcases hr with ⟨-, rfl⟩ | ⟨a, -, ho⟩
    · rfl
    · exact setIsOpen_setup ho
  | xClose hd rc =>
    obtain ⟨s1, hp, rfl⟩ := step_xClose h
    rcases hp with ⟨-, rfl⟩ | ⟨a, -, ho⟩
    · rfl
    · exact (setIsOpen_setup ho : s1.setup = s.setup)
  | getDirtyPages | resetDirty | xWrite | xTruncate => exact (step_quiet h rfl).setup

theorem init_of_initialised {s : Sys} (h0 : s.gState.pRealVfs.isSome) (found : Option BaseVfs)
    (ps : UInt32) (rc : Int) : vfsTrackingInit found ps rc s = (SQLITE_OK, s) := by
  simp [vfsTrackingInit, h0]

/-- **After a successful init, init is ignored until a shutdown.** From a state
where `g_state` holds a base VFS, along any stretch of a run without a
shutdown, whatever the allocations and the backend return, the host's list,
the tracking VFS, the base VFS and the default page size stay as they were, and
every `vfs_tracking_init` returns `SQLITE_OK` and changes nothing, whatever base
VFS and page size it is given. -/
theorem init_ignored : ∀ {s s' : Sys} (es : List Event), s.gState.pRealVfs.isSome →
    run s es = .ok s' → Event.shutdown ∉ es →
    s'.setup = s.setup ∧ ∀ found ps rc, vfsTrackingInit found ps rc s' = (SQLITE_OK, s')
  | s, s', [], h0, h, _ => by cases h; exact ⟨rfl, init_of_initialised h0⟩
  | s, s', e :: es, h0, h, hes => by
    rw [run] at h
    obtain ⟨s1, h1, hrun⟩ := bind_eq_ok.mp h
    have hs1 : s1.setup = s.setup := by
      cases e with
      | init found ps rc =>
        cases h1
        rw [init_of_initialised h0]
      | shutdown => exact absurd (List.mem_cons_self _ _) hes
      | _ => exact step_setup h1 (fun _ _ _ => nofun) nofun
    have h01 : s1.gState.pRealVfs.isSome := by
      simp only [Sys.setup, Prod.mk.injEq] at hs1
      rw [hs1.2.2.1]
      exact h0
    obtain ⟨hs', hi⟩ := init_ignored es h01 hrun fun he => hes (List.mem_cons_of_mem _ he)
    exact ⟨hs'.trans hs1, hi⟩

/-- After an init with 4096-byte pages, an open of `db` and an init of `opfs`
with 512-byte pages leave the page size at 4096, and a further init changes
nothing. -/
theorem init_ignored_opfs :
    ∃ s s', s.gState.pRealVfs.isSome ∧
      run s [.xOpen 0 (some "db".toList) SQLITE_OK true true,
        .init (some ⟨"opfs".toList, 0, 0, []⟩) 512 SQLITE_OK] = .ok s' ∧
      Event.shutdown ∉ [Event.xOpen 0 (some "db".toList) SQLITE_OK true true,
        .init (some ⟨"opfs".toList, 0, 0, []⟩) 512 SQLITE_OK] ∧
      s.gState.defaultPageSize = 4096 ∧
      s'.setup = s.setup ∧ ∀ found ps rc, vfsTrackingInit found ps rc s' = (SQLITE_OK, s') :=
  ⟨(vfsTrackingInit (some ⟨"memfs".toList, 0, 0, []⟩) 4096 SQLITE_OK (Sys.start [])).2, _, rfl,
    rfl, by decide, rfl, init_ignored [.xOpen 0 (some "db".toList) SQLITE_OK true true,
      .init (some ⟨"opfs".toList, 0, 0, []⟩) 512 SQLITE_OK] rfl rfl (by decide)⟩

/-- The tracking VFS is in the host's list at most once, and only while
`g_state.pRealVfs` is the base VFS its `pAppData` names. -/
structure Registered (s : Sys) : Prop where
  once : VfsRef.tracking ∉ s.vfsList.erase .tracking
  real : VfsRef.tracking ∈ s.vfsList →
    ∃ v, s.gState.pRealVfs = some v ∧ s.trackingVfs.pAppData = some v

namespace Registered

theorem start (host : List BaseVfs) : Registered (Sys.start host) :=
  have h : VfsRef.tracking ∉ host.map .base := by simp
  ⟨fun he => h (List.mem_of_mem_erase he), fun he => absurd he h⟩

theorem of_setup {s s' : Sys} (hs : Registered s) (h : s'.setup = s.setup) : Registered s' := by
  simp only [Sys.setup, Prod.mk.injEq] at h
  obtain ⟨hl, hv, hr, -⟩ := h
  exact ⟨hl ▸ hs.once, fun he => hv ▸ hr ▸ hs.real (hl ▸ he)⟩

theorem init {s : Sys} (hs : Registered s) (found : Option BaseVfs) (ps : UInt32) (rc : Int) :
    Registered (vfsTrackingInit found ps rc s).2 := by
  unfold vfsTrackingInit
  by_cases hi : s.gState.pRealVfs.isSome
  · simpa only [hi, if_true] using hs
  simp only [hi, Bool.false_eq_true, if_false]
  cases found with
  | none => exact hs
  | some v =>
    dsimp only
    by_cases hr : rc = SQLITE_OK
    · rw [if_pos hr]
      refine ⟨?_, fun _ => ⟨v, rfl, rfl⟩⟩
      simpa only [List.erase_cons_head] using hs.once
    · rw [if_neg hr]
      exact ⟨hs.once, fun _ => ⟨v, rfl, rfl⟩⟩

theorem shutdown {s : Sys} (hs : Registered s) : Registered (vfsTrackingShutdown s) := by
  have hn : VfsRef.tracking ∉ (vfsTrackingShutdown s).vfsList := hs.once
  exact ⟨fun he => hn (List.mem_of_mem_erase he), fun he => absurd he hn⟩

theorem step {s s' : Sys} {e : Event} (hs : Registered s) (h : step s e = .ok s') :
    Registered s' := by
  cases e with
  | init found ps rc => cases h; exact hs.init found ps rc
  | shutdown => cases h; exact hs.shutdown
  | _ => exact hs.of_setup (step_setup h (fun _ _ _ => nofun) nofun)

end Registered

theorem registered_reach {host : List BaseVfs} {G : Sys → Event → Prop} {s : Sys}
    (hr : Reach host G s) : Registered s := by
  induction hr with
  | start => exact .start _
  | step _ _ _ h ih => exact ih.step h

/-- **A pass-through call reaches the base VFS, as itself.** In every run,
whatever the allocations and the backend return, while the tracking VFS is
registered `trackingDelete`, `trackingAccess` and `trackingFullPathname` do not
fault: each calls the method of the base VFS that `g_state` holds, with that VFS
as `pVfs`, as a direct call on it would. -/
theorem trackingPass_forwards {host : List BaseVfs} {G : Sys → Event → Prop} {s : Sys}
    (hr : Reach host G s) (hreg : VfsRef.tracking ∈ s.vfsList) (m : PassMethod) :
    ∃ v, s.gState.pRealVfs = some v ∧ trackingPass s.trackingVfs m = .ok ((v, m), .base v) := by
  obtain ⟨v, hv, ha⟩ := (registered_reach hr).real hreg
  exact ⟨v, hv, by simp [trackingPass, ha]⟩

/-- After an init that finds `memfs` and registers, `trackingAccess` runs
`memfs`'s `xAccess` with `memfs` as `pVfs`. -/
theorem trackingPass_forwards_memfs :
    ∃ s, Reach [] (fun _ _ => True) s ∧ VfsRef.tracking ∈ s.vfsList ∧
      ∃ v, s.gState.pRealVfs = some v ∧
        trackingPass s.trackingVfs .xAccess = .ok ((v, .xAccess), .base v) := by
  have hr := @Reach.step [] (fun _ _ => True) _ _
    (.init (some ⟨"memfs".toList, 0, 0, []⟩) 4096 SQLITE_OK) .start rfl trivial rfl
  exact ⟨_, hr, List.mem_cons_self _ _, trackingPass_forwards hr (List.mem_cons_self _ _) .xAccess⟩

/-! ### Init under SQLite's registration

`sqlite3_vfs_find` and `sqlite3_vfs_register` both initialise the SQLite
library before they do anything else, so once the find of an init has returned
the base VFS, the register of the same init returns `SQLITE_OK`
(`Event.HostRegisters`). Under that host, in every run, while `g_state` holds a
base VFS the tracking VFS is the host's default and wraps it (`DefaultWraps`);
so an init that returns an error changes nothing, and one that returns
`SQLITE_OK` leaves the tracking VFS the default, wrapping a base VFS that a find
returned (`init_real_host`). -/

/-- The host answers `sqlite3_vfs_register` as SQLite does: an init whose
`sqlite3_vfs_find` returned the base VFS is answered `SQLITE_OK`. -/
def Event.HostRegisters : Event → Prop
  | .init (some _) _ rc => rc = SQLITE_OK
  | _ => True

/-- While `g_state` holds a base VFS, the tracking VFS is the host's default
VFS and its `pAppData` is that base VFS. -/
def DefaultWraps (s : Sys) : Prop :=
  ∀ v, s.gState.pRealVfs = some v →
    s.vfsList.head? = some .tracking ∧ s.trackingVfs.pAppData = some v

namespace DefaultWraps

theorem start (host : List BaseVfs) : DefaultWraps (Sys.start host) := fun _ h => by cases h

theorem init {s : Sys} (hs : DefaultWraps s) {found : Option BaseVfs} {ps : UInt32} {rc : Int}
    (he : (Event.init found ps rc).HostRegisters) : DefaultWraps (vfsTrackingInit found ps rc s).2 := by
  unfold vfsTrackingInit
  by_cases hi : s.gState.pRealVfs.isSome
  · simpa only [hi, if_true] using hs
  cases found with
  | none => simpa [hi] using hs
  -- the init registers the tracking VFS at the head, wrapping `v`
  | some v => simp [hi, show rc = SQLITE_OK from he, DefaultWraps]

/-- **Under SQLite's registration every event keeps the tracking VFS the
default while initialised.** -/
theorem step {s s' : Sys} {e : Event} (hs : DefaultWraps s) (he : e.HostRegisters)
    (h : TrackingVfs.step s e = .ok s') : DefaultWraps s' := by
  cases e with
  | init found ps rc => cases h; exact hs.init he
  | shutdown => cases h; exact fun _ hv => by cases hv
  | _ =>
    have hsu := step_setup h (fun _ _ _ => nofun) nofun
    simp only [Sys.setup, Prod.mk.injEq] at hsu
    obtain ⟨hl, ht, hv, -⟩ := hsu
    intro v hpv
    rw [hl, ht]
    exact hs v (hv ▸ hpv)

theorem run {s s' : Sys} (es : List Event) (hs : DefaultWraps s) (hes : ∀ e ∈ es, e.HostRegisters)
    (h : TrackingVfs.run s es = .ok s') : DefaultWraps s' :=
  run_preserves (fun hs he h => step hs he h) es hs hes h

end DefaultWraps

/-- **An init fails cleanly, and succeeds only registered.** Under a host that
answers `sqlite3_vfs_register` as SQLite does, after every run of any calls
(inits and shutdowns in any number and order among them) and whatever base VFS
the next init's `sqlite3_vfs_find` returns: if that init returns an error code,
it leaves `g_state`, the tracking VFS and the host's registrations exactly as
they were; if it returns `SQLITE_OK`, the tracking VFS is the host's default VFS
and wraps a base VFS that a find returned, this init's or the one `g_state`
already held. -/
theorem init_real_host {host : List BaseVfs} {es : List Event} {s : Sys}
    (hes : ∀ e ∈ es, e.HostRegisters) (hr : run (Sys.start host) es = .ok s)
    (found : Option BaseVfs) (ps : UInt32) (rc : Int)
    (hrc : (Event.init found ps rc).HostRegisters) :
    ((vfsTrackingInit found ps rc s).1 ≠ SQLITE_OK → (vfsTrackingInit found ps rc s).2 = s) ∧
    ((vfsTrackingInit found ps rc s).1 = SQLITE_OK → ∃ v,
      (vfsTrackingInit found ps rc s).2.vfsList.head? = some .tracking ∧
      (vfsTrackingInit found ps rc s).2.gState.pRealVfs = some v ∧
      (vfsTrackingInit found ps rc s).2.trackingVfs.pAppData = some v ∧
      (found = some v ∨ s.gState.pRealVfs = some v)) := by
  have hs := DefaultWraps.run es (.start host) hes hr
  cases hv : s.gState.pRealVfs with
  | some v =>
    rw [init_of_initialised (by simp [hv])]
    exact ⟨fun h => absurd rfl h, fun _ => ⟨v, (hs v hv).1, hv, (hs v hv).2, .inr rfl⟩⟩
  | none =>
    cases found with
    | none => simp [vfsTrackingInit, hv, SQLITE_ERROR, SQLITE_OK]
    | some v => simp [vfsTrackingInit, hv, (show rc = SQLITE_OK from hrc)]

/-- After an init that registers, an open and close of `db`, a shutdown, and an
init that finds no base VFS, an init of `opfs` returns `SQLITE_OK` with the
tracking VFS the host's default, wrapping `opfs`. -/
theorem init_real_host_reinit :
    ∃ s, run (Sys.start []) [.init (some ⟨"memfs".toList, 0, 0, []⟩) 4096 SQLITE_OK,
        .xOpen 0 (some "db".toList) SQLITE_OK true true, .xClose 0 SQLITE_OK, .shutdown,
        .init none 4096 SQLITE_OK] = .ok s ∧
      (∀ e ∈ [Event.init (some ⟨"memfs".toList, 0, 0, []⟩) 4096 SQLITE_OK,
        .xOpen 0 (some "db".toList) SQLITE_OK true true, .xClose 0 SQLITE_OK, .shutdown,
        .init none 4096 SQLITE_OK], e.HostRegisters) ∧
      (Event.init (some ⟨"opfs".toList, 0, 0, []⟩) 512 SQLITE_OK).HostRegisters ∧
      (vfsTrackingInit (some ⟨"opfs".toList, 0, 0, []⟩) 512 SQLITE_OK s).1 = SQLITE_OK ∧
      (((vfsTrackingInit (some ⟨"opfs".toList, 0, 0, []⟩) 512 SQLITE_OK s).1 ≠ SQLITE_OK →
        (vfsTrackingInit (some ⟨"opfs".toList, 0, 0, []⟩) 512 SQLITE_OK s).2 = s) ∧
      ((vfsTrackingInit (some ⟨"opfs".toList, 0, 0, []⟩) 512 SQLITE_OK s).1 = SQLITE_OK → ∃ v,
        (vfsTrackingInit (some ⟨"opfs".toList, 0, 0, []⟩) 512 SQLITE_OK s).2.vfsList.head? =
          some .tracking ∧
        (vfsTrackingInit (some ⟨"opfs".toList, 0, 0, []⟩) 512 SQLITE_OK s).2.gState.pRealVfs =
          some v ∧
        (vfsTrackingInit (some ⟨"opfs".toList, 0, 0, []⟩) 512 SQLITE_OK s).2.trackingVfs.pAppData =
          some v ∧
        (some ⟨"opfs".toList, 0, 0, []⟩ = some v ∨ s.gState.pRealVfs = some v))) := by
  have hes : ∀ e ∈ [Event.init (some ⟨"memfs".toList, 0, 0, []⟩) 4096 SQLITE_OK,
      .xOpen 0 (some "db".toList) SQLITE_OK true true, .xClose 0 SQLITE_OK, .shutdown,
      .init none 4096 SQLITE_OK], e.HostRegisters := by
    simp [Event.HostRegisters]
  exact ⟨_, rfl, hes, rfl, rfl, @init_real_host [] _ _ hes rfl _ _ _ rfl⟩

end TrackingVfs
