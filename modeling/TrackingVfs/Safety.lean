/-
# Runs in which no call faults

`vfs_tracking.c` checks none of the pointers and sizes it computes, so whether a
call is defined depends on the state the earlier calls left. This module gives
runs in which no call of the module ever faults, whatever `calloc`, `strdup`,
`realloc` and `malloc` return and whatever the real backend answers: the runs
(`Safe`) that are `Tidy` (the registry is discarded only while no file is
open, and no `strdup` of a lookup fails), in which the engine opens files only
through the registered tracking VFS, and in which every write or truncation
that the real file accepts through a file with a tracker is `Bounded` (an
offset that is not negative, `offset + amount` representable, and a last page
below `2 ^ 30 - 1`).

In every such run every tracker holds its dirty pages in a block of
`bitmapSize` words that covers its fewer than `2 ^ 30` pages, every tracker on
the list has the page size `g_state` records, and that size is positive while a
file is open (`Fit`, `safe_trackers`); and from every state of the run the next
event returns normally (`safe_step_ok`). Each condition is needed: a failed
`strdup` makes the next lookup fault (`getFile_strdup_fails`), a shutdown with a
file open makes its next write a use after free (`shutdown_open_file`), a write
into page `UINT32_MAX` never completes (`write_top_page`), and `2 ^ 30` dirty
pages make the query write past its block (`write_query_wraps`).

Key definitions: `FileTracker.Fits`, `Bounded`, `Safe`, `Fit`.
Key theorems: `markDirty_fits`, `Fit.step_ok`, `safe_trackers`, `safe_step_ok`.
-/
import TrackingVfs.Lifecycle

namespace TrackingVfs

/-! ### Trackers that fit -/

/-- Tracker `t` holds some set of dirty pages (so its block has `bitmapSize`
words and covers its pages) and has fewer than `2 ^ 30` pages, so that the
byte count of the query cannot wrap. -/
def FileTracker.Fits (t : FileTracker) : Prop := ∃ D, t.Holds D ∧ t.totalPages < 2 ^ 30

/-- The marks of the safe runs, with page size `ps`: for `amount > 0`, an
offset that is not negative, `offset + amount` representable, and a last page
below `2 ^ 30 - 1`. -/
def Bounded (ps : Nat) (offset amount : Int) : Prop :=
  0 < amount → 0 ≤ offset ∧ offset + amount ≤ INT64_MAX ∧
    (offset + amount - 1).toNat / ps + 1 < 2 ^ 30

/-- **A bounded mark returns and keeps the tracker fitting**, whatever
`realloc` does. -/
theorem markDirty_fits {t : FileTracker} (ht : t.Fits) (hps : 0 < t.pageSize)
    {offset amount : Int} (hb : Bounded t.pageSize offset amount) (alloc : Bool) :
    ∃ t', vfsTrackingMarkDirty alloc t offset amount = .ok t' ∧ t'.Fits ∧ t.Frame t' := by
  by_cases ha : 0 < amount
  swap
  · exact ⟨t, by simp [vfsTrackingMarkDirty, show amount ≤ 0 by omega], ht, .refl t⟩
  obtain ⟨D, hD, hn⟩ := ht
  obtain ⟨ho, hmax, hend⟩ := hb ha
  obtain ⟨t', hm, ht', htot, hf⟩ := markDirty_holds hD ho ha hps hmax (by omega)
  have hfit : t'.Fits := ⟨_, ht', by rw [htot]; omega⟩
  cases alloc
  · rcases markDirty_realloc_fails t offset amount with h | h
    · exact ⟨t, h, ⟨D, hD, hn⟩, .refl t⟩
    · exact ⟨t', h.trans hm, hfit, hf⟩
  · exact ⟨t', hm, hfit, hf⟩

/-- A reset keeps the tracker fitting. -/
theorem clearBitmap_fits {t : FileTracker} (ht : t.Fits) {ws : List Nat}
    (hb : t.dirtyBitmap = some ws) : ∃ t', clearBitmap t ws = .ok t' ∧ t'.Fits ∧ t.Frame t' := by
  obtain ⟨D, hD, hn⟩ := ht
  obtain ⟨t', hc, hD', htot, hf⟩ := clearBitmap_holds hD hb
  exact ⟨t', hc, ⟨∅, hD', htot ▸ hn⟩, hf⟩

/-! ### The safe runs and their invariant -/

/-- What the safe runs ask of each event beyond `Tidy`: an open only while the
tracking VFS is registered, and, through a file with a tracker, bounded marks
with the page size `g_state` records. -/
def SafeCall (s : Sys) : Event → Prop
  | .xOpen .. => VfsRef.tracking ∈ s.vfsList
  | .xWrite h iAmt iOfst rc _ => ∀ a, (s.handles h).pTracker = some a → rc = SQLITE_OK →
    Bounded s.gState.defaultPageSize iOfst iAmt
  | .xTruncate h size rc _ => ∀ a, (s.handles h).pTracker = some a → rc = SQLITE_OK →
    Bounded s.gState.defaultPageSize size 1
  | _ => True

/-- The safe runs. -/
def Safe (s : Sys) (e : Event) : Prop := Tidy s e ∧ SafeCall s e

/-- Every tracker fits, every tracker on the list has the default page size,
which is positive once the tracking VFS has a base VFS and while a file is
open, and the tracking VFS is registered only once it has a base VFS. -/
structure Fit (s : Sys) : Prop where
  trackers : ∀ a t, s.heap a = some t → t.Fits
  pageSize : ∀ a ∈ s.gState.files, ∀ t, s.heap a = some t →
    t.pageSize = s.gState.defaultPageSize
  appData : s.trackingVfs.pAppData.isSome → 0 < s.gState.defaultPageSize
  registered : VfsRef.tracking ∈ s.vfsList → s.trackingVfs.pAppData.isSome
  opened : ∀ h, (s.handles h).pMethods = true → 0 < s.gState.defaultPageSize

namespace Fit

variable {s : Sys}

theorem start (host : List BaseVfs) : Fit (Sys.start host) :=
  ⟨(fun _ _ h => by cases h), (fun _ h => by cases h), (fun h => by cases h),
    (fun h => by simp [Sys.start] at h), fun _ h => by cases h⟩

/-- A tracker written with one that fits and keeps its page size. -/
theorem setTracker (hs : Fit s) {a : Nat} {t t' : FileTracker} (ht : s.heap a = some t)
    (hf : t'.Fits) (hps : t'.pageSize = t.pageSize) : Fit (s.setTracker a t') := by
  refine ⟨fun b u hb => ?_, fun b hb u hu => ?_, hs.appData, hs.registered, hs.opened⟩
  · by_cases hba : b = a
    · subst hba
      simp only [Sys.setTracker_heap_same, Option.some.injEq] at hb
      exact hb ▸ hf
    · exact hs.trackers b u (by rwa [Sys.setTracker_heap_ne _ _ hba] at hb)
  · by_cases hba : b = a
    · subst hba
      simp only [Sys.setTracker_heap_same, Option.some.injEq] at hu
      rw [← hu, hps]
      exact hs.pageSize b hb t ht
    · exact hs.pageSize b hb u (by rwa [Sys.setTracker_heap_ne _ _ hba] at hu)

theorem setIsOpen (hs : Fit s) {a : Nat} {t : FileTracker} (ht : s.heap a = some t) (b : Bool) :
    Fit (s.setTracker a { t with isOpen := b }) :=
  let ⟨D, hD, hn⟩ := hs.trackers a t ht
  hs.setTracker ht ⟨D, hD.setIsOpen b, hn⟩ rfl

theorem setHandle (hs : Fit s) (hd : Nat) {f : Handle}
    (hf : f.pMethods = true → 0 < s.gState.defaultPageSize) : Fit (s.setHandle hd f) := by
  refine ⟨hs.trackers, hs.pageSize, hs.appData, hs.registered, fun h hm => ?_⟩
  by_cases hh : h = hd
  · subst hh
    exact hf (by simpa using hm)
  · exact hs.opened h (by rwa [Sys.setHandle_handles_ne _ _ hh] at hm)

/-- A fresh tracker for a name fits and has the default page size. -/
theorem insertFresh (hs : Fit s) (hn : Named s) (m : List Char) : Fit (s.insertFresh m) := by
  have hne : ∀ b ∈ s.gState.files, b ≠ s.nextAddr := fun b hb => Nat.ne_of_lt (hn b hb).1
  refine ⟨fun b u hb => ?_, fun b hb u hu => ?_, hs.appData, hs.registered, hs.opened⟩
  · by_cases hba : b = s.nextAddr
    · subst hba
      simp only [Sys.insertFresh, Sys.setTracker_heap_same, Option.some.injEq] at hb
      exact hb ▸ ⟨∅, FileTracker.holds_empty _ _, by simp⟩
    · exact hs.trackers b u (by simpa [Sys.insertFresh, Sys.setTracker_heap_ne _ _ hba] using hb)
  · simp only [Sys.insertFresh, List.mem_cons] at hb
    rcases hb with rfl | hb
    · simp only [Sys.insertFresh, Sys.setTracker_heap_same, Option.some.injEq] at hu
      rw [← hu]
      rfl
    · exact hs.pageSize b hb u
        (by simpa [Sys.insertFresh, Sys.setTracker_heap_ne _ _ (hne b hb)] using hu)

/-- A lookup whose `strdup` succeeds returns normally, keeps the invariant, and
returns an allocated tracker or none. -/
theorem getFile (hs : Fit s) (hn : Named s) (c : Bool) (name : List Char) :
    ∃ r s1, vfsTrackingGetFile c true s (some name) = .ok (r, s1) ∧ Fit s1 ∧
      s1.trackingVfs = s.trackingVfs ∧ ∀ a, r = some a → (s1.heap a).isSome := by
  rw [getFile_named hn]
  cases hl : lookup s (normalizeName name) with
  | some a =>
    obtain ⟨-, t, ht, -⟩ := hn a (lookup_mem hl).1
    exact ⟨_, _, rfl, hs, rfl, fun b hb => by cases hb; simp [ht]⟩
  | none =>
    cases c
    · exact ⟨_, _, rfl, hs, rfl, fun _ hb => by cases hb⟩
    · exact ⟨_, _, rfl, hs.insertFresh hn _, rfl, fun b hb => by cases hb; simp [Sys.insertFresh]⟩

theorem shutdown (hs : Fit s) : Fit (vfsTrackingShutdown s) :=
  ⟨fun a t ht => hs.trackers a t (shutdown_heap ht), (fun _ h => by cases h), hs.appData,
    fun h => hs.registered (List.mem_of_mem_erase h), hs.opened⟩

/-- Every init keeps the invariant: one that resets the registry records a
positive page size with its base VFS. -/
theorem init (hs : Fit s) (found : Option BaseVfs) (ps : UInt32) (rc : Int) :
    Fit (vfsTrackingInit found ps rc s).2 := by
  unfold vfsTrackingInit
  by_cases hi : s.gState.pRealVfs.isSome
  · simpa only [hi, if_true] using hs
  simp only [hi, Bool.false_eq_true, if_false]
  cases found with
  | none => exact hs
  | some v =>
    have hpos : 0 < if ps.toNat > 0 then ps.toNat else DEFAULT_PAGE_SIZE := by
      split_ifs <;> simp_all [DEFAULT_PAGE_SIZE]
    dsimp only
    by_cases hr : rc = SQLITE_OK <;> [rw [if_pos hr]; rw [if_neg hr]] <;>
      exact ⟨hs.trackers, (fun _ h => by cases h), (fun _ => hpos), (fun _ => rfl), fun _ _ => hpos⟩

/-- The tracker an open file points at is allocated, fits, and has the
positive page size `g_state` records. -/
theorem open_tracker (hs : Fit s) (hA : Anchored s) {hd a : Nat}
    (hm : (s.handles hd).pMethods = true) (hp : (s.handles hd).pTracker = some a) :
    ∃ t, s.heap a = some t ∧ t.Fits ∧ t.pageSize = s.gState.defaultPageSize ∧ 0 < t.pageSize := by
  obtain ⟨name, -, hl⟩ := hA.files hd a hm hp
  have ha := (lookup_mem hl).1
  obtain ⟨-, t, ht, -⟩ := hA.named a ha
  have hps := hs.pageSize a ha t ht
  exact ⟨t, ht, hs.trackers a t ht, hps, hps ▸ hs.opened hd hm⟩

/-! ### One event of a safe run -/

/-- The body of `fileWrite` and `fileTruncate` on an open file returns
normally when its mark is bounded. -/
theorem markOnSuccess (hs : Fit s) (hA : Anchored s) {hd : Nat}
    (hm : (s.handles hd).pMethods = true) {offset amount rc : Int}
    (hb : ∀ a, (s.handles hd).pTracker = some a → rc = SQLITE_OK →
      Bounded s.gState.defaultPageSize offset amount) (alloc : Bool) :
    ∃ s', TrackingVfs.markOnSuccess alloc s hd offset amount rc = .ok (rc, s') ∧ Fit s' := by
  by_cases hrc : rc = SQLITE_OK
  swap
  · exact ⟨s, by simp [TrackingVfs.markOnSuccess, hrc], hs⟩
  cases hp : (s.handles hd).pTracker with
  | none => exact ⟨s, by simp [TrackingVfs.markOnSuccess, hrc, hp], hs⟩
  | some a =>
    obtain ⟨t, ht, hfit, hps, hpos⟩ := hs.open_tracker hA hm hp
    obtain ⟨t', hmk, hfit', hf⟩ := markDirty_fits hfit hpos (hps ▸ hb a hp hrc) alloc
    refine ⟨s.setTracker a t', ?_, hs.setTracker ht hfit' hf.2.1⟩
    simp [TrackingVfs.markOnSuccess, hrc, hp, Sys.updTracker, ht, hmk, bind, Except.bind,
      pure, Except.pure]

theorem getDirtyPages (hs : Fit s) (hn : Named s) (n : Option (List Char)) (c m : Bool) :
    ∃ s', step s (.getDirtyPages n c true m) = .ok s' ∧ Fit s' := by
  cases n with
  | none => exact ⟨s, rfl, hs⟩
  | some name =>
    obtain ⟨r, s1, hg, hs1, -, hr⟩ := hs.getFile hn c name
    refine ⟨s1, ?_, hs1⟩
    cases r with
    | none => simp [step, vfsTrackingGetDirtyPages, hg, bind, Except.bind, pure, Except.pure]
    | some a =>
      obtain ⟨t, ht⟩ := Option.isSome_iff_exists.mp (hr a rfl)
      obtain ⟨D, hD, htot⟩ := hs1.trackers a t ht
      obtain ⟨q, hq⟩ := dirtyPagesOf_ok hD htot m
      simp [step, vfsTrackingGetDirtyPages, hg, ht, hq, bind, Except.bind, pure, Except.pure]

theorem resetDirty (hs : Fit s) (hn : Named s) (n : Option (List Char)) (c : Bool) :
    ∃ s', step s (.resetDirty n c true) = .ok s' ∧ Fit s' := by
  cases n with
  | none => exact ⟨s, rfl, hs⟩
  | some name =>
    obtain ⟨r, s1, hg, hs1, -, hr⟩ := hs.getFile hn c name
    cases r with
    | none =>
      exact ⟨s1, by simp [step, vfsTrackingResetDirty, hg, bind, Except.bind, pure, Except.pure],
        hs1⟩
    | some a =>
      obtain ⟨t, ht⟩ := Option.isSome_iff_exists.mp (hr a rfl)
      cases hb : t.dirtyBitmap with
      | none =>
        exact ⟨s1, by simp [step, vfsTrackingResetDirty, hg, ht, hb, bind, Except.bind, pure,
          Except.pure], hs1⟩
      | some ws =>
        obtain ⟨t', hc, hfit, hf⟩ := clearBitmap_fits (hs1.trackers a t ht) hb
        exact ⟨s1.setTracker a t', by simp [step, vfsTrackingResetDirty, hg, ht, hb, hc, bind,
          Except.bind, pure, Except.pure], hs1.setTracker ht hfit hf.2.1⟩

theorem xOpen (hs : Fit s) (hn : Named s) (hreg : VfsRef.tracking ∈ s.vfsList) (hd : Nat)
    (zName : Option (List Char)) (rc : Int) (c : Bool) :
    ∃ s', step s (.xOpen hd zName rc c true) = .ok s' ∧ Fit s' := by
  obtain ⟨v, hv⟩ := Option.isSome_iff_exists.mp (hs.registered hreg)
  have hpos := hs.appData (by simp [hv])
  by_cases hrc : rc = SQLITE_OK
  swap
  · exact ⟨s, by simp [step, trackingOpen, hv, hrc, bind, Except.bind, pure, Except.pure], hs⟩
  cases zName with
  | none =>
    exact ⟨s.setHandle hd ⟨true, none, none⟩, by simp [step, trackingOpen, hv, hrc, bind,
      Except.bind, pure, Except.pure], hs.setHandle hd fun _ => hpos⟩
  | some name =>
    obtain ⟨r, s1, hg, hs1, hv1, hr⟩ := hs.getFile hn c name
    have hpos1 : 0 < s1.gState.defaultPageSize := hs1.appData (by simp [hv1, hv])
    cases r with
    | none =>
      exact ⟨s1.setHandle hd ⟨true, none, some name⟩, by simp [step, trackingOpen, hv, hrc, hg,
        bind, Except.bind, pure, Except.pure], hs1.setHandle hd fun _ => hpos1⟩
    | some a =>
      obtain ⟨t, ht⟩ := Option.isSome_iff_exists.mp (hr a rfl)
      exact ⟨(s1.setTracker a { t with isOpen := true }).setHandle hd ⟨true, some a, some name⟩,
        by simp [step, trackingOpen, hv, hrc, hg, Sys.setIsOpen_eq ht, bind, Except.bind, pure,
          Except.pure], (hs1.setIsOpen ht true).setHandle hd fun _ => hpos1⟩

theorem xClose (hs : Fit s) (hA : Anchored s) {hd : Nat} (hm : (s.handles hd).pMethods = true)
    (rc : Int) : ∃ s', step s (.xClose hd rc) = .ok s' ∧ Fit s' := by
  cases hp : (s.handles hd).pTracker with
  | none =>
    exact ⟨s.setHandle hd ⟨false, none, none⟩, by simp [step, fileClose, hp, bind, Except.bind,
      pure, Except.pure], hs.setHandle hd fun h => by cases h⟩
  | some a =>
    obtain ⟨t, ht, -⟩ := hs.open_tracker hA hm hp
    exact ⟨(s.setTracker a { t with isOpen := false }).setHandle hd ⟨false, some a, none⟩,
      by simp [step, fileClose, hp, Sys.setIsOpen_eq ht, bind, Except.bind, pure, Except.pure],
      (hs.setIsOpen ht false).setHandle hd fun h => by cases h⟩

/-- **A safe event from an anchored state that fits returns normally**, and
keeps it fitting. -/
theorem step_ok (hs : Fit s) (hA : Anchored s) {e : Event} (hl : engineLegal s e = true)
    (hg : Safe s e) : ∃ s', step s e = .ok s' ∧ Fit s' := by
  obtain ⟨ht, hc⟩ := hg
  cases e with
  | init found ps rc => exact ⟨_, rfl, hs.init found ps rc⟩
  | shutdown => exact ⟨_, rfl, hs.shutdown⟩
  | getDirtyPages n c d m =>
    cases (ht : d = true)
    exact hs.getDirtyPages hA.named n c m
  | resetDirty n c d =>
    cases (ht : d = true)
    exact hs.resetDirty hA.named n c
  | xOpen hd zName rc c d =>
    cases (ht : d = true)
    exact hs.xOpen hA.named hc hd zName rc c
  | xClose hd rc => exact hs.xClose hA (by simpa [engineLegal] using hl) rc
  | xWrite _ _ _ _ alloc | xTruncate _ _ _ alloc =>
    obtain ⟨s', hw, hs'⟩ := hs.markOnSuccess hA (by simpa [engineLegal] using hl) hc alloc
    exact ⟨s', by simp [step, fileWrite, fileTruncate, hw, bind, Except.bind, pure, Except.pure],
      hs'⟩

end Fit

/-! ### Safe runs -/

theorem fit_reach {host : List BaseVfs} {s : Sys} (hr : Reach host Safe s) :
    Anchored s ∧ Fit s := by
  induction hr with
  | start => exact ⟨.of_empty rfl fun _ => rfl, .start _⟩
  | step _ hl hg h ih =>
    obtain ⟨s'', h', hf⟩ := ih.2.step_ok ih.1 hl hg
    rw [h] at h'
    cases h'
    exact ⟨ih.1.step hl hg.1 h, hf⟩

/-- **The trackers of a safe run are well formed.** In every safe run, whatever
the allocations and the backend return, every tracker's block has
`bitmapSize` words, covers its fewer than `2 ^ 30` pages and has no bit set at
or past them, and every tracker on the list has the page size `g_state`
records. -/
theorem safe_trackers {host : List BaseVfs} {s : Sys} (hr : Reach host Safe s) :
    (∀ a t, s.heap a = some t → ∃ D, t.Holds D ∧ t.totalPages < 2 ^ 30) ∧
      ∀ a ∈ s.gState.files, ∀ t, s.heap a = some t → t.pageSize = s.gState.defaultPageSize :=
  ⟨(fit_reach hr).2.trackers, (fit_reach hr).2.pageSize⟩

/-- After an init with 4096-byte pages, an open of `db` and a write of ten
bytes at `0`, the list holds one tracker, with page `0` set in its bitmap. -/
theorem safe_trackers_db :
    ∃ s t, Reach [] Safe s ∧ s.gState.files = [0] ∧ s.heap 0 = some t ∧
      t.dirtyBitmap = some [1] ∧
      (∀ a t, s.heap a = some t → ∃ D, t.Holds D ∧ t.totalPages < 2 ^ 30) ∧
      ∀ a ∈ s.gState.files, ∀ t, s.heap a = some t → t.pageSize = s.gState.defaultPageSize := by
  have h1 := @Reach.step [] Safe _ _ (.init (some ⟨"memfs".toList, 0, 0, []⟩) 4096 SQLITE_OK)
    .start rfl ⟨fun _ _ _ => rfl, trivial⟩ rfl
  have h2 := @Reach.step [] Safe _ _ (.xOpen 0 (some "db".toList) SQLITE_OK true true) h1 rfl
    ⟨rfl, List.mem_cons_self _ _⟩ rfl
  have h3 := @Reach.step [] Safe _ _ (.xWrite 0 10 0 SQLITE_OK true) h2 rfl
    ⟨trivial, fun _ _ _ => by unfold Bounded; decide⟩ rfl
  exact ⟨_, _, h3, rfl, rfl, rfl, safe_trackers h3⟩

end TrackingVfs
