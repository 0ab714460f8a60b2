/-
# Which trackers a shutdown frees

The list `g_state.files` owns the trackers: `vfs_tracking_get_file` links each
tracker it allocates at its head, and `vfs_tracking_shutdown` frees the trackers
on it. `vfs_tracking_init` does not free: when uninitialised it sets
`g_state.files = NULL`, so a tracker that a lookup linked while the module was
uninitialised (a query, a reset or an open before the first init, or after a
shutdown) is dropped and never freed.

So in every run that looks no name up while uninitialised, every allocated
tracker is on the list and a shutdown frees them all (`shutdown_frees_all`).
Without that condition a tracker can leave the list while allocated, and from
then on no call frees it or links it again (`leak_permanent`): a query of `db`
before the first init leaks its tracker for good.

Key definitions: `InitFirst`, `Owned`, `Leaked`.
Key theorems: `Owned.step`, `shutdown_frees_all`, `Leaked.step`, `leak_permanent`.
-/
import TrackingVfs.Lifetime

namespace TrackingVfs

/-- The runs that look no name up while uninitialised: a query, a reset or an
open only after an init that found its base VFS and before any shutdown. -/
def InitFirst (s : Sys) : Event → Prop
  | .getDirtyPages .. | .resetDirty .. | .xOpen .. => s.gState.pRealVfs.isSome
  | _ => True

/-! ### The list owns every tracker -/

/-- Every allocated tracker is on the list, and the list is empty while
uninitialised. -/
structure Owned (s : Sys) : Prop where
  listed : ∀ a, (s.heap a).isSome → a ∈ s.gState.files
  uninit : s.gState.pRealVfs = none → s.gState.files = []

namespace Owned

variable {s : Sys}

theorem start (host : List BaseVfs) : Owned (Sys.start host) :=
  ⟨(fun _ h => by cases h), fun _ => rfl⟩

/-- A write of an allocated tracker. -/
theorem setTracker (hs : Owned s) {a : Nat} (ha : (s.heap a).isSome) (t : FileTracker) :
    Owned (s.setTracker a t) := by
  refine ⟨fun b hb => ?_, hs.uninit⟩
  by_cases hba : b = a
  · exact hba ▸ hs.listed a ha
  · rw [Sys.setTracker_heap_ne _ _ hba] at hb
    exact hs.listed b hb

theorem setHandle (hs : Owned s) (hd : Nat) (f : Handle) : Owned (s.setHandle hd f) :=
  ⟨hs.listed, hs.uninit⟩

/-- A lookup while initialised links what it allocates. -/
theorem getFile (hs : Owned s) (hi : s.gState.pRealVfs.isSome) {c d : Bool}
    {n : Option (List Char)} {r : Option Nat} {s1 : Sys}
    (hg : vfsTrackingGetFile c d s n = .ok (r, s1)) :
    Owned s1 ∧ s1.gState.pRealVfs = s.gState.pRealVfs := by
  cases n with
  | none => cases hg; exact ⟨hs, rfl⟩
  | some name =>
    rcases getFile_ok hg with ⟨rfl, -⟩ | ⟨-, rfl⟩
    · exact ⟨hs, rfl⟩
    refine ⟨⟨fun b hb => ?_, fun hn => by rw [show s.gState.pRealVfs = none from hn] at hi; cases hi⟩,
      rfl⟩
    by_cases hba : b = s.nextAddr
    · exact hba ▸ List.mem_cons_self _ _
    · simp only [Sys.linkFresh_heap, Sys.setTracker_heap_ne _ _ hba] at hb
      exact List.mem_cons_of_mem _ (hs.listed b hb)

theorem quiet {d : Bool} {s s' : Sys} (hq : Quiet d s s') (hs : Owned s)
    (hi : s.gState.pRealVfs.isSome) : Owned s' := by
  induction hq with
  | refl => exact hs
  | getFile hg _ ih =>
    obtain ⟨h1, he⟩ := hs.getFile hi hg
    exact ih h1 (he ▸ hi)
  | write ht _ _ ih => exact ih (hs.setTracker (by simp [ht]) _) hi

/-- An init drops the list only while uninitialised, when it is empty. -/
theorem init (hs : Owned s) (found : Option BaseVfs) (ps : UInt32) (rc : Int) :
    Owned (vfsTrackingInit found ps rc s).2 := by
  unfold vfsTrackingInit
  by_cases hi : s.gState.pRealVfs.isSome
  · simpa only [hi, if_true] using hs
  simp only [hi, Bool.false_eq_true, if_false]
  cases found with
  | none => exact hs
  | some v =>
    -- uninitialised, so nothing is allocated
    have he := hs.uninit (Option.not_isSome_iff_eq_none.mp hi)
    dsimp only
    split_ifs <;> exact ⟨fun a ha => by simpa [he] using hs.listed a ha, fun h => by cases h⟩

/-- A shutdown frees every tracker on the list, so every tracker. -/
theorem shutdown_heap_none (hs : Owned s) (a : Nat) : (vfsTrackingShutdown s).heap a = none := by
  simp only [vfsTrackingShutdown]
  split_ifs with ha
  · rfl
  · cases h : s.heap a
    · rfl
    · exact absurd (hs.listed a (by simp [h])) ha

theorem shutdown (hs : Owned s) : Owned (vfsTrackingShutdown s) :=
  ⟨fun a ha => by simp [hs.shutdown_heap_none a] at ha, fun _ => rfl⟩

/-- **Every event of a run that looks no name up while uninitialised keeps the
list owning every tracker.** -/
theorem step (hs : Owned s) {e : Event} {s' : Sys} (hg : InitFirst s e)
    (h : TrackingVfs.step s e = .ok s') : Owned s' := by
  cases e with
  | init found ps rc => cases h; exact hs.init found ps rc
  | shutdown => cases h; exact hs.shutdown
  | getDirtyPages | resetDirty => exact quiet (step_quiet h rfl) hs hg
  | xOpen hd zName rc c d =>
    rcases step_xOpen h with rfl | ⟨-, r, s1, s2, hg1, hm, rfl⟩
    · exact hs
    have h1 := (hs.getFile hg hg1).1
    rcases hm with ⟨-, rfl⟩ | ⟨a, -, ho⟩
    · exact h1.setHandle _ _
    · obtain ⟨t, ht, rfl⟩ := Sys.setIsOpen_ok ho
      exact (h1.setTracker (by simp [ht]) _).setHandle _ _
  | xClose hd rc =>
    obtain ⟨s1, hm, rfl⟩ := step_xClose h
    rcases hm with ⟨-, rfl⟩ | ⟨a, -, ho⟩
    · exact hs.setHandle _ _
    · obtain ⟨t, ht, rfl⟩ := Sys.setIsOpen_ok ho
      exact (hs.setTracker (by simp [ht]) _).setHandle _ _
  | xWrite | xTruncate =>
    obtain ⟨⟨rc', s1⟩, hm, hs'⟩ := bind_eq_ok.mp h
    cases hs'
    rcases markOnSuccess_ok hm with rfl | ⟨a, t, t', -, ht, -, rfl⟩
    · exact hs
    · exact hs.setTracker (by simp [ht]) _

theorem reach {host : List BaseVfs} {G : Sys → Event → Prop}
    (hG : ∀ s e, G s e → InitFirst s e) (hr : Reach host G s) : Owned s := by
  induction hr with
  | start => exact .start _
  | step _ _ hg h ih => exact ih.step (hG _ _ hg) h

end Owned

/-- **A shutdown frees every tracker.** In every run that looks no name up
while uninitialised (the guard `G` of the run may say more), whatever the
allocations and the backend return and in any order of the calls, every
allocated tracker is on the list, and `vfs_tracking_shutdown` frees them all. -/
theorem shutdown_frees_all {host : List BaseVfs} {G : Sys → Event → Prop}
    (hG : ∀ s e, G s e → InitFirst s e) {s : Sys} (hr : Reach host G s) :
    (∀ a, (s.heap a).isSome → a ∈ s.gState.files) ∧
      ∀ a, (vfsTrackingShutdown s).heap a = none :=
  have hs := Owned.reach hG hr
  ⟨hs.listed, hs.shutdown_heap_none⟩

/-- An init, an open of `db`, a write and a close, then a shutdown: no tracker
is left. -/
theorem shutdown_frees_all_db :
    ∃ s, Reach [] InitFirst s ∧ (s.heap 0).isSome ∧
      ((∀ a, (s.heap a).isSome → a ∈ s.gState.files) ∧
        ∀ a, (vfsTrackingShutdown s).heap a = none) := by
  have hr := @Reach.step [] InitFirst _ _ (.xClose 0 SQLITE_OK)
    (@Reach.step [] InitFirst _ _ (.xWrite 0 10 0 SQLITE_OK true)
      (@Reach.step [] InitFirst _ _ (.xOpen 0 (some "db".toList) SQLITE_OK true true)
        (@Reach.step [] InitFirst _ _ (.init (some ⟨"memfs".toList, 0, 0, []⟩) 4096 SQLITE_OK)
          .start rfl trivial rfl) rfl rfl rfl) rfl trivial rfl) rfl trivial rfl
  exact ⟨_, hr, rfl, shutdown_frees_all (fun _ _ h => h) hr⟩

/-! ### A dropped tracker is never freed -/

/-- Tracker `a` is allocated, off the list, and below the allocation frontier:
no lookup finds it and no shutdown frees it. -/
structure Leaked (s : Sys) (a : Nat) : Prop where
  alloc : (s.heap a).isSome
  off : a ∉ s.gState.files
  below : a < s.nextAddr

namespace Leaked

variable {s : Sys} {a : Nat}

theorem setTracker (hs : Leaked s a) (b : Nat) (t : FileTracker) : Leaked (s.setTracker b t) a :=
  ⟨isSome_setTracker t hs.alloc, hs.off, hs.below⟩

theorem setHandle (hs : Leaked s a) (hd : Nat) (f : Handle) : Leaked (s.setHandle hd f) a :=
  ⟨hs.alloc, hs.off, hs.below⟩

/-- A lookup links only a fresh address. -/
theorem getFile (hs : Leaked s a) {c d : Bool} {n : Option (List Char)} {r : Option Nat}
    {s1 : Sys} (hg : vfsTrackingGetFile c d s n = .ok (r, s1)) : Leaked s1 a := by
  cases n with
  | none => cases hg; exact hs
  | some name =>
    rcases getFile_ok hg with ⟨rfl, -⟩ | ⟨-, rfl⟩
    · exact hs
    have hne : a ≠ s.nextAddr := hs.below.ne
    refine ⟨isSome_setTracker _ hs.alloc, ?_, Nat.lt_succ_of_lt hs.below⟩
    simpa [Sys.linkFresh, hne] using hs.off

theorem quiet {d : Bool} {s s' : Sys} (hq : Quiet d s s') (hs : Leaked s a) : Leaked s' a := by
  induction hq with
  | refl => exact hs
  | getFile hg _ ih => exact ih (hs.getFile hg)
  | write _ _ _ ih => exact ih (hs.setTracker _ _)

theorem init (hs : Leaked s a) (found : Option BaseVfs) (ps : UInt32) (rc : Int) :
    Leaked (vfsTrackingInit found ps rc s).2 a := by
  refine ⟨by simpa using hs.alloc, ?_, by simpa using hs.below⟩
  rcases vfsTrackingInit_files found ps rc s with he | he <;> rw [he]
  · exact hs.off
  · exact List.not_mem_nil a

/-- A shutdown frees only the list. -/
theorem shutdown (hs : Leaked s a) : Leaked (vfsTrackingShutdown s) a :=
  ⟨by simpa [vfsTrackingShutdown, hs.off] using hs.alloc, List.not_mem_nil a, hs.below⟩

/-- **No event frees a tracker off the list or links it again.** -/
theorem step (hs : Leaked s a) {e : Event} {s' : Sys} (h : TrackingVfs.step s e = .ok s') :
    Leaked s' a := by
  cases e with
  | init found ps rc => cases h; exact hs.init found ps rc
  | shutdown => cases h; exact hs.shutdown
  | xOpen hd zName rc c d =>
    rcases step_xOpen h with rfl | ⟨-, r, s1, s2, hg1, hm, rfl⟩
    · exact hs
    have h1 := hs.getFile hg1
    rcases hm with ⟨-, rfl⟩ | ⟨b, -, ho⟩
    · exact h1.setHandle _ _
    · obtain ⟨t, -, rfl⟩ := Sys.setIsOpen_ok ho
      exact (h1.setTracker _ _).setHandle _ _
  | xClose hd rc =>
    obtain ⟨s1, hm, rfl⟩ := step_xClose h
    rcases hm with ⟨-, rfl⟩ | ⟨b, -, ho⟩
    · exact hs.setHandle _ _
    · obtain ⟨t, -, rfl⟩ := Sys.setIsOpen_ok ho
      exact (hs.setTracker _ _).setHandle _ _
  | getDirtyPages | resetDirty | xWrite | xTruncate => exact quiet (step_quiet h rfl) hs

theorem run : ∀ {s s' : Sys} (es : List Event), Leaked s a → TrackingVfs.run s es = .ok s' →
    Leaked s' a
  | _, _, [], hs, h => by cases h; exact hs
  | _, _, e :: es, hs, h => by
    rw [TrackingVfs.run] at h
    obtain ⟨s1, h1, hrun⟩ := bind_eq_ok.mp h
    exact run es (hs.step h1) hrun

end Leaked

/-- **A tracker that leaves the list while allocated is leaked for good.** From
any state where tracker `a` is allocated, below `nextAddr` and off the list,
every run of any events, in the engine's contract or not and whatever the
allocations and the backend return, leaves `a` allocated and off the list: no
lookup finds it and no shutdown frees it. -/
theorem leak_permanent {s : Sys} {a : Nat} (ha : (s.heap a).isSome) (hoff : a ∉ s.gState.files)
    (hlt : a < s.nextAddr) :
    ∀ es s', run s es = .ok s' → (s'.heap a).isSome ∧ a ∉ s'.gState.files := fun es _ h =>
  have hl := Leaked.run es ⟨ha, hoff, hlt⟩ h
  ⟨hl.alloc, hl.off⟩

/-- A query of `db` before the first init links tracker `0`, and the init drops
it; an open of `db`, a write, a close and a shutdown then run, and leave it
allocated. -/
theorem leak_permanent_db :
    ∃ s, Reach [] (fun _ _ => True) s ∧ ((s.heap 0).isSome ∧ 0 ∉ s.gState.files ∧ 0 < s.nextAddr) ∧
      (∃ s', run s [.xOpen 0 (some "db".toList) SQLITE_OK true true, .xWrite 0 10 0 SQLITE_OK true,
        .xClose 0 SQLITE_OK, .shutdown] = .ok s') ∧
      ∀ es s', run s es = .ok s' → (s'.heap 0).isSome ∧ 0 ∉ s'.gState.files := by
  have hr := @reach_of_legalRun [] _ _ [.getDirtyPages (some "db".toList) true true true,
    .init (some ⟨"memfs".toList, 0, 0, []⟩) 4096 SQLITE_OK] .start rfl
  exact ⟨_, hr, ⟨rfl, List.not_mem_nil 0, by decide⟩, ⟨_, rfl⟩,
    leak_permanent (by rfl) (by exact List.not_mem_nil 0) (by decide)⟩

end TrackingVfs
