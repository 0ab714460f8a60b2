/-
# No tracker is used after it is freed

`vfs_tracking_shutdown` is the only call that frees a tracker: it frees every
tracker on the list and empties the list, and leaves the engine's files as
they are. The engine keeps pointers to trackers in its open files
(`pFile->tracker`), so a shutdown while a file is open leaves a dangling
pointer that the file's next write follows (`shutdown_open_file`). An init
that drops the list frees nothing, and a lookup walks only the list.

So in every run that shuts down only while no file is open, in any order of
the other calls (inits with files open included), whatever the allocations
and the backend return, every tracker on the list and every tracker an open
file points at is allocated (`Live`). A use after free comes only from a freed
tracker of one of these two kinds (`step_raises_useAfterFree`), so no event
the engine makes within its contract accesses a freed tracker
(`step_ne_useAfterFree`).

Key definitions: `ClosedShutdown`, `Live`.
Key theorems: `Live.step`, `Live.reach`, `step_ne_useAfterFree`.
-/
import TrackingVfs.Faults
import TrackingVfs.Lifecycle

namespace TrackingVfs

/-- The runs that shut down only while no file is open. -/
def ClosedShutdown (s : Sys) (e : Event) : Prop := e = .shutdown → NoOpenFiles s

/-- Every tracker on the list is allocated, and so is every tracker an open
file points at: no dangling pointer. -/
structure Live (s : Sys) : Prop where
  listed : ∀ a ∈ s.gState.files, (s.heap a).isSome
  opened : ∀ h a, (s.handles h).pMethods = true → (s.handles h).pTracker = some a →
    (s.heap a).isSome

/-- A write of a tracker frees nothing. -/
theorem isSome_setTracker {s : Sys} {a b : Nat} (t : FileTracker) (hb : (s.heap b).isSome) :
    ((s.setTracker a t).heap b).isSome := by
  by_cases hba : b = a
  · subst hba
    simp
  · rwa [Sys.setTracker_heap_ne _ _ hba]

namespace Live

variable {s : Sys}

theorem start (host : List BaseVfs) : Live (Sys.start host) :=
  ⟨(fun _ h => by cases h), fun _ _ h => by cases h⟩

theorem setTracker (hs : Live s) (a : Nat) (t : FileTracker) : Live (s.setTracker a t) :=
  ⟨fun b hb => isSome_setTracker t (hs.listed b hb),
    fun h b hm hp => isSome_setTracker t (hs.opened h b hm hp)⟩

/-- A fresh tracker is allocated as it is linked. -/
theorem linkFresh (hs : Live s) (filename : Option (List Char)) : Live (s.linkFresh filename) := by
  refine ⟨fun b hb => ?_, fun h b hm hp => isSome_setTracker _ (hs.opened h b hm hp)⟩
  rcases List.mem_cons.mp hb with rfl | hb
  · simp
  · exact isSome_setTracker _ (hs.listed b hb)

theorem getFile (hs : Live s) {c d : Bool} {n : Option (List Char)} {r : Option Nat} {s1 : Sys}
    (hg : vfsTrackingGetFile c d s n = .ok (r, s1)) : Live s1 := by
  cases n with
  | none => cases hg; exact hs
  | some name =>
    rcases getFile_ok hg with ⟨rfl, -⟩ | ⟨-, rfl⟩
    · exact hs
    · exact hs.linkFresh _

theorem quiet {d : Bool} {s s' : Sys} (hq : Quiet d s s') (hs : Live s) : Live s' := by
  induction hq with
  | refl => exact hs
  | getFile hg _ ih => exact ih (hs.getFile hg)
  | write _ _ _ ih => exact ih (hs.setTracker _ _)

theorem setHandle (hs : Live s) (hd : Nat) {f : Handle}
    (hf : f.pMethods = true → ∀ a, f.pTracker = some a → (s.heap a).isSome) :
    Live (s.setHandle hd f) := by
  refine ⟨hs.listed, fun h a hm hp => ?_⟩
  by_cases hh : h = hd
  · subst hh
    simp only [Sys.setHandle_handles_same] at hm hp
    exact hf hm a hp
  · rw [Sys.setHandle_handles_ne _ _ hh] at hm hp
    exact hs.opened h a hm hp

/-- An init frees nothing: it keeps the list or empties it. -/
theorem init (hs : Live s) (found : Option BaseVfs) (ps : UInt32) (rc : Int) :
    Live (vfsTrackingInit found ps rc s).2 := by
  refine ⟨fun a ha => ?_, fun h a hm hp => ?_⟩
  · rw [vfsTrackingInit_heap]
    rcases vfsTrackingInit_files found ps rc s with he | he <;> rw [he] at ha
    · exact hs.listed a ha
    · cases ha
  · simp only [vfsTrackingInit_heap, vfsTrackingInit_handles] at hm hp ⊢
    exact hs.opened h a hm hp

/-- A shutdown with no file open leaves no dangling pointer. -/
theorem shutdown (hno : NoOpenFiles s) : Live (vfsTrackingShutdown s) :=
  ⟨(fun _ h => by cases h), fun h _ hm _ => absurd hm (by simp [vfsTrackingShutdown, hno h])⟩

/-- **Every event keeps the trackers it can reach allocated**, a shutdown when
no file is open. -/
theorem step (hs : Live s) {e : Event} {s' : Sys} (hl : engineLegal s e = true)
    (hg : ClosedShutdown s e) (h : TrackingVfs.step s e = .ok s') : Live s' := by
  cases e with
  | init found ps rc => cases h; exact hs.init found ps rc
  | shutdown => cases h; exact shutdown (hg rfl)
  | xOpen hd zName rc c d =>
    rcases step_xOpen h with rfl | ⟨-, r, s1, s2, hg1, hm, rfl⟩
    · exact hs
    -- the tracker the open points the file at is allocated after its lookup
    have h1 := hs.getFile hg1
    have h2 : Live s2 ∧ ∀ a, r = some a → (s2.heap a).isSome := by
      rcases hm with ⟨rfl, rfl⟩ | ⟨a, rfl, ho⟩
      · exact ⟨h1, nofun⟩
      · obtain ⟨t, -, rfl⟩ := Sys.setIsOpen_ok ho
        exact ⟨h1.setTracker _ _, fun b hb => by cases hb; simp⟩
    exact h2.1.setHandle hd fun _ => h2.2
  | xClose hd rc =>
    obtain ⟨s1, hm, rfl⟩ := step_xClose h
    have h1 : Live s1 := by
      rcases hm with ⟨-, rfl⟩ | ⟨a, -, ho⟩
      · exact hs
      · obtain ⟨t, -, rfl⟩ := Sys.setIsOpen_ok ho
        exact hs.setTracker _ _
    exact h1.setHandle hd nofun
  | getDirtyPages | resetDirty | xWrite | xTruncate => exact quiet (step_quiet h rfl) hs

/-- In every run whose guard allows a shutdown only while no file is open, no
tracker on the list or pointed at by an open file is freed. -/
theorem reach {host : List BaseVfs} {G : Sys → Event → Prop}
    (hG : ∀ s, G s .shutdown → NoOpenFiles s) (hr : Reach host G s) : Live s := by
  induction hr with
  | start => exact .start _
  | step _ hl hg h ih => exact ih.step hl (fun he => hG _ (he ▸ hg)) h

end Live

/-- **No tracker is used after it is freed.** In every run that shuts down only
while no file is open (the guard `G` of the run may say more), in any order of
the other calls, whatever the allocations and the backend return, the next
event the engine makes within its contract does not access a freed tracker. -/
theorem step_ne_useAfterFree {host : List BaseVfs} {G : Sys → Event → Prop}
    (hG : ∀ s, G s .shutdown → NoOpenFiles s) {s : Sys} (hr : Reach host G s) {e : Event}
    (hl : engineLegal s e = true) : step s e ≠ .error .useAfterFree := by
  have hs := Live.reach hG hr
  refine ((step_raises_useAfterFree hl).mono fun f hf hu => ?_).ne
  rcases hf hu with ⟨a, ha, hn⟩ | ⟨h, a, hm, hp, hn⟩
  · simpa [hn] using hs.listed a ha
  · simpa [hn] using hs.opened h a hm hp

/-- An init, an open of `db`, its close and a shutdown free tracker `0`, which
the closed file still points at; a reopen of `db` walks the empty list and
does not touch it. -/
theorem step_ne_useAfterFree_db :
    ∃ s, Reach [] ClosedShutdown s ∧ (s.handles 0).pTracker = some 0 ∧ s.heap 0 = none ∧
      engineLegal s (.xOpen 0 (some "db".toList) SQLITE_OK true true) = true ∧
      step s (.xOpen 0 (some "db".toList) SQLITE_OK true true) ≠ .error .useAfterFree := by
  have hr := @Reach.step [] ClosedShutdown _ _ .shutdown
    (@Reach.step [] ClosedShutdown _ _ (.xClose 0 SQLITE_OK)
      (@Reach.step [] ClosedShutdown _ _ (.xOpen 0 (some "db".toList) SQLITE_OK true true)
        (@Reach.step [] ClosedShutdown _ _ (.init (some ⟨"memfs".toList, 0, 0, []⟩) 4096 SQLITE_OK)
          .start rfl nofun rfl) rfl nofun rfl) rfl nofun rfl)
    rfl (fun _ h => by cases h <;> rfl) rfl
  exact ⟨_, hr, rfl, rfl, rfl, step_ne_useAfterFree (fun _ h => h rfl) hr rfl⟩

end TrackingVfs
