/-
# No run divides by zero

`vfs_tracking_mark_dirty` divides the offset by `tracker->pageSize`, which
`vfs_tracking_get_file` copies from `g_state.defaultPageSize`, and that is `0`
until the first init that finds its base VFS. Such an init replaces a page size
of `0` by `DEFAULT_PAGE_SIZE` and drops the list, with any tracker of page size
`0` that a query made before it; and no file opens before it, since
`trackingOpen` reads the real VFS from `pAppData`. So in every run, in any
order of calls, out of contract too, and whatever the allocations and the
backend return, every tracker a file points at has a positive page size
(`PageSizes`). A division by zero comes only from a file whose tracker has
page size `0` (`step_raises_divByZero`), so no event divides by zero
(`step_ne_divByZero`).

The other faults of `Fault` are all reachable: a null dereference
(`getFile_strdup_fails`), a use after free (`shutdown_open_file`), an access
past the block and a loop that cannot end (`write_top_page`).

Key definitions: `PageSizes`.
Key theorems: `PageSizes.step`, `pageSizes_run`, `step_ne_divByZero`.
-/
import TrackingVfs.Faults

namespace TrackingVfs

/-! ### Page sizes over a run -/

/-- A lookup keeps `pAppData` and the default page size, and returns a tracker
of the list it leaves. -/
theorem getFile_listed {c d : Bool} {s s1 : Sys} {name : List Char} {r : Option Nat}
    (hg : vfsTrackingGetFile c d s (some name) = .ok (r, s1)) :
    s1.trackingVfs = s.trackingVfs ∧ s1.gState.defaultPageSize = s.gState.defaultPageSize ∧
      ∀ a, r = some a → a ∈ s1.gState.files := by
  rcases getFile_ok hg with ⟨rfl, hf⟩ | ⟨rfl, rfl⟩
  · exact ⟨rfl, rfl, fun a ha => (hf a ha).1⟩
  · exact ⟨rfl, rfl, fun a ha => by cases ha; exact List.mem_cons_self _ _⟩

/-- Every tracker on the list has the page size `g_state` records; it is
positive once `pAppData` is set, and no file points at a tracker before; and
every tracker a file points at has a positive page size. -/
structure PageSizes (s : Sys) : Prop where
  listed : ∀ a ∈ s.gState.files, ∀ t, s.heap a = some t → t.pageSize = s.gState.defaultPageSize
  appData : s.trackingVfs.pAppData.isSome → 0 < s.gState.defaultPageSize
  unset : s.trackingVfs.pAppData = none → ∀ h, (s.handles h).pTracker = none
  handles : ∀ h a t, (s.handles h).pTracker = some a → s.heap a = some t → 0 < t.pageSize

namespace PageSizes

variable {s : Sys}

theorem start (host : List BaseVfs) : PageSizes (Sys.start host) :=
  ⟨(fun _ h => by cases h), (fun h => by cases h), (fun _ _ => rfl), fun _ _ _ h => by cases h⟩

/-- A tracker written with one of the same page size. -/
theorem setTracker (hs : PageSizes s) {a : Nat} {t t' : FileTracker} (ht : s.heap a = some t)
    (hps : t'.pageSize = t.pageSize) : PageSizes (s.setTracker a t') := by
  -- the tracker at `b` after the write has the page size the one before had
  have hb : ∀ b u, (s.setTracker a t').heap b = some u → ∃ u0, s.heap b = some u0 ∧
      u.pageSize = u0.pageSize := by
    intro b u hu
    by_cases hba : b = a
    · subst hba
      rw [Sys.setTracker_heap_same, Option.some.injEq] at hu
      exact ⟨t, ht, hu ▸ hps⟩
    · exact ⟨u, by rwa [Sys.setTracker_heap_ne _ _ hba] at hu, rfl⟩
  refine ⟨fun b hb' u hu => ?_, hs.appData, hs.unset, fun h b u hp hu => ?_⟩
  · obtain ⟨u0, hu0, he⟩ := hb b u hu
    exact he.trans (hs.listed b hb' u0 hu0)
  · obtain ⟨u0, hu0, he⟩ := hb b u hu
    exact he ▸ hs.handles h b u0 hp hu0

/-- A fresh tracker has the page size `g_state` records. -/
theorem linkFresh (hs : PageSizes s) (filename : Option (List Char)) :
    PageSizes (s.linkFresh filename) := by
  refine ⟨fun b hb u hu => ?_, hs.appData, hs.unset, fun h b u hp hu => ?_⟩
  · by_cases hba : b = s.nextAddr
    · subst hba
      simp only [Sys.linkFresh_heap, Sys.setTracker_heap_same, Option.some.injEq] at hu
      exact hu ▸ rfl
    · simp only [Sys.linkFresh_heap, Sys.setTracker_heap_ne _ _ hba] at hu
      exact hs.listed b ((List.mem_cons.mp hb).resolve_left hba) u hu
  · by_cases hba : b = s.nextAddr
    · subst hba
      simp only [Sys.linkFresh_heap, Sys.setTracker_heap_same, Option.some.injEq] at hu
      -- a file points at the fresh address, so the base VFS is set
      cases hv : s.trackingVfs.pAppData with
      | none => simp [hs.unset hv h] at hp
      | some v => exact hu ▸ hs.appData (by simp [hv])
    · simp only [Sys.linkFresh_heap, Sys.setTracker_heap_ne _ _ hba] at hu
      exact hs.handles h b u hp hu

theorem getFile (hs : PageSizes s) {c d : Bool} {n : Option (List Char)} {r : Option Nat}
    {s1 : Sys} (hg : vfsTrackingGetFile c d s n = .ok (r, s1)) : PageSizes s1 := by
  cases n with
  | none => cases hg; exact hs
  | some name =>
    rcases getFile_ok hg with ⟨rfl, -⟩ | ⟨-, rfl⟩
    · exact hs
    · exact hs.linkFresh _

theorem quiet {d : Bool} {s s' : Sys} (hq : Quiet d s s') (hs : PageSizes s) : PageSizes s' := by
  induction hq with
  | refl => exact hs
  | getFile hg _ ih => exact ih (hs.getFile hg)
  | write ht hf _ ih => exact ih (hs.setTracker ht hf.2.1)

theorem setIsOpen (hs : PageSizes s) {a : Nat} {b : Bool} {s' : Sys}
    (h : s.setIsOpen a b = .ok s') : PageSizes s' := by
  obtain ⟨t, ht, rfl⟩ := Sys.setIsOpen_ok h
  exact hs.setTracker ht rfl

theorem setHandle (hs : PageSizes s) (hd : Nat) {f : Handle}
    (hu : s.trackingVfs.pAppData = none → f.pTracker = none)
    (hf : ∀ a t, f.pTracker = some a → s.heap a = some t → 0 < t.pageSize) :
    PageSizes (s.setHandle hd f) := by
  refine ⟨hs.listed, hs.appData, fun hv h => ?_, fun h a t hp ht => ?_⟩ <;>
    by_cases hh : h = hd
  · subst hh
    simpa using hu hv
  · simpa [Sys.setHandle_handles_ne _ _ hh] using hs.unset hv h
  · subst hh
    exact hf a t (by simpa using hp) ht
  · exact hs.handles h a t (by rwa [Sys.setHandle_handles_ne _ _ hh] at hp) ht

theorem init (hs : PageSizes s) (found : Option BaseVfs) (ps : UInt32) (rc : Int) :
    PageSizes (vfsTrackingInit found ps rc s).2 := by
  unfold vfsTrackingInit
  by_cases hi : s.gState.pRealVfs.isSome
  · simpa only [hi, if_true] using hs
  simp only [hi, Bool.false_eq_true, if_false]
  cases found with
  | none => exact hs
  | some v =>
    have hpos : 0 < if ps.toNat > 0 then ps.toNat else DEFAULT_PAGE_SIZE := by
      split_ifs <;> simp_all [DEFAULT_PAGE_SIZE]
    dsimp only
    by_cases hr : rc = SQLITE_OK <;> [rw [if_pos hr]; rw [if_neg hr]] <;>
      exact ⟨(fun _ h => by cases h), (fun _ => hpos), (fun h => by cases h),
        fun h a t hp ht => hs.handles h a t hp ht⟩

theorem shutdown (hs : PageSizes s) : PageSizes (vfsTrackingShutdown s) :=
  ⟨(fun _ h => by cases h), hs.appData, hs.unset,
    fun h a t hp ht => hs.handles h a t hp (shutdown_heap ht)⟩

/-- **Every event keeps the page sizes.** -/
theorem step (hs : PageSizes s) {e : Event} {s' : Sys} (h : TrackingVfs.step s e = .ok s') :
    PageSizes s' := by
  cases e with
  | init found ps rc => cases h; exact hs.init found ps rc
  | shutdown => cases h; exact hs.shutdown
  | xOpen hd zName rc c d =>
    rcases step_xOpen h with rfl | ⟨-, r, s1, s2, hg, hm, rfl⟩
    · exact hs
    -- the open went through `pAppData`, so the page size is positive
    have hv : s.trackingVfs.pAppData.isSome := by
      cases hv : s.trackingVfs.pAppData with
      | none => simp [TrackingVfs.step, trackingOpen, hv, bind, Except.bind] at h
      | some v => rfl
    obtain ⟨h1, hv1, hps1, hl1⟩ : PageSizes s1 ∧ s1.trackingVfs = s.trackingVfs ∧
        s1.gState.defaultPageSize = s.gState.defaultPageSize ∧
        ∀ a, r = some a → a ∈ s1.gState.files := by
      cases zName with
      | none => cases hg; exact ⟨hs, rfl, rfl, nofun⟩
      | some name => exact ⟨hs.getFile hg, getFile_listed hg⟩
    have hset : s1.trackingVfs.pAppData = none → False := fun hn => by
      rw [hv1] at hn
      simp [hn] at hv
    rcases hm with ⟨rfl, rfl⟩ | ⟨a, rfl, ho⟩
    · exact h1.setHandle hd (fun _ => rfl) nofun
    · obtain ⟨t, ht, rfl⟩ := Sys.setIsOpen_ok ho
      refine (h1.setTracker ht (show ({ t with isOpen := true } : FileTracker).pageSize =
        t.pageSize from rfl)).setHandle hd (fun hn => (hset hn).elim) fun b u hb hu => ?_
      cases hb
      rw [Sys.setTracker_heap_same, Option.some.injEq] at hu
      rw [← hu, h1.listed a (hl1 a rfl) t ht, hps1]
      exact hs.appData hv
  | xClose hd rc =>
    obtain ⟨s1, hm, rfl⟩ := step_xClose h
    rcases hm with ⟨hp, rfl⟩ | ⟨a, hp, ho⟩
    · exact hs.setHandle hd (fun _ => hp) fun _ _ h => by simp [hp] at h
    · have h1 := hs.setIsOpen ho
      obtain ⟨t, ht, rfl⟩ := Sys.setIsOpen_ok ho
      exact h1.setHandle hd (fun hv => absurd hp (by simp [hs.unset hv hd]))
        fun b u hb hu => by
          rw [hp, Option.some.injEq] at hb
          subst hb
          simp only [Sys.setTracker_heap_same, Option.some.injEq] at hu
          exact hu ▸ hs.handles hd _ t hp ht
  | getDirtyPages | resetDirty | xWrite | xTruncate => exact quiet (step_quiet h rfl) hs

end PageSizes

/-- Every run keeps the page sizes. -/
theorem pageSizes_run : ∀ {s s' : Sys} (es : List Event), PageSizes s → run s es = .ok s' →
    PageSizes s' :=
  fun es hs => run_preserves (fun hs (_ : True) h => hs.step h) es hs fun _ _ => trivial

/-! ### No event divides by zero -/

/-- **No run divides by zero.** After every run from process start, in any
order of calls, in the engine's contract or not, and whatever the allocations
and the backend return, the next event, whichever it is, does not divide by
zero: every tracker a file points at has a positive page size. -/
theorem step_ne_divByZero {host : List BaseVfs} {es : List Event} {s : Sys}
    (hr : run (Sys.start host) es = .ok s) (e : Event) : step s e ≠ .error .divByZero := by
  refine ((step_raises_divByZero s e).mono fun f hf hd => ?_).ne
  obtain ⟨h, a, t, hp, ht, h0⟩ := hf hd
  exact absurd h0 ((pageSizes_run es (.start host) hr).handles h a t hp ht).ne'

/-- A query of `db` before any init links a tracker of page size `0`, and a
close of a file that was never opened changes nothing; an init with page size
`0` then drops the tracker and records `DEFAULT_PAGE_SIZE`; after an open of
`db`, a write does not divide by zero. -/
theorem step_ne_divByZero_db :
    ∃ s, run (Sys.start []) [.getDirtyPages (some "db".toList) true true true,
        .xClose 2 SQLITE_OK, .init (some ⟨"memfs".toList, 0, 0, []⟩) 0 SQLITE_OK,
        .xOpen 0 (some "db".toList) SQLITE_OK true true] = .ok s ∧
      s.gState.defaultPageSize = DEFAULT_PAGE_SIZE ∧
      step s (.xWrite 0 10 0 SQLITE_OK true) ≠ .error .divByZero :=
  (fun hr => ⟨_, hr, by rfl, step_ne_divByZero hr _⟩) rfl

end TrackingVfs
