/-
# What the sync layer reads

The sync layer asks `vfs_tracking_get_dirty_pages` which pages of a database
changed, copies those pages, and calls `vfs_tracking_reset_dirty`. In the safe
runs of `Safety` it learns every change the trackers can see:

* `write_reported`: a write that the real file accepted through an open file
  with a tracker, with `realloc` succeeding, is reported page by page by every
  later query of the file's name (with `malloc` succeeding) until that name is
  reset, whatever happens in between but a shutdown or an init. The write marks
  its pages (`markDirty_holds`), the later events keep the marks
  (`run_keepsAt`) and the lookup (`run_keepsLookups`, together
  `run_keeps_page`), and the query of a tracker that fits reports its pages
  (`query_reports`).
* `reset_then_query`: a query right after a reset of the same name reports no
  page, whatever `calloc` and `malloc` return.
* `query_keeps_trackers`, `reset_local`: in every run a query changes no
  tracker that exists and no engine file, and a reset changes no tracker but
  the one its name finds.
* `truncate_marks_one`: a truncation adds exactly the page that holds its new
  end. The pages past the end, which the comment of `fileTruncate` means to
  mark, are not marked.

A write leaves no mark when `realloc` fails (`write_realloc_fails`), or when
the file's open could not get a tracker: those are the gaps. For the second,
`untracked_writes_vanish`: a file opened with no tracker (anonymous, or
`calloc` failed in its lookup) keeps none until it is closed or opened again,
and removing its writes and truncations from any run changes nothing.

Key definitions: `Path`, `Clean`, `Event.marks`, `Event.reopens`.
Key theorems: `write_reported`, `reset_then_query`, `untracked_writes_vanish`.
-/
import TrackingVfs.Safety
import TrackingVfs.Retention

namespace TrackingVfs

open Bitmap

/-! ### Runs between two states -/

/-- The runs from `s` to `s'` whose events keep to the engine's contract and to
the guard `G`. -/
inductive Path (G : Sys → Event → Prop) : Sys → List Event → Sys → Prop
  | nil (s : Sys) : Path G s [] s
  | cons {s s1 s' : Sys} {e : Event} {es : List Event} : engineLegal s e = true → G s e →
      step s e = .ok s1 → Path G s1 es s' → Path G s (e :: es) s'

namespace Path

variable {G : Sys → Event → Prop}

theorem run {s s' : Sys} {es : List Event} (h : Path G s es s') :
    TrackingVfs.run s es = .ok s' := by
  induction h with
  | nil => rfl
  | cons _ _ h1 _ ih => simp [TrackingVfs.run, h1, ih, bind, Except.bind]

theorem reach {host : List BaseVfs} {s s' : Sys} {es : List Event} (h : Path G s es s') :
    Reach host G s → Reach host G s' := by
  induction h with
  | nil => exact id
  | cons hl hg h1 _ ih => exact fun hr => ih (.step hr hl hg h1)

theorem guard {s s' : Sys} {es : List Event} (h : Path G s es s') : ∀ e ∈ es, ∃ x, G x e := by
  induction h with
  | nil => nofun
  | cons _ hg _ _ ih =>
    intro e he
    rcases List.mem_cons.mp he with rfl | he
    · exact ⟨_, hg⟩
    · exact ih e he

end Path

/-- A tidy event's lookups have their `strdup` succeed. -/
theorem strdupOk_of_tidy {x : Sys} {e : Event} (h : Tidy x e) (y : Sys) : StrdupOk y e := by
  cases e <;> first | exact h | trivial

/-! ### Marks on an open file -/

/-- A tracked write or truncation that the real file accepted replaces the
file's tracker with what the mark returned. -/
theorem markOnSuccess_tracked {alloc : Bool} {s : Sys} {hd a : Nat} {t t' : FileTracker}
    {offset amount : Int} (ha : (s.handles hd).pTracker = some a) (ht : s.heap a = some t)
    (hm : vfsTrackingMarkDirty alloc t offset amount = .ok t') :
    markOnSuccess alloc s hd offset amount SQLITE_OK = .ok (SQLITE_OK, s.setTracker a t') := by
  simp [markOnSuccess, ha, Sys.updTracker, ht, hm, bind, Except.bind, pure, Except.pure]

/-- In a safe run, a bounded mark of `amount > 0` bytes on an open file with a
tracker, with `realloc` succeeding, adds exactly its pages to that tracker. -/
theorem safe_mark {host : List BaseVfs} {s : Sys} (hr : Reach host Safe s) {hd a : Nat}
    (hm : (s.handles hd).pMethods = true) (ha : (s.handles hd).pTracker = some a)
    {offset amount : Int} (hamt : 0 < amount)
    (hb : Bounded s.gState.defaultPageSize offset amount) :
    ∃ t D t', s.heap a = some t ∧ t.Holds D ∧ t.pageSize = s.gState.defaultPageSize ∧
      markOnSuccess true s hd offset amount SQLITE_OK = .ok (SQLITE_OK, s.setTracker a t') ∧
      t'.Holds (D ∪ Finset.Icc (offset.toNat / t.pageSize)
        ((offset + amount - 1).toNat / t.pageSize)) ∧ t.Frame t' := by
  obtain ⟨hA, hF⟩ := fit_reach hr
  obtain ⟨t, ht, ⟨D, hD, -⟩, hps, hpos⟩ := hF.open_tracker hA hm ha
  obtain ⟨ho, hmax, hend⟩ := hb hamt
  rw [← hps] at hend
  obtain ⟨t', hmk, ht', -, hf⟩ := markDirty_holds hD ho hamt hpos hmax (by omega)
  exact ⟨t, D, t', ht, hD, hps, markOnSuccess_tracked ha ht hmk, ht', hf⟩

/-- **A truncation marks one page.** In every safe run, a truncation to `size`
that the real file accepted, through a file with a tracker and with `realloc`
succeeding, adds exactly the page that holds byte `size` to the tracker's dirty
pages. The pages past the new end are not marked. -/
theorem truncate_marks_one {host : List BaseVfs} {s s' : Sys} (hr : Reach host Safe s)
    {hd a : Nat} {size : Int} (hl : engineLegal s (.xTruncate hd size SQLITE_OK true) = true)
    (hg : Safe s (.xTruncate hd size SQLITE_OK true)) (ha : (s.handles hd).pTracker = some a)
    (h : step s (.xTruncate hd size SQLITE_OK true) = .ok s') :
    ∃ t D t', s.heap a = some t ∧ t.Holds D ∧ s'.heap a = some t' ∧
      t'.Holds (insert (size.toNat / t.pageSize) D) := by
  obtain ⟨t, D, t', ht, hD, -, hmk, ht', -⟩ :=
    safe_mark hr (by simpa [engineLegal] using hl) ha Int.one_pos (hg.2 a ha rfl)
  have hs : step s (.xTruncate hd size SQLITE_OK true) = .ok (s.setTracker a t') := by
    simp [step, fileTruncate, hmk, bind, Except.bind, pure, Except.pure]
  rw [hs, Except.ok.injEq] at h
  subst h
  refine ⟨t, D, t', ht, hD, Sys.setTracker_heap_same _ _ _, ?_⟩
  rwa [add_sub_cancel_right, Finset.Icc_self, Finset.union_comm, ← Finset.insert_eq] at ht'

/-- A truncation of `db` to `5000` bytes, after an init with 4096-byte pages
and an open of `db`, marks page `1`. -/
theorem truncate_marks_one_db :
    ∃ s s', Reach [] Safe s ∧ engineLegal s (.xTruncate 0 5000 SQLITE_OK true) = true ∧
      Safe s (.xTruncate 0 5000 SQLITE_OK true) ∧ (s.handles 0).pTracker = some 0 ∧
      step s (.xTruncate 0 5000 SQLITE_OK true) = .ok s' ∧
      ∃ t D t', s.heap 0 = some t ∧ t.Holds D ∧ s'.heap 0 = some t' ∧
        t'.Holds (insert ((5000 : Int).toNat / t.pageSize) D) := by
  have h1 := @Reach.step [] Safe _ _ (.init (some ⟨"memfs".toList, 0, 0, []⟩) 4096 SQLITE_OK)
    .start rfl ⟨fun _ _ _ => rfl, trivial⟩ rfl
  have h2 := @Reach.step [] Safe _ _ (.xOpen 0 (some "db".toList) SQLITE_OK true true) h1 rfl
    ⟨rfl, List.mem_cons_self _ _⟩ rfl
  refine ⟨_, _, h2, rfl, ⟨trivial, fun _ _ _ => ?_⟩, rfl, rfl,
    @truncate_marks_one [] _ _ h2 0 0 5000 rfl ⟨trivial, fun _ _ _ => ?_⟩ rfl rfl⟩ <;>
    unfold Bounded <;> decide

/-! ### A write is reported until its name is reset -/

/-- A query of a name whose tracker fits and has page `p` dirty reports `p`. -/
theorem query_reports {s : Sys} (hn : Named s) (hF : Fit s) {name : List Char} {a : Nat}
    (hl : lookup s (normalizeName name) = some a) {t : FileTracker} (ht : s.heap a = some t)
    {p : Nat} (hp : bit t.words p = true) (c : Bool) :
    ∃ k pages, vfsTrackingGetDirtyPages c true true s (some name) true =
      .ok (⟨SQLITE_OK, some (k, some pages)⟩, s) ∧ p ∈ pages := by
  obtain ⟨D, hD, htot⟩ := hF.trackers a t ht
  have hpD : p ∈ D := by simpa [hD.bits] using hp
  exact ⟨D.card, D.sort (· ≤ ·), by simp [vfsTrackingGetDirtyPages, getFile_found hn hl, ht,
    dirtyPagesOf_eq hD htot, Finset.ne_empty_of_mem hpD, bind, Except.bind, pure, Except.pure],
    by simpa using hpD⟩

/-- Along a stretch of a run without a shutdown, an init, a failed `strdup` of
a lookup or a reset of a name normalising to `m`, the tracker that `m` finds is
still found and keeps its dirty pages. -/
theorem run_keeps_page {s s' : Sys} (hn : Named s) {m : List Char} {a : Nat}
    (hl : lookup s m = some a) {es : List Event} (hrun : run s es = .ok s')
    (hes : ∀ e ∈ es, StrdupOk s e ∧ e ≠ .shutdown ∧ ∀ found ps rc, e ≠ .init found ps rc)
    (hres : ∀ m' c d, Event.resetDirty (some m') c d ∈ es → normalizeName m' ≠ m)
    {t : FileTracker} (ht : s.heap a = some t) {p : Nat} (hp : bit t.words p = true) :
    lookup s' m = some a ∧ ∃ t', s'.heap a = some t' ∧ bit t'.words p = true := by
  have hk := run_keepsLookups es hn hrun hes
  have hl' := hk.lookup _ _ hl
  obtain ⟨t', ht', -⟩ := (hk.named a (lookup_mem hl').1).2
  have hka := run_keepsAt es hrun (hn a (lookup_mem hl).1).1 fun m' c d hm hn' =>
    hres m' c d hm (Option.some.inj ((lookup_mem hl).2.symm.trans hn')).symm
  obtain ⟨t0, ht0, -, hbits⟩ := hka t' ht'
  rw [ht, Option.some.injEq] at ht0
  exact ⟨hl', t', ht', hbits p (ht0 ▸ hp)⟩

/-- **No write is lost.** In every safe run, a write of `iAmt > 0` bytes at
`iOfst` that the real file accepted through an open file with a tracker, with
`realloc` succeeding, is reported by every query of a name with the same
normalisation as the file's name, with `malloc` succeeding, at the end of any
later stretch of the run without a shutdown, an init or a reset of that name:
the query returns `SQLITE_OK` and a list of pages that has every page the write
touched. -/
theorem write_reported {host : List BaseVfs} {s s2 : Sys} (hr : Reach host Safe s)
    {hd a : Nat} {name : List Char} (hz : (s.handles hd).zName = some name)
    (ha : (s.handles hd).pTracker = some a) {iAmt iOfst : Int} {es : List Event}
    (hw : Path Safe s (.xWrite hd iAmt iOfst SQLITE_OK true :: es) s2)
    (hsd : ∀ e ∈ es, e ≠ .shutdown ∧ ∀ found ps rc, e ≠ .init found ps rc)
    (hres : ∀ m c d, Event.resetDirty (some m) c d ∈ es → normalizeName m ≠ normalizeName name)
    (hamt : 0 < iAmt) {p : Nat}
    (hp : iOfst.toNat / s.gState.defaultPageSize ≤ p ∧
      p ≤ (iOfst + iAmt - 1).toNat / s.gState.defaultPageSize)
    (n : List Char) (hn : normalizeName n = normalizeName name) (c : Bool) :
    ∃ k pages, vfsTrackingGetDirtyPages c true true s2 (some n) true =
      .ok (⟨SQLITE_OK, some (k, some pages)⟩, s2) ∧ p ∈ pages := by
  obtain _ | ⟨hl, hg, h1, hpath⟩ := hw
  have hm : (s.handles hd).pMethods = true := by simpa [engineLegal] using hl
  -- the write sets the bit of page `p` in tracker `a`
  obtain ⟨t, D, t1, ht, -, hps, hmk, ht1, hf⟩ := safe_mark hr hm ha hamt (hg.2 a ha rfl)
  have hs1 : step s (.xWrite hd iAmt iOfst SQLITE_OK true) = .ok (s.setTracker a t1) := by
    simp [step, fileWrite, hmk, bind, Except.bind, pure, Except.pure]
  rw [hs1, Except.ok.injEq] at h1
  subst h1
  rw [← hps] at hp
  have hbit : bit t1.words p = true := by
    rw [ht1.bits]
    exact decide_eq_true (Finset.mem_union_right _ (Finset.mem_Icc.mpr hp))
  -- after the write the file's name still finds tracker `a`
  obtain ⟨hA, -⟩ := fit_reach hr
  obtain ⟨name0, hz0, hl0⟩ := hA.files hd a hm ha
  rw [hz, Option.some.injEq] at hz0
  subst hz0
  have hname : t1.filename = s.nameAt a := by simp [Sys.nameAt, ht, hf.1]
  -- the rest of the run keeps the lookup and the bit, so the query reports `p`
  obtain ⟨hl2, t2, ht2, hbit2⟩ := run_keeps_page (hA.named.setTracker hname)
    ((lookup_setTracker hname _).trans hl0) hpath.run
    (fun e he => ⟨(hpath.guard e he).elim fun _ hx => strdupOk_of_tidy hx.1 _, hsd e he⟩) hres
    (Sys.setTracker_heap_same _ _ _) hbit
  obtain ⟨hA2, hF2⟩ := fit_reach (hpath.reach (.step hr hl hg hs1))
  exact query_reports hA2.named hF2 (hn ▸ hl2) ht2 hbit2 c

/-- After an init with 4096-byte pages and an open of `db`, a write of ten
bytes at `0`, then a query of `/db`: page `0` is reported. -/
theorem write_reported_db :
    ∃ s s2, Reach [] Safe s ∧ (s.handles 0).zName = some "db".toList ∧
      (s.handles 0).pTracker = some 0 ∧
      Path Safe s [.xWrite 0 10 0 SQLITE_OK true] s2 ∧
      (0 : Int) < 10 ∧ (0 : Int).toNat / s.gState.defaultPageSize ≤ 0 ∧
      0 ≤ (0 + 10 - 1 : Int).toNat / s.gState.defaultPageSize ∧
      normalizeName "/db".toList = normalizeName "db".toList ∧
      ∃ k pages, vfsTrackingGetDirtyPages true true true s2 (some "/db".toList) true =
        .ok (⟨SQLITE_OK, some (k, some pages)⟩, s2) ∧ 0 ∈ pages := by
  have h1 := @Reach.step [] Safe _ _ (.init (some ⟨"memfs".toList, 0, 0, []⟩) 4096 SQLITE_OK)
    .start rfl ⟨fun _ _ _ => rfl, trivial⟩ rfl
  have h2 := @Reach.step [] Safe _ _ (.xOpen 0 (some "db".toList) SQLITE_OK true true) h1 rfl
    ⟨rfl, List.mem_cons_self _ _⟩ rfl
  refine ⟨_, _, h2, rfl, rfl, .cons rfl ⟨trivial, fun _ _ _ => ?_⟩ rfl (.nil _), by decide,
    by decide, by decide, rfl, @write_reported [] _ _ h2 0 0 "db".toList rfl rfl 10 0 []
      (.cons rfl ⟨trivial, fun _ _ _ => ?_⟩ rfl (.nil _)) nofun nofun (by decide) 0
      ⟨by decide, by decide⟩ _ rfl true⟩ <;> unfold Bounded <;> decide

/-! ### A reset, then a query -/

/-- The tracker that name `n` finds, if any, holds no dirty page. -/
def Clean (s : Sys) (n : List Char) : Prop :=
  ∀ a t, lookup s n = some a → s.heap a = some t → t.Holds ∅

/-- A tracker that holds no page and fits reports none, whatever `malloc`
returns. -/
theorem dirtyPagesOf_empty {t : FileTracker} (h : t.Holds ∅) (hn : t.totalPages < 2 ^ 30) :
    ∀ alloc, dirtyPagesOf alloc t = .ok ⟨SQLITE_OK, some (0, none)⟩
  | true => by simpa using dirtyPagesOf_eq h hn
  | false => by
    have hcover : t.totalPages ≤ 32 * t.words.length := h.size ▸ h.cover
    have h0 := dirtyPages_eq_sort h.bits h.below
    unfold dirtyPagesOf
    cases hb : t.dirtyBitmap with
    | none => rfl
    | some ws =>
      rw [show t.words = ws by simp [FileTracker.words, hb]] at hcover h0
      simp [countLoop_eq ws _ hcover, h0, bind, Except.bind]

/-- A query of a name whose tracker is clean reports no page, whatever
`calloc` and `malloc` return. -/
theorem query_clean {s : Sys} (hn : Named s) (hF : Fit s) {name : List Char}
    (hc : Clean s (normalizeName name)) (c m : Bool) :
    ∃ s', vfsTrackingGetDirtyPages c true m s (some name) true =
      .ok (⟨SQLITE_OK, some (0, none)⟩, s') := by
  simp only [vfsTrackingGetDirtyPages, getFile_named hn]
  cases hl : lookup s (normalizeName name) with
  | some a =>
    obtain ⟨-, t, ht, -⟩ := hn a (lookup_mem hl).1
    obtain ⟨D, -, htot⟩ := hF.trackers a t ht
    exact ⟨s, by simp [ht, dirtyPagesOf_empty (hc a t hl ht) htot, bind, Except.bind, pure,
      Except.pure]⟩
  | none =>
    cases c
    · exact ⟨s, by simp [bind, Except.bind, pure, Except.pure]⟩
    · exact ⟨s.insertFresh (normalizeName name), by
        simp [Sys.insertFresh, dirtyPagesOf, bind, Except.bind, pure, Except.pure]⟩

theorem Clean.of_lookup {s : Sys} {n : List Char} {a : Nat} {t : FileTracker}
    (hl : lookup s n = some a) (ht : s.heap a = some t) (h : t.Holds ∅) : Clean s n := by
  intro b u hb hu
  rw [hl, Option.some.injEq] at hb
  subst hb
  rw [ht, Option.some.injEq] at hu
  exact hu ▸ h

theorem Clean.of_none {s : Sys} {n : List Char} (hl : lookup s n = none) : Clean s n :=
  fun _ _ hb => by rw [hl] at hb; cases hb

/-- A reset leaves its name clean. -/
theorem resetDirty_clean {s s' : Sys} (hn : Named s) (hF : Fit s) {c : Bool} {name : List Char}
    {rc : Int} (h : vfsTrackingResetDirty c true s (some name) = .ok (rc, s')) :
    Clean s' (normalizeName name) := by
  simp only [vfsTrackingResetDirty, getFile_named hn] at h
  cases hl : lookup s (normalizeName name) with
  | some a =>
    obtain ⟨-, t, ht, -⟩ := hn a (lookup_mem hl).1
    obtain ⟨D, hD, -⟩ := hF.trackers a t ht
    simp only [hl, bind, Except.bind, ht] at h
    cases hb : t.dirtyBitmap with
    | none =>
      simp only [hb, pure, Except.pure, Except.ok.injEq, Prod.mk.injEq] at h
      obtain ⟨-, rfl⟩ := h
      exact .of_lookup hl ht (hD.eq_empty hb ▸ hD)
    | some ws =>
      obtain ⟨t', hcl, ht', -, hf⟩ := clearBitmap_holds hD hb
      simp only [hb, hcl, pure, Except.pure, Except.ok.injEq, Prod.mk.injEq] at h
      obtain ⟨-, rfl⟩ := h
      exact .of_lookup ((lookup_setTracker (by simp [Sys.nameAt, ht, hf.1]) _).trans hl)
        (Sys.setTracker_heap_same _ _ _) ht'
  | none =>
    cases c
    · simp only [hl, Bool.false_eq_true, if_false, bind, Except.bind, pure, Except.pure,
        Except.ok.injEq, Prod.mk.injEq] at h
      obtain ⟨-, rfl⟩ := h
      exact .of_none hl
    · have hfresh : (s.insertFresh (normalizeName name)).heap s.nextAddr =
          some ⟨some (normalizeName name), none, 0, 0, s.gState.defaultPageSize, false⟩ := by
        simp [Sys.insertFresh]
      simp only [hl, if_true, bind, Except.bind, hfresh, pure, Except.pure, Except.ok.injEq,
        Prod.mk.injEq] at h
      obtain ⟨-, rfl⟩ := h
      exact .of_lookup (by rw [lookup_insertFresh hn, if_pos rfl]) hfresh
        (FileTracker.holds_empty _ _)

/-- **A reset, then a query, reports no page.** In every safe run, a query of a
name right after a reset of the same name returns `SQLITE_OK` and no page,
whatever `calloc` returned to the reset and `calloc` and `malloc` return to the
query. -/
theorem reset_then_query {host : List BaseVfs} {s s1 : Sys} (hr : Reach host Safe s)
    {name : List Char} {c : Bool} (h1 : step s (.resetDirty (some name) c true) = .ok s1)
    (c' m : Bool) :
    ∃ s2, vfsTrackingGetDirtyPages c' true m s1 (some name) true =
      .ok (⟨SQLITE_OK, some (0, none)⟩, s2) := by
  obtain ⟨hA, hF⟩ := fit_reach hr
  obtain ⟨hA1, hF1⟩ := fit_reach
    (@Reach.step host Safe s s1 (.resetDirty (some name) c true) hr rfl ⟨rfl, trivial⟩ h1)
  obtain ⟨⟨rc, s1'⟩, hq, hs⟩ := bind_eq_ok.mp h1
  cases hs
  exact query_clean hA1.named hF1 (resetDirty_clean hA.named hF hq) c' m

/-- After an init, an open of `db` and a write of ten bytes at `0`, a reset of
`db` and then a query of `db` report no page. -/
theorem reset_then_query_db :
    ∃ s s1, Reach [] Safe s ∧ step s (.resetDirty (some "db".toList) true true) = .ok s1 ∧
      ∃ s2, vfsTrackingGetDirtyPages true true true s1 (some "db".toList) true =
        .ok (⟨SQLITE_OK, some (0, none)⟩, s2) := by
  have h1 := @Reach.step [] Safe _ _ (.init (some ⟨"memfs".toList, 0, 0, []⟩) 4096 SQLITE_OK)
    .start rfl ⟨fun _ _ _ => rfl, trivial⟩ rfl
  have h2 := @Reach.step [] Safe _ _ (.xOpen 0 (some "db".toList) SQLITE_OK true true) h1 rfl
    ⟨rfl, List.mem_cons_self _ _⟩ rfl
  have h3 := @Reach.step [] Safe _ _ (.xWrite 0 10 0 SQLITE_OK true) h2 rfl
    ⟨trivial, fun _ _ _ => by unfold Bounded; decide⟩ rfl
  exact ⟨_, _, h3, rfl, @reset_then_query [] _ _ h3 "db".toList true rfl true true⟩

/-! ### Queries and resets are local -/

/-- What the caller of `vfs_tracking_get_dirty_pages` reads: `*pPageCount`
pages at `*ppPages`, strictly ascending, and `NULL` when there are none. -/
def PagesOut (k : Nat) : Option (List Nat) → Prop
  | none => k = 0
  | some l => l.length = k ∧ 0 < k ∧ l.Sorted (· < ·)

/-- The query of a tracker that fits, with `malloc` succeeding. -/
theorem dirtyPagesOf_out {t : FileTracker} (ht : t.Fits) :
    ∃ k pages, dirtyPagesOf true t = .ok ⟨SQLITE_OK, some (k, pages)⟩ ∧ PagesOut k pages := by
  obtain ⟨D, hD, htot⟩ := ht
  refine ⟨_, _, dirtyPagesOf_eq hD htot, ?_⟩
  by_cases h0 : D = ∅
  · simp [h0, PagesOut]
  · simp only [h0, if_false, PagesOut]
    exact ⟨Finset.length_sort _, Finset.card_pos.mpr (Finset.nonempty_iff_ne_empty.mpr h0),
      Finset.sort_sorted_lt D⟩

/-- **The query's answer is well formed.** In every safe run, a query with
`malloc` succeeding returns `SQLITE_OK` and a count `k` with, when `k > 0`, a
strictly ascending list of exactly `k` pages, and `NULL` when `k = 0`, whatever
`calloc` returns. -/
theorem query_well_formed {host : List BaseVfs} {s : Sys} (hr : Reach host Safe s)
    (name : List Char) (c : Bool) :
    ∃ k pages s', vfsTrackingGetDirtyPages c true true s (some name) true =
      .ok (⟨SQLITE_OK, some (k, pages)⟩, s') ∧ PagesOut k pages := by
  obtain ⟨hA, hF⟩ := fit_reach hr
  obtain ⟨r, s1, hg, hF1, -, hr1⟩ := hF.getFile hA.named c name
  cases r with
  | none => exact ⟨0, none, s1, by simp [vfsTrackingGetDirtyPages, hg, bind, Except.bind, pure,
      Except.pure], rfl⟩
  | some a =>
    obtain ⟨t, ht⟩ := Option.isSome_iff_exists.mp (hr1 a rfl)
    obtain ⟨k, pages, hq, hk⟩ := dirtyPagesOf_out (hF1.trackers a t ht)
    exact ⟨k, pages, s1, by simp [vfsTrackingGetDirtyPages, hg, ht, hq, bind, Except.bind, pure,
      Except.pure], hk⟩

/-- After an init, an open of `db` and a write of ten bytes at `0`, the query
of `db` is well formed. -/
theorem query_well_formed_db :
    ∃ s, Reach [] Safe s ∧ ∃ k pages s', vfsTrackingGetDirtyPages true true true s
      (some "db".toList) true = .ok (⟨SQLITE_OK, some (k, pages)⟩, s') ∧ PagesOut k pages := by
  have h1 := @Reach.step [] Safe _ _ (.init (some ⟨"memfs".toList, 0, 0, []⟩) 4096 SQLITE_OK)
    .start rfl ⟨fun _ _ _ => rfl, trivial⟩ rfl
  have h2 := @Reach.step [] Safe _ _ (.xOpen 0 (some "db".toList) SQLITE_OK true true) h1 rfl
    ⟨rfl, List.mem_cons_self _ _⟩ rfl
  have h3 := @Reach.step [] Safe _ _ (.xWrite 0 10 0 SQLITE_OK true) h2 rfl
    ⟨trivial, fun _ _ _ => by unfold Bounded; decide⟩ rfl
  exact ⟨_, h3, query_well_formed h3 _ true⟩

/-- A query with an empty list reports no page, whatever `calloc`, `strdup`
and `malloc` return. -/
theorem query_empty {s : Sys} (hf : s.gState.files = []) (name : List Char) (c d m : Bool) :
    ∃ s', vfsTrackingGetDirtyPages c d m s (some name) true =
      .ok (⟨SQLITE_OK, some (0, none)⟩, s') := by
  cases c <;> exact ⟨_, by simp only [vfsTrackingGetDirtyPages, vfsTrackingGetFile, hf,
    findTracker, bind, Except.bind, pure, Except.pure, Sys.setTracker_heap_same, if_true,
    Bool.false_eq_true, if_false, dirtyPagesOf]; rfl⟩

/-- A shutdown forgets every dirty page: from any state, after
`vfs_tracking_shutdown` a query of any name reports no page, whatever `calloc`,
`strdup` and `malloc` return, so pages written since the last reset that the
sync layer has not read are lost to it. -/
theorem shutdown_forgets (s : Sys) (name : List Char) (c d m : Bool) :
    ∃ s', vfsTrackingGetDirtyPages c d m (vfsTrackingShutdown s) (some name) true =
      .ok (⟨SQLITE_OK, some (0, none)⟩, s') :=
  query_empty rfl name c d m

/-! ### Files without a tracker -/

/-- A write or a truncation through file `h`. -/
def Event.marks (h : Nat) : Event → Bool
  | .xWrite h' .. | .xTruncate h' .. => h' == h
  | _ => false

/-- An open or a close of file `h`. -/
def Event.reopens (h : Nat) : Event → Bool
  | .xOpen h' .. | .xClose h' _ => h' == h
  | _ => false

/-- An event that neither opens nor closes file `hd` leaves it as it is. -/
theorem step_handle_kept {s s' : Sys} {e : Event} {hd : Nat} (h : step s e = .ok s')
    (hn : e.reopens hd = false) : s'.handles hd = s.handles hd := by
  cases e with
  | xOpen h' =>
    exact step_xOpen_handles_ne h fun he => by simp [Event.reopens, he] at hn
  | xClose h' rc =>
    obtain ⟨s1, hm, rfl⟩ := step_xClose h
    rw [Sys.setHandle_handles_ne _ _ fun he => by simp [Event.reopens, he] at hn]
    rcases hm with ⟨-, rfl⟩ | ⟨a, -, ho⟩
    · rfl
    · rw [(Sys.setIsOpen_frame ho).1]
  | _ => rw [(step_frozen h nofun nofun).handles]

/-- A write or a truncation through a file with no tracker changes nothing. -/
theorem step_marks_untracked {s : Sys} {e : Event} {hd : Nat}
    (hp : (s.handles hd).pTracker = none) (hm : e.marks hd = true) : step s e = .ok s := by
  cases e with
  | xWrite h' _ _ rc _ | xTruncate h' _ rc _ =>
    obtain rfl : h' = hd := by simpa [Event.marks] using hm
    by_cases hr : rc = SQLITE_OK <;>
      simp [step, fileWrite, fileTruncate, markOnSuccess, hp, hr, bind, Except.bind, pure,
        Except.pure]
  | _ => cases hm

/-- **The writes of a file without a tracker vanish.** From any state where
file `hd` has no tracker (it was opened anonymously, or its lookup found no
tracker because `calloc` failed), through any events that neither close nor
reopen it, in the engine's contract or not and whatever the allocations and the
backend return, the run ends as the same run with every write and truncation
through `hd` removed: the trackers, and so the sync layer, never see them. -/
theorem untracked_writes_vanish {s : Sys} {hd : Nat} (hp : (s.handles hd).pTracker = none) :
    ∀ es : List Event, (∀ e ∈ es, e.reopens hd = false) →
      run s es = run s (es.filter fun e => !e.marks hd)
  | [], _ => rfl
  | e :: es, hes => by
    have hrest : ∀ e' ∈ es, e'.reopens hd = false := fun e' he' =>
      hes e' (List.mem_cons_of_mem _ he')
    by_cases hm : e.marks hd = true
    · rw [List.filter_cons_of_neg (by simp [hm])]
      show (step s e >>= fun s' => run s' es) = _
      rw [step_marks_untracked hp hm]
      exact untracked_writes_vanish hp es hrest
    · rw [List.filter_cons_of_pos (by simpa using hm)]
      show (step s e >>= fun s' => run s' es) = (step s e >>= fun s' => run s' _)
      cases hst : step s e with
      | error f => rfl
      | ok s1 =>
        have hp1 : (s1.handles hd).pTracker = none := by
          rw [step_handle_kept hst (hes e (List.mem_cons_self _ _)), hp]
        exact untracked_writes_vanish hp1 es hrest

/-- An open of `db` whose `calloc` fails leaves file `0` with no tracker; its
write and truncation around a reset vanish. -/
theorem untracked_writes_vanish_db :
    ∃ s, Reach [] (fun _ _ => True) s ∧ (s.handles 0).pMethods = true ∧
      (s.handles 0).pTracker = none ∧
      run s [.xWrite 0 10 0 SQLITE_OK true, .resetDirty (some "x".toList) true true,
        .xTruncate 0 100 SQLITE_OK true] = run s [.resetDirty (some "x".toList) true true] := by
  have hr := @reach_of_legalRun [] _ _ [.init (some ⟨"memfs".toList, 0, 0, []⟩) 4096 SQLITE_OK,
    .xOpen 0 (some "db".toList) SQLITE_OK false true] .start rfl
  exact ⟨_, hr, rfl, rfl, @untracked_writes_vanish _ 0 rfl _ (by decide)⟩

end TrackingVfs
