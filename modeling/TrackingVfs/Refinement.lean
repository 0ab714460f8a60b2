/-
# The dirty pages the query returns are the pages written since the last reset

What tracking is for, stated without bitmaps or a tracker list: `Spec` keeps,
for each open file, the normalised name it was opened under, and for each name
the set of pages written through a file of that name since the name was last
reset. A write of `amount > 0` bytes at `offset` adds the pages
`offset / ps .. (offset + amount - 1) / ps`, a truncation to `size` the page
`size / ps`, and a reset of a name empties its set.

`Rel` ties the C state to the spec: the registry is named, the tracker that
`vfs_tracking_get_file` finds for a name holds that name's pages
(`FileTracker.Holds`), and each open file points at the tracker of its name.
One event keeps `Rel` (`Rel.step`), so a whole run does (`Rel.run`), and in a
state related to the spec `vfs_tracking_get_dirty_pages` returns the name's
pages, counted and ascending (`Rel.getDirtyPages`). `getDirtyPages_run` puts
these together for every run after an initialisation.

The runs (`Spec.Good`) are those of one session that keep away from the
module's limits: no shutdown, every allocation succeeds, the engine uses only
files it opened in the run and only while they are open, offsets are not
negative, and every page a tracked write touches is below `2 ^ 29`.
-/
import TrackingVfs.System

namespace TrackingVfs

/-- The open files, each with the normalised name it was opened under (`none`
for an anonymous one), and for each name the pages written since its last
reset. -/
structure Spec where
  opened : Nat → Option (Option (List Char))
  dirty : List Char → Finset Nat

namespace Spec

/-- Nothing open, nothing written. -/
def empty : Spec := ⟨fun _ => none, fun _ => ∅⟩

/-- The pages a mark of `amount` bytes at `offset` touches, with page size `ps`. -/
def touched (ps : Nat) (offset amount : Int) : Finset Nat :=
  if 0 < amount then Finset.Icc (offset.toNat / ps) ((offset + amount - 1).toNat / ps) else ∅

/-- Add `pages` to the set of the name file `h` was opened under. -/
def markFile (a : Spec) (h : Nat) (pages : Finset Nat) : Spec :=
  match a.opened h with
  | some (some n) => { a with dirty := Function.update a.dirty n (a.dirty n ∪ pages) }
  | _ => a

/-- What one event does to the spec, with page size `ps`. -/
def step (ps : Nat) (a : Spec) : Event → Spec
  | .xOpen h zName rc _ _ =>
    if rc = SQLITE_OK then
      { a with opened := Function.update a.opened h (some (zName.map normalizeName)) }
    else a
  | .xClose h _ => { a with opened := Function.update a.opened h none }
  | .xWrite h iAmt iOfst rc _ => if rc = SQLITE_OK then a.markFile h (touched ps iOfst iAmt) else a
  | .xTruncate h size rc _ => if rc = SQLITE_OK then a.markFile h (touched ps size 1) else a
  | .resetDirty (some n) _ _ => { a with dirty := Function.update a.dirty (normalizeName n) ∅ }
  | _ => a

/-- The spec after a run. -/
def run (ps : Nat) (a : Spec) (es : List Event) : Spec := es.foldl (step ps) a

/-- The good events within one session, in spec state `a`: no shutdown, every
allocation succeeds, files are opened only when not open and used only while
open, offsets are not negative, and a tracked successful write or truncation
touches only pages below `2 ^ 29`. -/
def Good (ps : Nat) (a : Spec) : Event → Prop
  | .init .. => True
  | .shutdown => False
  | .getDirtyPages _ c d m => c = true ∧ d = true ∧ m = true
  | .resetDirty _ c d => c = true ∧ d = true
  | .xOpen h _ _ c d => a.opened h = none ∧ c = true ∧ d = true
  | .xClose h _ => a.opened h ≠ none
  | .xWrite h iAmt iOfst rc alloc => a.opened h ≠ none ∧ alloc = true ∧ 0 ≤ iOfst ∧
      ∀ n, a.opened h = some (some n) → rc = SQLITE_OK → ∀ p ∈ touched ps iOfst iAmt, p < 2 ^ 29
  | .xTruncate h size rc alloc => a.opened h ≠ none ∧ alloc = true ∧ 0 ≤ size ∧
      ∀ n, a.opened h = some (some n) → rc = SQLITE_OK → ∀ p ∈ touched ps size 1, p < 2 ^ 29

/-- A run all of whose events are `Good` where they happen. -/
def GoodRun (ps : Nat) : Spec → List Event → Prop
  | _, [] => True
  | a, e :: es => Good ps a e ∧ GoodRun ps (a.step ps e) es

end Spec

/-! ### The relation -/

/-- What the tracker the registry finds for a name (`none`: no tracker) holds:
the name's pages, with page size `ps` and at most `2 ^ 29` pages. -/
def TrackerRel (ps : Nat) (s : Sys) (D : Finset Nat) : Option Nat → Prop
  | some a => ∃ t, s.heap a = some t ∧ t.pageSize = ps ∧ t.totalPages ≤ 2 ^ 29 ∧ t.Holds D
  | none => D = ∅

/-- **A mark adds its touched pages.** On a tracker of page size `ps` with at
most `2 ^ 29` pages, a mark at an offset that is not negative whose touched
pages lie below `2 ^ 29` returns, adds exactly those pages, keeps the frame and
stays within `2 ^ 29` pages. -/
theorem markDirty_touched {ps : Nat} (hps0 : 0 < ps) (hps32 : ps < 2 ^ 32) {t : FileTracker}
    {D : Finset Nat} (hD : t.Holds D) (hps : t.pageSize = ps) (htot : t.totalPages ≤ 2 ^ 29)
    {offset amount : Int} (hoff : 0 ≤ offset)
    (hb : ∀ p ∈ Spec.touched ps offset amount, p < 2 ^ 29) :
    ∃ t', vfsTrackingMarkDirty true t offset amount = .ok t' ∧ t.Frame t' ∧
      t'.totalPages ≤ 2 ^ 29 ∧ t'.Holds (D ∪ Spec.touched ps offset amount) := by
  by_cases ha : 0 < amount
  · have hlast := hb ((offset + amount - 1).toNat / ps) (by
      simp only [Spec.touched, if_pos ha, Finset.mem_Icc]
      exact ⟨Nat.div_le_div_right (by omega), le_refl _⟩)
    have hlt : (offset + amount - 1).toNat < 2 ^ 29 * ps := (Nat.div_lt_iff_lt_mul hps0).mp hlast
    have hle : 2 ^ 29 * ps ≤ 2 ^ 29 * 2 ^ 32 := Nat.mul_le_mul_left _ hps32.le
    obtain ⟨t', h1, h2, h3, hf⟩ := markDirty_holds hD hoff ha (hps ▸ hps0)
      (by unfold INT64_MAX; omega) (by rw [hps]; omega)
    refine ⟨t', h1, hf, by rw [h3, hps]; omega, ?_⟩
    simpa only [Spec.touched, if_pos ha, hps] using h2
  · refine ⟨t, by simp [vfsTrackingMarkDirty, ha], FileTracker.Frame.refl t, htot, ?_⟩
    simpa only [Spec.touched, if_neg ha, Finset.union_empty] using hD

/-- The C state `s` implements the spec state `a`, with page size `ps`. -/
structure Rel (ps : Nat) (s : Sys) (a : Spec) : Prop where
  init : s.gState.pRealVfs.isSome
  appData : s.trackingVfs.pAppData.isSome
  ps_pos : 0 < ps
  ps_lt : ps < 2 ^ 32
  page : s.gState.defaultPageSize = ps
  named : Named s
  trackers : ∀ n, TrackerRel ps s (a.dirty n) (lookup s n)
  handles : ∀ h o, a.opened h = some o →
    (s.handles h).pTracker = o.bind (lookup s) ∧ ∀ n, o = some n → (lookup s n).isSome

namespace Rel

variable {ps : Nat} {s : Sys} {a : Spec}

/-- A write of tracker `A`, the tracker of name `n`, that keeps its name and
page size and holds `D'` keeps the relation, with `D'` as `n`'s pages. -/
theorem setTracker (h : Rel ps s a) {n : List Char} {A : Nat} (hA : lookup s n = some A)
    {t' : FileTracker} (hname : t'.filename = some n) (hps : t'.pageSize = ps)
    (htot : t'.totalPages ≤ 2 ^ 29) {D' : Finset Nat} (hD : t'.Holds D') :
    Rel ps (s.setTracker A t') { a with dirty := Function.update a.dirty n D' } := by
  have hnA : t'.filename = s.nameAt A := by rw [hname, (lookup_mem hA).2]
  have hl := lookup_setTracker hnA
  refine ⟨h.init, h.appData, h.ps_pos, h.ps_lt, h.page, h.named.setTracker hnA, fun m => ?_,
    fun h' o ho => by simpa only [hl, Sys.setTracker_handles] using h.handles h' o ho⟩
  rw [hl]
  by_cases hm : m = n
  · subst hm
    simp only [Function.update_same, hA, TrackerRel]
    exact ⟨t', by simp, hps, htot, hD⟩
  · have ht := h.trackers m
    simp only [Function.update_noteq hm]
    revert ht
    cases hlm : lookup s m with
    | none => exact id
    | some B =>
      have hB : B ≠ A := by
        rintro rfl
        exact hm (Option.some.inj ((lookup_mem hlm).2.symm.trans (lookup_mem hA).2))
      simp only [TrackerRel, Sys.setTracker_heap_ne _ _ hB]
      exact id

/-- The tracker of a name in a related state. -/
theorem tracker (h : Rel ps s a) {n : List Char} {A : Nat} (hA : lookup s n = some A) :
    ∃ t, s.heap A = some t ∧ t.filename = some n ∧ t.pageSize = ps ∧ t.totalPages ≤ 2 ^ 29 ∧
      t.Holds (a.dirty n) := by
  have ht := h.trackers n
  rw [hA] at ht
  obtain ⟨t, h1, h2, h3, h4⟩ := ht
  have hn := (lookup_mem hA).2
  simp only [Sys.nameAt, h1, Option.some_bind] at hn
  exact ⟨t, h1, hn, h2, h3, h4⟩

/-- Setting `isOpen` of a name's tracker keeps the relation. -/
theorem setIsOpen (h : Rel ps s a) {n : List Char} {A : Nat} (hA : lookup s n = some A)
    (b : Bool) : ∃ s', s.setIsOpen A b = .ok s' ∧ Rel ps s' a ∧ lookup s' = lookup s ∧
      s'.handles = s.handles := by
  obtain ⟨t, h1, h2, h3, h4, h5⟩ := h.tracker hA
  have := h.setTracker hA (show ({ t with isOpen := b } : FileTracker).filename = some n from h2)
    h3 h4 (h5.setIsOpen b)
  rw [Function.update_eq_self] at this
  refine ⟨_, by simp [Sys.setIsOpen, Sys.updTracker, h1, bind, Except.bind, pure, Except.pure],
    this, funext (lookup_setTracker ?_), rfl⟩
  simp [Sys.nameAt, h1, h2]

/-- A fresh tracker for a name without one keeps the relation. -/
theorem insertFresh (h : Rel ps s a) {m : List Char} (hm : lookup s m = none) :
    Rel ps (s.insertFresh m) a := by
  have hl := lookup_insertFresh h.named m
  refine ⟨h.init, h.appData, h.ps_pos, h.ps_lt, h.page, insertFresh_named h.named m,
    fun n => ?_, fun h' o ho => ?_⟩
  · rw [hl]
    by_cases hn : n = m
    · subst hn
      have h0 : a.dirty n = ∅ := by simpa [hm, TrackerRel] using h.trackers n
      simp only [if_true, TrackerRel, h0]
      exact ⟨⟨some n, none, 0, 0, s.gState.defaultPageSize, false⟩, by simp [Sys.insertFresh],
        h.page, Nat.zero_le _, FileTracker.holds_empty _ _⟩
    · have ht := h.trackers n
      simp only [hn, if_false]
      revert ht
      cases hln : lookup s n with
      | none => exact id
      | some B =>
        have hB : B ≠ s.nextAddr := Nat.ne_of_lt (h.named B (lookup_mem hln).1).1
        simp only [TrackerRel, Sys.insertFresh, Sys.setTracker_heap_ne _ _ hB]
        exact id
  · obtain ⟨h1, h2⟩ := h.handles h' o ho
    -- the name an open file has a tracker for is not `m`
    have hne : ∀ n, o = some n → n ≠ m := fun n hn e => by simpa [e, hm] using h2 n hn
    refine ⟨?_, fun n hn => by simpa [hl, hne n hn] using h2 n hn⟩
    show (s.handles h').pTracker = _
    cases o with
    | none => exact h1
    | some n => simpa [hl, hne n rfl] using h1

/-- **The lookup in a related state** (with `calloc` and `strdup` succeeding)
returns the name's tracker, inserting it if needed, and keeps the relation. -/
theorem getFile (h : Rel ps s a) (name : List Char) :
    ∃ A s', vfsTrackingGetFile true true s (some name) = .ok (some A, s') ∧ Rel ps s' a ∧
      lookup s' (normalizeName name) = some A ∧ s'.handles = s.handles ∧
      s'.trackingVfs = s.trackingVfs := by
  cases hl : lookup s (normalizeName name) with
  | some A => exact ⟨A, s, getFile_found h.named hl, h, hl, rfl, rfl⟩
  | none =>
    refine ⟨s.nextAddr, _, getFile_fresh h.named hl, h.insertFresh hl, ?_, rfl, rfl⟩
    simp [lookup_insertFresh h.named]

/-- Pointing the engine's file `hd` at the tracker of the name it is open under
(or at none for an anonymous file), or closing it, keeps the relation. -/
theorem setHandle (h : Rel ps s a) (hd : Nat) (f : Handle) (o' : Option (Option (List Char)))
    (hf : ∀ o, o' = some o →
      f.pTracker = o.bind (lookup s) ∧ ∀ n, o = some n → (lookup s n).isSome) :
    Rel ps (s.setHandle hd f) { a with opened := Function.update a.opened hd o' } := by
  refine ⟨h.init, h.appData, h.ps_pos, h.ps_lt, h.page, h.named, h.trackers, fun h' o ho => ?_⟩
  by_cases hh : h' = hd
  · subst hh
    simp only [Function.update_same] at ho
    simpa using hf o ho
  · simp only [Function.update_noteq hh] at ho
    rw [Sys.setHandle_handles_ne _ _ hh]
    exact h.handles h' o ho

/-- **A query** in a related state (with `calloc`, `strdup` and `malloc`
succeeding) returns `SQLITE_OK`, the number of the name's pages and the pages
ascending (`NULL` when there are none), and keeps the relation. -/
theorem getDirtyPages (h : Rel ps s a) (name : List Char) :
    ∃ s', vfsTrackingGetDirtyPages true true true s (some name) true =
      .ok (⟨SQLITE_OK, some ((a.dirty (normalizeName name)).card,
        if a.dirty (normalizeName name) = ∅ then none
        else some ((a.dirty (normalizeName name)).sort (· ≤ ·)))⟩, s') ∧ Rel ps s' a := by
  obtain ⟨A, s1, hg, h1, hl, -, -⟩ := h.getFile name
  obtain ⟨t, ht, -, -, htot, hD⟩ := h1.tracker hl
  refine ⟨s1, ?_, h1⟩
  simp [vfsTrackingGetDirtyPages, hg, ht, dirtyPagesOf_eq hD (by omega), bind, Except.bind,
    pure, Except.pure]

/-- **A reset** in a related state empties the name's pages. -/
theorem resetDirty (h : Rel ps s a) (name : List Char) :
    ∃ s', vfsTrackingResetDirty true true s (some name) = .ok (SQLITE_OK, s') ∧
      Rel ps s' { a with dirty := Function.update a.dirty (normalizeName name) ∅ } := by
  obtain ⟨A, s1, hg, h1, hl, -, -⟩ := h.getFile name
  obtain ⟨t, ht, hn, hps, htot, hD⟩ := h1.tracker hl
  cases hb : t.dirtyBitmap with
  | none =>
    refine ⟨s1, by simp [vfsTrackingResetDirty, hg, ht, hb, bind, Except.bind, pure, Except.pure],
      ?_⟩
    rw [← hD.eq_empty hb, Function.update_eq_self]
    exact h1
  | some ws =>
    obtain ⟨t', hc, hD', htot', hf⟩ := clearBitmap_holds hD hb
    refine ⟨s1.setTracker A t', by
      simp [vfsTrackingResetDirty, hg, ht, hb, hc, bind, Except.bind, pure, Except.pure], ?_⟩
    exact h1.setTracker hl (hf.1.trans hn) (hf.2.1.trans hps) (htot' ▸ htot) hD'

/-- **A mark on success** (the body of `fileWrite` and `fileTruncate`) through
a file open in the spec adds the touched pages to its name, when they lie below
`2 ^ 29`. -/
theorem markOnSuccess (h : Rel ps s a) {hd : Nat} {o : Option (List Char)}
    (ho : a.opened hd = some o) {offset amount rc : Int} (hoff : 0 ≤ offset)
    (hb : ∀ n, o = some n → rc = SQLITE_OK → ∀ p ∈ Spec.touched ps offset amount, p < 2 ^ 29) :
    ∃ s', TrackingVfs.markOnSuccess true s hd offset amount rc = .ok (rc, s') ∧
      Rel ps s' (if rc = SQLITE_OK then a.markFile hd (Spec.touched ps offset amount) else a) := by
  by_cases hrc : rc = SQLITE_OK
  swap
  · exact ⟨s, by simp [TrackingVfs.markOnSuccess, hrc], by simpa [hrc] using h⟩
  obtain ⟨hp, hn⟩ := h.handles hd o ho
  simp only [if_pos hrc, Spec.markFile, ho]
  cases o with
  | none => exact ⟨s, by simp [TrackingVfs.markOnSuccess, hrc, hp], h⟩
  | some n =>
    obtain ⟨A, hA⟩ := Option.isSome_iff_exists.mp (hn n rfl)
    obtain ⟨t, ht, hname, hps, htot, hD⟩ := h.tracker hA
    simp only [Option.some_bind, hA] at hp
    obtain ⟨t', h1, hf, h4, h5⟩ :=
      markDirty_touched h.ps_pos h.ps_lt hD hps htot hoff (hb n rfl hrc)
    refine ⟨s.setTracker A t', ?_, h.setTracker hA (hf.1.trans hname) (hf.2.1.trans hps) h4 h5⟩
    simp [TrackingVfs.markOnSuccess, hrc, hp, Sys.updTracker, ht, h1, bind, Except.bind, pure,
      Except.pure]

/-- **An open** keeps the relation: on success the file points at the tracker
of its normalised name, which is marked open. -/
theorem xOpen (h : Rel ps s a) (hd : Nat) (zName : Option (List Char)) (rc : Int) :
    ∃ s', TrackingVfs.step s (.xOpen hd zName rc true true) = .ok s' ∧
      Rel ps s' (a.step ps (.xOpen hd zName rc true true)) := by
  obtain ⟨v, hv⟩ := Option.isSome_iff_exists.mp h.appData
  by_cases hrc : rc = SQLITE_OK
  swap
  · exact ⟨s, by simp [TrackingVfs.step, trackingOpen, hv, hrc, bind, Except.bind, pure,
      Except.pure], by simpa [Spec.step, hrc] using h⟩
  cases zName with
  | none =>
    refine ⟨s.setHandle hd ⟨true, none, none⟩, by simp [TrackingVfs.step, trackingOpen, hv, hrc,
      bind, Except.bind, pure, Except.pure], ?_⟩
    simp only [Spec.step, if_pos hrc, Option.map_none']
    exact h.setHandle hd _ _ fun o ho => by cases ho; simp
  | some m =>
    obtain ⟨A, s1, hg, h1, hl, -, -⟩ := h.getFile m
    obtain ⟨s2, hs2, h2, hl2, -⟩ := h1.setIsOpen hl true
    refine ⟨s2.setHandle hd ⟨true, some A, some m⟩, by simp [TrackingVfs.step, trackingOpen, hv,
      hrc, hg, hs2, bind, Except.bind, pure, Except.pure], ?_⟩
    simp only [Spec.step, if_pos hrc, Option.map_some']
    exact h2.setHandle hd _ _ fun o ho => by cases ho; simp [hl2, hl]

/-- **A close** keeps the relation: the file's tracker is marked closed and the
file is no longer open. -/
theorem xClose (h : Rel ps s a) {hd : Nat} (ho : a.opened hd ≠ none) (rc : Int) :
    ∃ s', TrackingVfs.step s (.xClose hd rc) = .ok s' ∧ Rel ps s' (a.step ps (.xClose hd rc)) := by
  obtain ⟨o, ho⟩ := Option.ne_none_iff_exists'.mp ho
  obtain ⟨hp, hn⟩ := h.handles hd o ho
  cases o with
  | none =>
    exact ⟨s.setHandle hd ⟨false, none, none⟩, by simp [TrackingVfs.step, fileClose, hp, bind,
      Except.bind, pure, Except.pure], h.setHandle hd _ none fun _ h => by cases h⟩
  | some n =>
    obtain ⟨A, hA⟩ := Option.isSome_iff_exists.mp (hn n rfl)
    simp only [Option.some_bind, hA] at hp
    obtain ⟨s2, hs2, h2, -, -⟩ := h.setIsOpen hA false
    exact ⟨s2.setHandle hd ⟨false, (s2.handles hd).pTracker, none⟩, by simp [TrackingVfs.step,
      fileClose, hp, hs2, bind, Except.bind, pure, Except.pure],
      h2.setHandle hd _ none fun _ h => by cases h⟩

/-- **One good event keeps the relation**, and does not fault. -/
theorem step (h : Rel ps s a) {e : Event} (he : Spec.Good ps a e) :
    ∃ s', TrackingVfs.step s e = .ok s' ∧ Rel ps s' (a.step ps e) := by
  cases e with
  | init found pageSize rc =>
    exact ⟨s, by simp [TrackingVfs.step, vfsTrackingInit, h.init], h⟩
  | shutdown => exact he.elim
  | getDirtyPages n c d m =>
    obtain ⟨rfl, rfl, rfl⟩ := he
    cases n with
    | none => exact ⟨s, rfl, h⟩
    | some name =>
      obtain ⟨s', hq, h'⟩ := h.getDirtyPages name
      exact ⟨s', by simp [TrackingVfs.step, hq, bind, Except.bind, pure, Except.pure], h'⟩
  | resetDirty n c d =>
    obtain ⟨rfl, rfl⟩ := he
    cases n with
    | none => exact ⟨s, rfl, h⟩
    | some name =>
      obtain ⟨s', hr, h'⟩ := h.resetDirty name
      exact ⟨s', by simp [TrackingVfs.step, hr, bind, Except.bind, pure, Except.pure], h'⟩
  | xOpen hd zName rc c d =>
    obtain ⟨-, rfl, rfl⟩ := he
    exact h.xOpen hd zName rc
  | xClose hd rc => exact h.xClose he rc
  | xWrite hd iAmt iOfst rc alloc =>
    obtain ⟨hne, rfl, hoff, hb⟩ := he
    obtain ⟨o, ho⟩ := Option.ne_none_iff_exists'.mp hne
    obtain ⟨s', hm, h'⟩ := h.markOnSuccess ho hoff fun n hn => hb n (hn ▸ ho)
    exact ⟨s', by simp [TrackingVfs.step, fileWrite, hm, bind, Except.bind, pure, Except.pure],
      by simpa [Spec.step] using h'⟩
  | xTruncate hd size rc alloc =>
    obtain ⟨hne, rfl, hoff, hb⟩ := he
    obtain ⟨o, ho⟩ := Option.ne_none_iff_exists'.mp hne
    obtain ⟨s', hm, h'⟩ := h.markOnSuccess ho hoff fun n hn => hb n (hn ▸ ho)
    exact ⟨s', by simp [TrackingVfs.step, fileTruncate, hm, bind, Except.bind, pure,
      Except.pure], by simpa [Spec.step] using h'⟩

/-- **A whole good run keeps the relation**, and does not fault. -/
theorem run : ∀ {s : Sys} {a : Spec} (es : List Event), Rel ps s a → Spec.GoodRun ps a es →
    ∃ s', TrackingVfs.run s es = .ok s' ∧ Rel ps s' (Spec.run ps a es)
  | s, _, [], h, _ => ⟨s, rfl, h⟩
  | _, _, _ :: es, h, ⟨he, hes⟩ => by
    obtain ⟨s1, h1, hr1⟩ := h.step he
    obtain ⟨s2, h2, hr2⟩ := run es hr1 hes
    exact ⟨s2, by simp [TrackingVfs.run, h1, h2, bind, Except.bind], hr2⟩

end Rel

/-- The page size `vfs_tracking_init` records: `pageSize`, or
`DEFAULT_PAGE_SIZE` when it is `0`. -/
def effectivePageSize (pageSize : UInt32) : Nat :=
  if pageSize.toNat > 0 then pageSize.toNat else DEFAULT_PAGE_SIZE

/-- An initialisation that succeeds from an uninitialised state starts the
relation, with nothing open and nothing written. -/
theorem Rel.start {s0 : Sys} (h0 : s0.gState.pRealVfs = none) {found : Option BaseVfs}
    {pageSize : UInt32} {registerRc : Int}
    (hinit : (vfsTrackingInit found pageSize registerRc s0).1 = SQLITE_OK) :
    Rel (effectivePageSize pageSize) (vfsTrackingInit found pageSize registerRc s0).2 Spec.empty := by
  have hlt := UInt32.toNat_lt_size pageSize
  unfold vfsTrackingInit at hinit ⊢
  simp only [h0, Option.isSome_none, Bool.false_eq_true, if_false] at hinit ⊢
  cases found with
  | none => simp [SQLITE_ERROR, SQLITE_OK] at hinit
  | some v =>
    by_cases hr : registerRc = SQLITE_OK
    · simp only [if_pos hr]
      refine ⟨rfl, rfl, ?_, ?_, rfl, (fun _ h => by cases h), (fun n => rfl),
        (fun _ _ h => by cases h)⟩
      · unfold effectivePageSize DEFAULT_PAGE_SIZE; split <;> omega
      · unfold effectivePageSize DEFAULT_PAGE_SIZE; split <;> simp_all [UInt32.size]
    · simp only [if_neg hr] at hinit
      exact absurd hinit hr

/-- **The query after any run returns the pages written since the last
reset.** From an uninitialised state, after a `vfs_tracking_init` that returns
`SQLITE_OK`, every good run (no shutdown, allocations succeed, files
used only while open, offsets not negative, tracked pages below `2 ^ 29`)
completes, and `vfs_tracking_get_dirty_pages(n)` then returns `SQLITE_OK`, the
number of pages in `D` and `D` ascending, or `NULL` when `D` is empty, where
`D` is the set `Spec` keeps for the normalisation of `n`. -/
theorem getDirtyPages_run (s0 : Sys) (found : Option BaseVfs) (pageSize : UInt32)
    (registerRc : Int) (h0 : s0.gState.pRealVfs = none)
    (hinit : (vfsTrackingInit found pageSize registerRc s0).1 = SQLITE_OK)
    (es : List Event) (hgood : Spec.GoodRun (effectivePageSize pageSize) Spec.empty es)
    (n : List Char) :
    let D := (Spec.run (effectivePageSize pageSize) Spec.empty es).dirty (normalizeName n)
    ∃ s s', run (vfsTrackingInit found pageSize registerRc s0).2 es = .ok s ∧
      vfsTrackingGetDirtyPages true true true s (some n) true =
        .ok (⟨SQLITE_OK, some (D.card, if D = ∅ then none else some (D.sort (· ≤ ·)))⟩, s') := by
  obtain ⟨s, hs, hr⟩ := (Rel.start h0 hinit).run es hgood
  obtain ⟨s', hq, -⟩ := hr.getDirtyPages n
  exact ⟨s, s', hs, hq⟩

/-- The scenario of the spec: open `/db`, write 10 bytes at 0 and 20 bytes at
4090 with 4096-byte pages; the query for `db` returns pages 0 and 1. -/
theorem getDirtyPages_run_spec :
    (Sys.start []).gState.pRealVfs = none ∧
    (vfsTrackingInit (some ⟨"memfs".toList, 0, 0, []⟩) 4096 SQLITE_OK (Sys.start [])).1 =
      SQLITE_OK ∧
    Spec.GoodRun (effectivePageSize 4096) Spec.empty
      [.xOpen 0 (some "/db".toList) SQLITE_OK true true, .xWrite 0 10 0 SQLITE_OK true,
        .xWrite 0 20 4090 SQLITE_OK true] ∧
    ∃ s s', run (vfsTrackingInit (some ⟨"memfs".toList, 0, 0, []⟩) 4096 SQLITE_OK
        (Sys.start [])).2
        [.xOpen 0 (some "/db".toList) SQLITE_OK true true, .xWrite 0 10 0 SQLITE_OK true,
          .xWrite 0 20 4090 SQLITE_OK true] = .ok s ∧
      vfsTrackingGetDirtyPages true true true s (some "db".toList) true =
        .ok (⟨SQLITE_OK, some (2, some [0, 1])⟩, s') := by
  have hgood : Spec.GoodRun (effectivePageSize 4096) Spec.empty
      [.xOpen 0 (some "/db".toList) SQLITE_OK true true, .xWrite 0 10 0 SQLITE_OK true,
        .xWrite 0 20 4090 SQLITE_OK true] := by
    simp [Spec.GoodRun, Spec.Good, Spec.step, Spec.empty, Spec.touched, Spec.markFile,
      effectivePageSize, SQLITE_OK]
    decide
  have hD : (Spec.run (effectivePageSize 4096) Spec.empty
      [.xOpen 0 (some "/db".toList) SQLITE_OK true true, .xWrite 0 10 0 SQLITE_OK true,
        .xWrite 0 20 4090 SQLITE_OK true]).dirty (normalizeName "db".toList) = {0, 1} := by
    decide
  have hc : ({0, 1} : Finset Nat).card = 2 := by decide
  have hs : (if ({0, 1} : Finset Nat) = ∅ then none
      else some (({0, 1} : Finset Nat).sort (· ≤ ·))) = some [0, 1] := by
    rw [show ({0, 1} : Finset Nat) = Finset.range 2 by decide, Finset.sort_range]
    decide
  refine ⟨rfl, rfl, hgood, ?_⟩
  have := getDirtyPages_run (Sys.start []) (some ⟨"memfs".toList, 0, 0, []⟩) 4096 SQLITE_OK rfl
    rfl _ hgood "db".toList
  simpa only [hD, hc, hs] using this

end TrackingVfs
