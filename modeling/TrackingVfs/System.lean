/-
# Runs of the tracking VFS

The calls that reach the module, as events: the engine's calls to the
tracking VFS and to its files, and the sync layer's calls to the exported
functions, each with the outcomes of the calls it makes out of the module.
`step` runs one event on the whole state; `Reach host G` is every state that
a run from process start reaches when each event keeps to the engine's side of
the contract (`engineLegal`: a file is opened only when it is not open, and
used only while it is) and to a guard `G` on the run. `legalRun` replays a
list of events and checks the contract as it goes, so that a concrete trace
gives a reachable state (`reach_of_legalRun`).
-/
import TrackingVfs.Decorator

namespace TrackingVfs

/-- A call into the module, with the outcomes of the calls it makes. -/
inductive Event where
  /-- `vfs_tracking_init`: what `sqlite3_vfs_find` and `sqlite3_vfs_register`
  return. -/
  | init (found : Option BaseVfs) (pageSize : UInt32) (registerRc : Int)
  /-- `vfs_tracking_shutdown`. -/
  | shutdown
  /-- `vfs_tracking_get_dirty_pages`, whether `calloc`, `strdup` and `malloc`
  succeed. -/
  | getDirtyPages (filename : Option (List Char)) (calloc strdup malloc : Bool)
  /-- `vfs_tracking_reset_dirty`, whether `calloc` and `strdup` succeed. -/
  | resetDirty (filename : Option (List Char)) (calloc strdup : Bool)
  /-- The engine's `xOpen` of its file `h`: what the real `xOpen` returns. -/
  | xOpen (h : Nat) (zName : Option (List Char)) (rc : Int) (calloc strdup : Bool)
  /-- `xClose` of file `h`: what the real `xClose` returns. -/
  | xClose (h : Nat) (rc : Int)
  /-- `xWrite` of file `h`: what the real `xWrite` returns, whether `realloc`
  succeeds. -/
  | xWrite (h : Nat) (iAmt iOfst : Int) (rc : Int) (alloc : Bool)
  /-- `xTruncate` of file `h`. -/
  | xTruncate (h : Nat) (size : Int) (rc : Int) (alloc : Bool)
  deriving DecidableEq, Repr

/-- One event on the whole state. The engine records the name of a file it
opened, and on a close (`sqlite3OsClose`) clears its `pMethods` after `xClose`
returns. -/
def step (s : Sys) : Event → Except Fault Sys
  | .init found ps rc => .ok (vfsTrackingInit found ps rc s).2
  | .shutdown => .ok (vfsTrackingShutdown s)
  | .getDirtyPages n c d m => do
    let r ← vfsTrackingGetDirtyPages c d m s n true
    pure r.2
  | .resetDirty n c d => do
    let r ← vfsTrackingResetDirty c d s n
    pure r.2
  | .xOpen h zName rc c d => do
    let r ← trackingOpen c d s h zName rc
    pure (if r.1 = SQLITE_OK then r.2.setHandle h { r.2.handles h with zName := zName } else r.2)
  | .xClose h rc => do
    let r ← fileClose s h rc
    pure (r.2.setHandle h { r.2.handles h with pMethods := false, zName := none })
  | .xWrite h iAmt iOfst rc alloc => do
    let r ← fileWrite alloc s h iAmt iOfst rc
    pure r.2
  | .xTruncate h size rc alloc => do
    let r ← fileTruncate alloc s h size rc
    pure r.2

/-- Run events in order; a fault stops the run. -/
def run (s : Sys) : List Event → Except Fault Sys
  | [] => .ok s
  | e :: es => do
    let s' ← step s e
    run s' es

/-- What every step keeps, every run keeps: an invariant `P` that each event
allowed by `Q` keeps holds after every run of such events. -/
theorem run_preserves {P : Sys → Prop} {Q : Event → Prop}
    (hstep : ∀ {s s' : Sys} {e : Event}, P s → Q e → step s e = .ok s' → P s') :
    ∀ {s s' : Sys} (es : List Event), P s → (∀ e ∈ es, Q e) → run s es = .ok s' → P s'
  | _, _, [], hs, _, h => by cases h; exact hs
  | _, _, e :: es, hs, hes, h => by
    rw [run] at h
    obtain ⟨s1, h1, hrun⟩ := bind_eq_ok.mp h
    exact run_preserves hstep es (hstep hs (hes e (List.mem_cons_self _ _)) h1)
      (fun e' he' => hes e' (List.mem_cons_of_mem _ he')) hrun

/-- The engine's side of the contract: it opens a file only when the file is
not open, and calls a file's methods only while it is. -/
def engineLegal (s : Sys) : Event → Bool
  | .xOpen h .. => !(s.handles h).pMethods
  | .xClose h _ | .xWrite h .. | .xTruncate h .. => (s.handles h).pMethods
  | _ => true

/-- The states reached from process start by runs whose events keep to the
engine's contract and to the guard `G`, and do not fault. -/
inductive Reach (host : List BaseVfs) (G : Sys → Event → Prop) : Sys → Prop
  | start : Reach host G (Sys.start host)
  | step {s s' : Sys} {e : Event} : Reach host G s → engineLegal s e = true → G s e →
      step s e = .ok s' → Reach host G s'

/-- Run events in order, checking the engine's contract before each; `none`
when an event breaks it or faults. -/
def legalRun (s : Sys) : List Event → Option Sys
  | [] => some s
  | e :: es =>
    if engineLegal s e then
      match step s e with
      | .ok s' => legalRun s' es
      | .error _ => none
    else none

/-! ### What one step can do

The invariants of the later modules are derived from these lemmas, not from
`step`: a query, a reset, a write and a truncation are `Quiet` (they look names
up and rewrite allocated trackers keeping their name, page size and `isOpen`,
and touch no engine file); an open and a close are described by `step_xOpen`
and `step_xClose`. -/

/-- Lookups, with `strdup` succeeding as `d` says, and writes of allocated
trackers that keep their name, page size and `isOpen`. -/
inductive Quiet (d : Bool) : Sys → Sys → Prop
  | refl (s : Sys) : Quiet d s s
  | getFile {s s1 s' : Sys} {c : Bool} {name : List Char} {r : Option Nat} :
      vfsTrackingGetFile c d s (some name) = .ok (r, s1) → Quiet d s1 s' → Quiet d s s'
  | write {s s' : Sys} {a : Nat} {t t' : FileTracker} :
      s.heap a = some t → FileTracker.Frame t t' → Quiet d (s.setTracker a t') s' → Quiet d s s'

/-- The `strdup` outcome of the lookups of a query or a reset, `true` for a
write or a truncation (they look nothing up), and `none` for the other events. -/
def Event.quietStrdup : Event → Option Bool
  | .getDirtyPages _ _ d _ | .resetDirty _ _ d => some d
  | .xWrite .. | .xTruncate .. => some true
  | _ => none

theorem markOnSuccess_quiet {alloc : Bool} {s s' : Sys} {hd : Nat} {offset amount rc rc' : Int}
    (h : markOnSuccess alloc s hd offset amount rc = .ok (rc', s')) (d : Bool) : Quiet d s s' := by
  unfold markOnSuccess at h
  split_ifs at h
  · split at h
    · cases h; exact .refl _
    · obtain ⟨s1, hs1, h⟩ := bind_eq_ok.mp h
      cases h
      obtain ⟨t, t', ht, hm, rfl⟩ := Sys.updTracker_ok hs1
      exact .write ht (markDirty_frame hm) (.refl _)
  · cases h; exact .refl _

/-- A query changes the state only by its lookup. -/
theorem getDirtyPages_quiet {c d m outs : Bool} {s s' : Sys} {n : Option (List Char)}
    {q : DirtyPages} (hq : vfsTrackingGetDirtyPages c d m s n outs = .ok (q, s')) :
    Quiet d s s' := by
  unfold vfsTrackingGetDirtyPages at hq
  split at hq
  · obtain ⟨⟨r, s1⟩, hg, hq⟩ := bind_eq_ok.mp hq
    refine .getFile hg ?_
    rcases r with _ | a
    · cases hq; exact .refl _
    dsimp only at hq
    split at hq
    · cases hq
    · obtain ⟨_, -, hq⟩ := bind_eq_ok.mp hq
      cases hq; exact .refl _
  · cases hq; exact .refl _

/-- A reset changes the state by its lookup and by clearing the bitmap it
finds, which keeps the tracker's name, page size and `isOpen`. -/
theorem resetDirty_quiet {c d : Bool} {s s' : Sys} {n : Option (List Char)} {rc : Int}
    (hq : vfsTrackingResetDirty c d s n = .ok (rc, s')) : Quiet d s s' := by
  cases n with
  | none => cases hq; exact .refl _
  | some name =>
    obtain ⟨⟨r, s1⟩, hg, hq⟩ := bind_eq_ok.mp hq
    refine .getFile hg ?_
    rcases r with _ | a
    · cases hq; exact .refl _
    dsimp only at hq
    split at hq
    · cases hq
    rename_i t ht
    split at hq
    · cases hq; exact .refl _
    · obtain ⟨t', hc, hq⟩ := bind_eq_ok.mp hq
      cases hq
      exact .write ht (clearBitmap_frame hc) (.refl _)

/-- **Queries, resets, writes and truncations are quiet.** -/
theorem step_quiet {s s' : Sys} {e : Event} {d : Bool} (h : step s e = .ok s')
    (he : e.quietStrdup = some d) : Quiet d s s' := by
  cases e <;> simp only [Event.quietStrdup, reduceCtorEq, Option.some.injEq] at he <;>
    obtain ⟨⟨q, s1⟩, hq, hs⟩ := bind_eq_ok.mp h <;> cases hs <;> subst he
  · exact getDirtyPages_quiet hq
  · exact resetDirty_quiet hq
  · exact markOnSuccess_quiet hq true
  · exact markOnSuccess_quiet hq true

/-- **An open** either fails and changes nothing, or looks the name up (an
anonymous file looks nothing up), marks the tracker it got open, and points
the file at it. -/
theorem step_xOpen {s s' : Sys} {hd : Nat} {zName : Option (List Char)} {rc : Int}
    {c d : Bool} (h : step s (.xOpen hd zName rc c d) = .ok s') :
    s' = s ∨ rc = SQLITE_OK ∧ ∃ r s1 s2, vfsTrackingGetFile c d s zName = .ok (r, s1) ∧
      (r = none ∧ s2 = s1 ∨ ∃ a, r = some a ∧ s1.setIsOpen a true = .ok s2) ∧
      s' = s2.setHandle hd ⟨true, r, zName⟩ := by
  simp only [step, bind_eq_ok, pure, Except.pure, Except.ok.injEq] at h
  obtain ⟨⟨rc', s1⟩, ho, rfl⟩ := h
  unfold trackingOpen at ho
  split at ho
  · cases ho
  by_cases hrc : rc = SQLITE_OK
  swap
  · simp only [if_neg hrc, pure, Except.pure, Except.ok.injEq, Prod.mk.injEq] at ho
    obtain ⟨rfl, rfl⟩ := ho
    exact .inl (by simp [hrc])
  simp only [if_pos hrc] at ho
  refine .inr ⟨hrc, ?_⟩
  cases zName with
  | none =>
    simp only [pure, Except.pure, Except.ok.injEq, Prod.mk.injEq] at ho
    obtain ⟨rfl, rfl⟩ := ho
    exact ⟨none, s, s, rfl, .inl ⟨rfl, rfl⟩, by simp [hrc]⟩
  | some name =>
    obtain ⟨⟨r, s2⟩, hg, ho⟩ := bind_eq_ok.mp ho
    rcases r with _ | a <;> dsimp only at ho <;> obtain ⟨s3, hs3, ho⟩ := bind_eq_ok.mp ho <;>
      simp only [pure, Except.pure, Except.ok.injEq, Prod.mk.injEq] at ho hs3 <;>
      obtain ⟨rfl, rfl⟩ := ho
    · exact ⟨none, s2, s2, hg, .inl ⟨rfl, rfl⟩, by simp [hrc, hs3]⟩
    · exact ⟨some a, s2, s3, hg, .inr ⟨a, rfl, hs3⟩, by simp [hrc]⟩

/-- **A close** marks the file's tracker closed, if it has one, and closes
the file; the file keeps its `pTracker`. -/
theorem step_xClose {s s' : Sys} {hd : Nat} {rc : Int} (h : step s (.xClose hd rc) = .ok s') :
    ∃ s1, ((s.handles hd).pTracker = none ∧ s1 = s ∨
      ∃ a, (s.handles hd).pTracker = some a ∧ s.setIsOpen a false = .ok s1) ∧
      s' = s1.setHandle hd ⟨false, (s.handles hd).pTracker, none⟩ := by
  simp only [step, bind_eq_ok, pure, Except.pure, Except.ok.injEq] at h
  obtain ⟨⟨rc', s1⟩, hc, rfl⟩ := h
  unfold fileClose at hc
  split at hc
  · rename_i hp
    cases hc
    exact ⟨s, .inl ⟨hp, rfl⟩, by simp [hp]⟩
  · rename_i a hp
    obtain ⟨s2, hs2, hc⟩ := bind_eq_ok.mp hc
    cases hc
    obtain ⟨t, -, rfl⟩ := Sys.setIsOpen_ok hs2
    exact ⟨_, .inr ⟨a, hp, hs2⟩, by simp [hp]⟩

/-- **A write that ends in page `UINT32_MAX` never completes.** Through an
open file whose tracker has a page size, a write that the real file accepted,
with `offset + amount` representable, whose last byte lies in page
`2 ^ 32 - 1` faults in `vfs_tracking_mark_dirty`: `requiredPages` wraps to `0`,
the bitmap is not grown, and the loop `i <= endPage` never ends in bounds. -/
theorem write_top_page {s : Sys} {hd a : Nat} {t : FileTracker}
    (hp : (s.handles hd).pTracker = some a) (ht : s.heap a = some t) (hps : 0 < t.pageSize)
    {iAmt iOfst : Int} (ha : 0 < iAmt) (hmax : iOfst + iAmt ≤ INT64_MAX)
    (htop : endPage t.pageSize iOfst iAmt = 2 ^ 32 - 1) (alloc : Bool) (s' : Sys) :
    step s (.xWrite hd iAmt iOfst SQLITE_OK alloc) ≠ .ok s' := by
  intro h
  obtain ⟨⟨rc, s1⟩, hw, -⟩ := bind_eq_ok.mp h
  simp only [fileWrite, markOnSuccess, if_pos rfl, hp] at hw
  obtain ⟨s2, hu, -⟩ := bind_eq_ok.mp hw
  obtain ⟨t0, t', ht0, hm, -⟩ := Sys.updTracker_ok hu
  rw [ht, Option.some.injEq] at ht0
  subst ht0
  exact markDirty_top_page ha hps hmax htop t' hm

/-- The engine's writes of pages `k` to `k + n - 1` of its file `hd`, in order,
one page of `pageSize` bytes each, each accepted by the real file. -/
def pageWrites (hd pageSize k n : Nat) : List Event :=
  (List.range' k n).map fun i => .xWrite hd pageSize (i * pageSize : Nat) SQLITE_OK true

/-- The one-page writes of pages `k` to `k + n - 1` through a file whose
tracker holds `D` complete, and leave the tracker holding those pages too. -/
theorem run_pageWrites {hd a : Nat} : ∀ (n k : Nat) {s : Sys} {t : FileTracker} {D : Finset Nat},
    s.heap a = some t → (s.handles hd).pTracker = some a → t.Holds D → 0 < t.pageSize →
    t.pageSize < 2 ^ 31 → k + n ≤ 2 ^ 30 →
    ∃ t', run s (pageWrites hd t.pageSize k n) = .ok (s.setTracker a t') ∧
      t'.Holds (D ∪ Finset.Ico k (k + n)) ∧ t'.totalPages ≤ max t.totalPages (k + n) ∧
      t.Frame t'
  | 0, k, s, t, D, ht, _, hD, _, _, _ =>
    ⟨t, by rw [Sys.setTracker_self ht]; rfl, by simpa using hD, le_max_left _ _, .refl t⟩
  | n + 1, k, s, t, D, ht, hp, hD, hps, hps31, hk => by
    obtain ⟨t1, hm, hD1, htot1, hf1⟩ := markDirty_page hD hps hps31 (show k < 2 ^ 30 by omega)
    have hs1 : step s (.xWrite hd t.pageSize (k * t.pageSize : Nat) SQLITE_OK true) =
        .ok (s.setTracker a t1) := by
      simp only [step, fileWrite, markOnSuccess, if_pos rfl, hp, Sys.updTracker, ht]
      rw [hm]
      rfl
    obtain ⟨t', hr, hD', htot', hf'⟩ := run_pageWrites n (k + 1) (Sys.setTracker_heap_same s a t1)
      hp hD1 (hf1.2.1 ▸ hps) (hf1.2.1 ▸ hps31) (by omega)
    rw [hf1.2.1, Sys.setTracker_setTracker] at hr
    have hset : insert k D ∪ Finset.Ico (k + 1) (k + 1 + n) = D ∪ Finset.Ico k (k + (n + 1)) := by
      rw [Finset.insert_union, ← Finset.union_insert, Nat.Ico_insert_succ_left (by omega),
        Nat.add_assoc, Nat.add_comm 1 n]
    refine ⟨t', by rw [pageWrites, List.range'_succ, List.map_cons, run, hs1]; exact hr,
      hset ▸ hD', ?_, hf1.trans hf'⟩
    rw [htot1] at htot'
    omega

/-- **After `2 ^ 30` dirty pages the query writes past its block.** Through a
file whose tracker the file's name finds, holds its pages and has a page size
that a C `int` holds, the engine's one-page writes of pages `0` to
`2 ^ 30 - 1`, each accepted by the real file, complete, and the next query of
that name faults in its filling loop, however `calloc` and `strdup` behave:
`dirtyCount * sizeof(uint32_t)` has wrapped in the 32-bit `size_t`. -/
theorem write_query_wraps {s : Sys} (hs : Named s) {hd a : Nat} {t : FileTracker}
    {D : Finset Nat} (hp : (s.handles hd).pTracker = some a) (ht : s.heap a = some t)
    (hD : t.Holds D) (hn : t.totalPages < 2 ^ 32) (hps : 0 < t.pageSize)
    (hps31 : t.pageSize < 2 ^ 31) {name : List Char}
    (hl : lookup s (normalizeName name) = some a) (calloc strdup : Bool) :
    ∃ s', run s (pageWrites hd t.pageSize 0 (2 ^ 30)) = .ok s' ∧
      step s' (.getDirtyPages (some name) calloc strdup true) = .error .outOfBounds := by
  obtain ⟨t', hr, hD', htot, hf⟩ := run_pageWrites (2 ^ 30) 0 ht hp hD hps hps31 le_rfl
  have hnA : t'.filename = s.nameAt a := by simp [Sys.nameAt, ht, hf.1]
  have hg := @getFile_found (s.setTracker a t') (hs.setTracker hnA) calloc strdup name a
    ((lookup_setTracker hnA _).trans hl)
  have hq : dirtyPagesOf true t' = .error .outOfBounds := by
    refine dirtyPagesOf_wraps hD' (by omega) ?_
    calc 2 ^ 30 = (Finset.Ico 0 (0 + 2 ^ 30)).card := by simp
      _ ≤ _ := Finset.card_le_card Finset.subset_union_right
  exact ⟨_, hr, by simp [step, vfsTrackingGetDirtyPages, hg, hq, bind, Except.bind]⟩

theorem reach_of_legalRun {host : List BaseVfs} :
    ∀ {s s' : Sys} (es : List Event), Reach host (fun _ _ => True) s →
      legalRun s es = some s' → Reach host (fun _ _ => True) s'
  | s, s', [], hs, h => by cases h; exact hs
  | s, s', e :: es, hs, h => by
    unfold legalRun at h
    split_ifs at h with hl
    split at h
    · exact reach_of_legalRun es (.step hs hl trivial ‹_›) h
    · cases h

/-- After an init with 4096-byte pages and an open of `db`, a write of one
byte at the first byte of page `UINT32_MAX`. -/
theorem write_top_page_db :
    ∃ s, Reach [] (fun _ _ => True) s ∧ (s.handles 0).pTracker = some 0 ∧
      ∃ t, s.heap 0 = some t ∧ 0 < t.pageSize ∧ (0 : Int) < 1 ∧
        4096 * (2 ^ 32 - 1) + 1 ≤ INT64_MAX ∧ endPage t.pageSize (4096 * (2 ^ 32 - 1)) 1 = 2 ^ 32 - 1 ∧
        ∀ s', step s (.xWrite 0 1 (4096 * (2 ^ 32 - 1)) SQLITE_OK true) ≠ .ok s' := by
  refine ⟨_, reach_of_legalRun [.init (some ⟨"memfs".toList, 0, 0, []⟩) 4096 SQLITE_OK,
    .xOpen 0 (some "db".toList) SQLITE_OK true true] .start rfl, rfl, _, rfl, by decide, by decide,
    by decide, by decide, fun s' => write_top_page rfl rfl (by decide) (by decide) (by decide)
    (by decide) true s'⟩

end TrackingVfs
