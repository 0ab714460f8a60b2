/-
# What the registry keeps between two syncs

The sync layer reads a database's dirty pages, copies them, and resets them.
That only works if the registry keeps what the writes told it until the reset,
whatever else happens in between.

* `dirty_kept`: in every run, whatever the allocations and the backend
  return, a page dirty in a tracker is still dirty at the end of any later
  stretch of the run in which the tracker survives and no name normalising to
  the tracker's name is reset. One event keeps every tracker allocated before
  it, with its name and at least its pages, except the tracker a reset clears
  (`step_keepsAt`): a mark only sets bits (`markDirty_bits`), a query and a
  lookup change no tracker, a growth copies the old words.
* `write_realloc_fails`: the one way a write the backend accepted leaves no
  mark. When the bitmap has to grow and `realloc` fails,
  `vfs_tracking_mark_dirty` returns without marking and `fileWrite` still
  returns `SQLITE_OK`: the state is as before, so no query reports the write.
* `getFile_stable`: in every run in which no `strdup` fails, once
  `vfs_tracking_get_file` has returned a tracker for a name, every later lookup
  of a name with the same normalisation returns that tracker and changes
  nothing, until the next init or shutdown; so every open of the database
  writes to the tracker the query and the reset read.

Key definitions: `KeepsAt`, `KeepsLookups`.
-/
import TrackingVfs.Lifecycle
import TrackingVfs.OpenFlag

namespace TrackingVfs

open Bitmap

/-! ### Trackers keep their pages -/

/-- Tracker `a` of `s`, if `s'` still has it, keeps its name and at least its
dirty pages. -/
def KeepsAt (a : Nat) (s s' : Sys) : Prop :=
  ∀ t', s'.heap a = some t' → ∃ t, s.heap a = some t ∧ t'.filename = t.filename ∧
    ∀ p, bit t.words p = true → bit t'.words p = true

namespace KeepsAt

variable {a : Nat}

theorem refl (a : Nat) (s : Sys) : KeepsAt a s s := fun t' h => ⟨t', h, rfl, fun _ => id⟩

theorem trans {s s1 s2 : Sys} (h1 : KeepsAt a s s1) (h2 : KeepsAt a s1 s2) : KeepsAt a s s2 :=
  fun t2 ht2 =>
    let ⟨t1, ht1, hn1, hb1⟩ := h2 t2 ht2
    let ⟨t, ht, hn, hb⟩ := h1 t1 ht1
    ⟨t, ht, hn1.trans hn, fun p hp => hb1 p (hb p hp)⟩

theorem of_heap {s s' : Sys} (h : s'.heap a = s.heap a) : KeepsAt a s s' :=
  fun t' ht' => ⟨t', h ▸ ht', rfl, fun _ => id⟩

/-- A tracker that is still there has the name it had. -/
theorem nameAt {s s' : Sys} (h : KeepsAt a s s') {n : List Char} (hn : s'.nameAt a = some n) :
    s.nameAt a = some n := by
  cases ht' : s'.heap a with
  | none => simp [Sys.nameAt, ht'] at hn
  | some t' =>
    obtain ⟨t, ht, hname, -⟩ := h t' ht'
    simpa [Sys.nameAt, ht, ht', hname] using hn

/-- Writing tracker `b` keeps `a` when `b` is another tracker, or when the
write keeps `b`'s name and pages. -/
theorem setTracker {b : Nat} {s : Sys} {t1 : FileTracker}
    (hb : b ≠ a ∨ ∃ t0, s.heap b = some t0 ∧ t1.filename = t0.filename ∧
      ∀ p, bit t0.words p = true → bit t1.words p = true) :
    KeepsAt a s (s.setTracker b t1) := by
  by_cases hab : a = b
  · subst hab
    obtain ⟨t0, ht0, hn, hbits⟩ := hb.resolve_left (not_not.mpr rfl)
    intro t' ht'
    simp only [Sys.setTracker_heap_same, Option.some.injEq] at ht'
    exact ht' ▸ ⟨t0, ht0, hn, hbits⟩
  · exact .of_heap (Sys.setTracker_heap_ne _ _ hab)

theorem setIsOpen {b : Nat} {v : Bool} {s s' : Sys} (h : s.setIsOpen b v = .ok s') :
    KeepsAt a s s' := by
  obtain ⟨t, ht, rfl⟩ := Sys.setIsOpen_ok h
  exact .setTracker (.inr ⟨t, ht, rfl, fun _ => id⟩)

/-- A lookup changes no tracker allocated before it. -/
theorem getFile {c d : Bool} {s s1 : Sys} {n : Option (List Char)} {r : Option Nat}
    (hg : vfsTrackingGetFile c d s n = .ok (r, s1)) (ha : a < s.nextAddr) :
    KeepsAt a s s1 ∧ s.nextAddr ≤ s1.nextAddr := by
  cases n with
  | none => cases hg; exact ⟨.refl a _, le_rfl⟩
  | some name =>
    rcases getFile_ok hg with ⟨rfl, -⟩ | ⟨-, rfl⟩
    · exact ⟨.refl a _, le_rfl⟩
    · exact ⟨.of_heap (by simp [Sys.setTracker_heap_ne _ _ (Nat.ne_of_lt ha)]), by simp⟩

/-- A mark on success keeps every tracker: it only sets bits. -/
theorem markOnSuccess {alloc : Bool} {s s' : Sys} {h : Nat} {offset amount rc rc' : Int}
    (hm : TrackingVfs.markOnSuccess alloc s h offset amount rc = .ok (rc', s')) :
    KeepsAt a s s' ∧ s.nextAddr ≤ s'.nextAddr := by
  rcases markOnSuccess_ok hm with rfl | ⟨b, t, t', -, ht, hmk, rfl⟩
  · exact ⟨.refl a _, le_rfl⟩
  · exact ⟨.setTracker (.inr ⟨t, ht, (markDirty_frame hmk).1, markDirty_bits hmk⟩), le_rfl⟩

end KeepsAt

/-- **What one event keeps.** Every event keeps every tracker allocated before
it, with its name and at least its dirty pages, except the tracker a reset
clears, which is the one its name finds. -/
theorem step_keepsAt {s s' : Sys} {e : Event} (h : step s e = .ok s') {a : Nat}
    (ha : a < s.nextAddr)
    (hr : ∀ m c d, e = .resetDirty (some m) c d → s.nameAt a ≠ some (normalizeName m)) :
    KeepsAt a s s' ∧ s.nextAddr ≤ s'.nextAddr := by
  cases e with
  | init found ps rc =>
    cases h
    exact ⟨.of_heap (by simp), by simp⟩
  | shutdown =>
    cases h
    exact ⟨fun t' ht' => ⟨t', shutdown_heap ht', rfl, fun _ => id⟩, le_rfl⟩
  | getDirtyPages n c d m =>
    obtain ⟨⟨q, s1⟩, hq, hs⟩ := bind_eq_ok.mp h
    cases hs
    rcases getDirtyPages_ok hq with rfl | ⟨name, r, -, hg⟩
    · exact ⟨.refl a _, le_rfl⟩
    · exact KeepsAt.getFile hg ha
  | resetDirty n c d =>
    obtain ⟨⟨rc, s1⟩, hq, hs⟩ := bind_eq_ok.mp h
    cases hs
    rcases resetDirty_ok hq with rfl | ⟨name, r, s1, rfl, hg, rfl | ⟨b, t, ws, t', rfl, -, -, -, rfl⟩⟩
    · exact ⟨.refl a _, le_rfl⟩
    · exact KeepsAt.getFile hg ha
    · obtain ⟨h1, hle⟩ := KeepsAt.getFile hg ha
      refine ⟨h1.trans (.setTracker (.inl ?_)), hle⟩
      -- the cleared tracker is the one the name finds, or a fresh one
      rintro rfl
      rcases getFile_ok hg with ⟨-, hfound⟩ | ⟨hfresh, -⟩
      · exact hr name c d rfl (hfound _ rfl).2
      · cases hfresh
        omega
  | xOpen hd zName rc c d =>
    rcases step_xOpen h with rfl | ⟨-, r, s1, s2, hg, hm, rfl⟩
    · exact ⟨.refl a _, le_rfl⟩
    obtain ⟨h1, hle⟩ := KeepsAt.getFile hg ha
    rcases hm with ⟨-, rfl⟩ | ⟨b, -, hs⟩
    · exact ⟨h1.trans (.of_heap rfl), hle⟩
    · exact ⟨h1.trans ((KeepsAt.setIsOpen hs).trans (.of_heap rfl)),
        hle.trans (Sys.setIsOpen_frame hs).2.ge⟩
  | xClose hd rc =>
    obtain ⟨s1, hm, rfl⟩ := step_xClose h
    rcases hm with ⟨-, rfl⟩ | ⟨b, -, hs⟩
    · exact ⟨.of_heap rfl, le_rfl⟩
    · exact ⟨(KeepsAt.setIsOpen hs).trans (.of_heap rfl), (Sys.setIsOpen_frame hs).2.ge⟩
  | xWrite | xTruncate =>
    obtain ⟨⟨rc', s1⟩, hm, hs⟩ := bind_eq_ok.mp h
    cases hs
    exact KeepsAt.markOnSuccess hm

/-- A run keeps every tracker allocated before it whose name no reset of the
run finds. -/
theorem run_keepsAt : ∀ {s s' : Sys} (es : List Event), run s es = .ok s' → ∀ {a : Nat},
    a < s.nextAddr →
    (∀ m c d, Event.resetDirty (some m) c d ∈ es → s.nameAt a ≠ some (normalizeName m)) →
    KeepsAt a s s'
  | s, s', [], h, a, _, _ => by cases h; exact .refl a s
  | s, s', e :: es, h, a, ha, hr => by
    rw [run] at h
    obtain ⟨s1, h1, hrun⟩ := bind_eq_ok.mp h
    obtain ⟨hk, hle⟩ := step_keepsAt h1 ha fun m c d he => hr m c d (he ▸ List.mem_cons_self _ _)
    refine hk.trans (run_keepsAt es hrun (by omega) fun m c d hm hn => ?_)
    exact hr m c d (List.mem_cons_of_mem _ hm) (hk.nameAt hn)

/-- **A dirty page stays dirty until its name is reset.** In every run, whatever
`calloc`, `strdup`, `realloc` and `malloc` return and whatever the backend
answers, a page that is dirty in tracker `a` is still dirty after any later
events among which no reset of a name normalising to the tracker's name
occurs, as long as the tracker is still allocated. -/
theorem dirty_kept {host : List BaseVfs} {G : Sys → Event → Prop} {s s' : Sys}
    (hs : Reach host G s) {es : List Event} (hrun : run s es = .ok s') {a : Nat}
    {t t' : FileTracker} (ht : s.heap a = some t) (ht' : s'.heap a = some t')
    (hres : ∀ m c d, Event.resetDirty (some m) c d ∈ es → t.filename ≠ some (normalizeName m))
    {p : Nat} (hp : bit t.words p = true) : bit t'.words p = true := by
  have ha := (openFlag_reach false (fun _ _ _ h => nomatch h) hs).1.lt_of_heap ht
  obtain ⟨t0, ht0, -, hbits⟩ := run_keepsAt es hrun ha
    (fun m c d hm => by simpa [Sys.nameAt, ht] using hres m c d hm) t' ht'
  rw [ht, Option.some.injEq] at ht0
  exact hbits p (ht0 ▸ hp)

/-- After an init, an open of `db` and a write of ten bytes at `0`, a reset
of `other` and a write whose `realloc` fails leave page `0` dirty. -/
theorem dirty_kept_db :
    ∃ s s' t t', Reach [] (fun _ _ => True) s ∧
      run s [.resetDirty (some "other".toList) true true, .xWrite 0 10 8192 SQLITE_OK false] =
        .ok s' ∧ s.heap 0 = some t ∧ s'.heap 0 = some t' ∧
      (∀ m c d, Event.resetDirty (some m) c d ∈
          [Event.resetDirty (some "other".toList) true true, .xWrite 0 10 8192 SQLITE_OK false] →
        t.filename ≠ some (normalizeName m)) ∧
      bit t.words 0 = true ∧ bit t'.words 0 = true := by
  have hr := @reach_of_legalRun [] _ _ [.init (some ⟨"memfs".toList, 0, 0, []⟩) 4096 SQLITE_OK,
    .xOpen 0 (some "db".toList) SQLITE_OK true true, .xWrite 0 10 0 SQLITE_OK true] .start rfl
  have hres : ∀ m c d, Event.resetDirty (some m) c d ∈
      [Event.resetDirty (some "other".toList) true true, .xWrite 0 10 8192 SQLITE_OK false] →
      some "db".toList ≠ some (normalizeName m) := by
    intro m c d hm
    simp only [List.mem_cons, Event.resetDirty.injEq, Option.some.injEq, List.mem_singleton,
      reduceCtorEq, or_false, List.not_mem_nil] at hm
    obtain ⟨rfl, -, -⟩ := hm
    decide
  exact ⟨_, _, _, _, hr, rfl, rfl, rfl, hres, rfl, @dirty_kept [] _ _ _ hr
    [.resetDirty (some "other".toList) true true, .xWrite 0 10 8192 SQLITE_OK false] rfl 0 _ _
    rfl rfl hres 0 rfl⟩

/-- A write whose bitmap cannot grow is accepted and leaves no trace. Through a file whose tracker has a page size and covers its pages, a write the
real file accepted whose last page lies past the block needs a growth; when
`realloc` fails, `vfs_tracking_mark_dirty` returns without marking, so the
step returns normally and changes nothing: no query will report its pages. -/
theorem write_realloc_fails {s : Sys} {hd a : Nat} {t : FileTracker}
    (hp : (s.handles hd).pTracker = some a) (ht : s.heap a = some t) (hps : 0 < t.pageSize)
    (hcover : t.totalPages ≤ 32 * t.bitmapSize) {iAmt iOfst : Int} (ha : 0 < iAmt)
    (hmax : iOfst + iAmt ≤ INT64_MAX)
    (hpast : 32 * t.bitmapSize ≤ endPage t.pageSize iOfst iAmt)
    (hend : endPage t.pageSize iOfst iAmt + 32 < 2 ^ 32) :
    step s (.xWrite hd iAmt iOfst SQLITE_OK false) = .ok s := by
  have hens : ensureBitmap false t ((endPage t.pageSize iOfst iAmt + 1) % 2 ^ 32) = none := by
    rw [Nat.mod_eq_of_lt (by omega)]
    simp only [ensureBitmap, Bool.false_eq_true, ↓reduceIte]
    rw [if_pos (by omega), Nat.mod_eq_of_lt (by omega), if_pos (by omega)]
  have hmk : vfsTrackingMarkDirty false t iOfst iAmt = .ok t := by
    simp only [vfsTrackingMarkDirty, if_neg (show ¬iAmt ≤ 0 by omega),
      if_neg (show t.pageSize ≠ 0 by omega), if_neg (show ¬iOfst + iAmt > INT64_MAX by omega)]
    rw [hens]
  simp [step, fileWrite, markOnSuccess, hp, Sys.updTracker, ht, hmk, Sys.setTracker_self ht, bind,
    Except.bind, pure, Except.pure]

/-! ### Lookups keep finding their tracker -/

/-- `s'` has a named list on which every name that finds a tracker in `s`
finds the same tracker. -/
structure KeepsLookups (s s' : Sys) : Prop where
  named : Named s'
  lookup : ∀ n a, lookup s n = some a → lookup s' n = some a

namespace KeepsLookups

theorem refl {s : Sys} (h : Named s) : KeepsLookups s s := ⟨h, fun _ _ => id⟩

theorem trans {s s1 s2 : Sys} (h1 : KeepsLookups s s1) (h2 : KeepsLookups s1 s2) :
    KeepsLookups s s2 :=
  ⟨h2.named, fun n a h => h2.lookup n a (h1.lookup n a h)⟩

theorem of_grows {s s' : Sys} (h : Grows s s') : KeepsLookups s s' := ⟨h.named, h.lookup⟩

theorem setHandle {s : Sys} (h : Named s) (hd : Nat) (f : Handle) :
    KeepsLookups s (s.setHandle hd f) :=
  ⟨h, fun _ _ => id⟩

end KeepsLookups

/-- Every event but an init and a shutdown keeps every lookup, when no
`strdup` of its lookups fails. -/
theorem step_keepsLookups {s s' : Sys} {e : Event} (hs : Named s) (hg : StrdupOk s e)
    (hi : ∀ found ps rc, e ≠ .init found ps rc) (hsd : e ≠ .shutdown)
    (h : step s e = .ok s') : KeepsLookups s s' := by
  cases e with
  | init found ps rc => exact absurd rfl (hi found ps rc)
  | shutdown => exact absurd rfl hsd
  | getDirtyPages _ _ d _ | resetDirty _ _ d =>
    cases (hg : d = true)
    exact .of_grows ((step_quiet h rfl).grows hs)
  | xOpen hd zName rc c d =>
    cases (hg : d = true)
    rcases step_xOpen h with rfl | ⟨-, r, s1, s2, hgf, hm, rfl⟩
    · exact .refl hs
    have h1 : KeepsLookups s s1 := by
      cases zName with
      | none => cases hgf; exact .refl hs
      | some name => exact .of_grows (getFile_grows hs hgf).1
    have h2 : KeepsLookups s1 s2 := by
      rcases hm with ⟨-, rfl⟩ | ⟨a, -, ha⟩
      · exact .refl h1.named
      · exact .of_grows (setIsOpen_grows h1.named ha)
    exact h1.trans (h2.trans (.setHandle h2.named _ _))
  | xClose hd rc =>
    obtain ⟨s1, hm, rfl⟩ := step_xClose h
    have h1 : KeepsLookups s s1 := by
      rcases hm with ⟨-, rfl⟩ | ⟨a, -, ha⟩
      · exact .refl hs
      · exact .of_grows (setIsOpen_grows hs ha)
    exact h1.trans (.setHandle h1.named _ _)
  | xWrite | xTruncate => exact .of_grows ((step_quiet h rfl).grows hs)

theorem run_keepsLookups : ∀ {s s' : Sys} (es : List Event), Named s → run s es = .ok s' →
    (∀ e ∈ es, StrdupOk s e ∧ e ≠ .shutdown ∧ ∀ found ps rc, e ≠ .init found ps rc) →
    KeepsLookups s s'
  | s, s', [], hs, h, _ => by cases h; exact .refl hs
  | s, s', e :: es, hs, h, hes => by
    rw [run] at h
    obtain ⟨s1, h1, hrun⟩ := bind_eq_ok.mp h
    obtain ⟨hg, hsd, hi⟩ := hes e (List.mem_cons_self _ _)
    have hk := step_keepsLookups hs hg hi hsd h1
    exact hk.trans (run_keepsLookups es hk.named hrun fun e' he' =>
      hes e' (List.mem_cons_of_mem _ he'))

/-- **A lookup keeps finding its tracker.** In every run in which no `strdup`
of a lookup fails, once `vfs_tracking_get_file` has returned a tracker for a
name, every later lookup of a name with the same normalisation, whatever
`calloc` and `strdup` then do, returns that tracker and changes nothing, as
long as no init or shutdown intervenes and no `strdup` of the events in
between fails. -/
theorem getFile_stable {host : List BaseVfs} {s s1 s' : Sys} (hr : Reach host StrdupOk s)
    {c : Bool} {n : List Char} {a : Nat}
    (hg : vfsTrackingGetFile c true s (some n) = .ok (some a, s1)) {es : List Event}
    (hrun : run s1 es = .ok s')
    (hes : ∀ e ∈ es, StrdupOk s1 e ∧ e ≠ .shutdown ∧ ∀ found ps rc, e ≠ .init found ps rc)
    (m : List Char) (hm : normalizeName m = normalizeName n) (c' d' : Bool) :
    vfsTrackingGetFile c' d' s' (some m) = .ok (some a, s') := by
  obtain ⟨hgrow, hl⟩ := getFile_grows (Distinct.reach hr).named hg
  have hk := run_keepsLookups es hgrow.named hrun hes
  exact getFile_found hk.named (hm ▸ hk.lookup _ _ (hl a rfl))

/-- After an init, a lookup of `db` links tracker `0`; after an open of `/db`,
a write and a reset of `x`, a lookup of `/db` still returns it. -/
theorem getFile_stable_db :
    ∃ s s1 s', Reach [] StrdupOk s ∧
      vfsTrackingGetFile true true s (some "db".toList) = .ok (some 0, s1) ∧
      run s1 [.xOpen 0 (some "/db".toList) SQLITE_OK true true, .xWrite 0 10 0 SQLITE_OK true,
        .resetDirty (some "x".toList) true true] = .ok s' ∧
      (∀ e ∈ [Event.xOpen 0 (some "/db".toList) SQLITE_OK true true,
          .xWrite 0 10 0 SQLITE_OK true, .resetDirty (some "x".toList) true true],
        StrdupOk s1 e ∧ e ≠ .shutdown ∧ ∀ found ps rc, e ≠ .init found ps rc) ∧
      normalizeName "/db".toList = normalizeName "db".toList ∧
      vfsTrackingGetFile false false s' (some "/db".toList) = .ok (some 0, s') := by
  have hr := @Reach.step [] StrdupOk _ _ (.init (some ⟨"memfs".toList, 0, 0, []⟩) 4096 SQLITE_OK)
    .start rfl trivial rfl
  have hes : ∀ e ∈ [Event.xOpen 0 (some "/db".toList) SQLITE_OK true true,
      .xWrite 0 10 0 SQLITE_OK true, .resetDirty (some "x".toList) true true],
      ∀ x, StrdupOk x e ∧ e ≠ .shutdown ∧ ∀ found ps rc, e ≠ .init found ps rc := by
    intro e he x
    simp only [List.mem_cons, List.mem_singleton, List.not_mem_nil, or_false] at he
    rcases he with rfl | rfl | rfl <;> exact ⟨by simp [StrdupOk], nofun, nofun⟩
  refine ⟨_, _, _, hr, rfl, rfl, fun e he => hes e he _, rfl, ?_⟩
  exact @getFile_stable [] _ _ _ hr true "db".toList 0 rfl
    [.xOpen 0 (some "/db".toList) SQLITE_OK true true, .xWrite 0 10 0 SQLITE_OK true,
      .resetDirty (some "x".toList) true true] rfl (fun e he => hes e he _) _ rfl false false

end TrackingVfs
