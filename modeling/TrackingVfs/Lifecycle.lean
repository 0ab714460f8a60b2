/-
# Shutdown, and the files that stay open across it

`Anchored` ties the engine's open files to the registry: the list is named, and
an open file with a tracker points at the tracker its own name looks up. A
shutdown with a file open breaks it (`shutdown_open_file`): the file keeps a
pointer to a tracker that is freed and off the list. In the runs where the
registry is discarded only while no file is open (`Tidy`), and `strdup` does
not fail, every step keeps it (`Anchored.step`), so in every such run the
tracker an open file writes to is the one `vfs_tracking_get_file`, and so the
query and the reset, find for its name (`open_file_tracker`).

In every run where no `strdup` fails (`StrdupOk`), with shutdowns anywhere, the
trackers on the list carry pairwise different names (`registry_distinct`).
-/
import TrackingVfs.System

namespace TrackingVfs

/-! ### Shutdown with a file open -/

/-- **A shutdown with a file open** leaves the file pointing at a tracker that
is freed and off the list: the file's next write is a use after free. -/
theorem shutdown_open_file :
    ∃ s, Reach [] (fun _ _ => True) s ∧ (s.handles 0).pMethods = true ∧
      (s.handles 0).pTracker = some 0 ∧ 0 ∉ s.gState.files ∧
      step s (.xWrite 0 1 0 SQLITE_OK true) = .error .useAfterFree :=
  ⟨_, reach_of_legalRun [.init (some ⟨"memfs".toList, 0, 0, []⟩) 4096 SQLITE_OK,
    .xOpen 0 (some "db".toList) SQLITE_OK true true, .shutdown] .start rfl,
    rfl, rfl, by decide, rfl⟩

/-! ### Open files and the registry -/

/-- No engine file is open. -/
def NoOpenFiles (s : Sys) : Prop := ∀ h, (s.handles h).pMethods = false

/-- The runs that discard the registry (by a shutdown, or by an init that
finds its base VFS while uninitialised) only while no file is open, and in
which no `strdup` of a lookup fails. -/
def Tidy (s : Sys) : Event → Prop
  | .init found _ _ => found.isSome → s.gState.pRealVfs = none → NoOpenFiles s
  | .shutdown => NoOpenFiles s
  | .getDirtyPages _ _ d _ | .resetDirty _ _ d | .xOpen _ _ _ _ d => d = true
  | _ => True

/-- The list is named, and every open file with a tracker points at the
tracker its own name looks up. -/
structure Anchored (s : Sys) : Prop where
  named : Named s
  files : ∀ h a, (s.handles h).pMethods = true → (s.handles h).pTracker = some a →
    ∃ name, (s.handles h).zName = some name ∧ lookup s (normalizeName name) = some a

/-- `s'` has a named list, keeps the engine's files, and finds every tracker a
lookup in `s` finds. -/
structure Grows (s s' : Sys) : Prop where
  named : Named s'
  handles : s'.handles = s.handles
  lookup : ∀ n a, lookup s n = some a → lookup s' n = some a

theorem Grows.refl {s : Sys} (h : Named s) : Grows s s := ⟨h, rfl, fun _ _ => id⟩

theorem Grows.trans {s s1 s2 : Sys} (h1 : Grows s s1) (h2 : Grows s1 s2) : Grows s s2 :=
  ⟨h2.named, h2.handles.trans h1.handles, fun n a h => h2.lookup n a (h1.lookup n a h)⟩

/-- A lookup with `strdup` succeeding grows the registry, and the tracker it
returns is the one its name now finds. -/
theorem getFile_grows {s s1 : Sys} (h : Named s) {c : Bool} {name : List Char}
    {r : Option Nat} (hg : vfsTrackingGetFile c true s (some name) = .ok (r, s1)) :
    Grows s s1 ∧ ∀ a, r = some a → lookup s1 (normalizeName name) = some a := by
  rw [getFile_named h] at hg
  cases hl : lookup s (normalizeName name) with
  | some b =>
    simp only [hl, Except.ok.injEq, Prod.mk.injEq] at hg
    obtain ⟨rfl, rfl⟩ := hg
    exact ⟨.refl h, fun a ha => ha ▸ hl⟩
  | none =>
    cases c <;> simp only [hl, Bool.false_eq_true, if_false, if_true, Except.ok.injEq,
      Prod.mk.injEq] at hg <;> obtain ⟨rfl, rfl⟩ := hg
    · exact ⟨.refl h, fun _ ha => by cases ha⟩
    · have hi := lookup_insertFresh h (normalizeName name)
      refine ⟨⟨insertFresh_named h _, rfl, fun n a hn => ?_⟩, fun a ha => ?_⟩
      · have hne : n ≠ normalizeName name := fun e => by rw [e, hl] at hn; cases hn
        rw [hi, if_neg hne, hn]
      · rw [hi, if_pos rfl, ha]

/-- A write that keeps a tracker's name grows the registry. -/
theorem setTracker_grows {s : Sys} (h : Named s) {a : Nat} {t t' : FileTracker}
    (ht : s.heap a = some t) (hn : t'.filename = t.filename) : Grows s (s.setTracker a t') := by
  have hnA : t'.filename = s.nameAt a := by simp [Sys.nameAt, ht, hn]
  exact ⟨h.setTracker hnA, rfl, fun n b hb => by rw [lookup_setTracker hnA]; exact hb⟩

theorem setIsOpen_grows {s s' : Sys} (h : Named s) {a : Nat} {b : Bool}
    (hs : s.setIsOpen a b = .ok s') : Grows s s' := by
  obtain ⟨t, ht, rfl⟩ := Sys.setIsOpen_ok hs
  exact setTracker_grows h ht rfl

/-- Quiet steps whose lookups' `strdup` succeeds grow the registry. -/
theorem Quiet.grows {s s' : Sys} (hq : Quiet true s s') (h : Named s) : Grows s s' := by
  induction hq with
  | refl => exact .refl h
  | getFile hg _ ih =>
    have hg' := getFile_grows h hg
    exact hg'.1.trans (ih hg'.1.named)
  | write ht hf _ ih =>
    have hw := setTracker_grows h ht hf.1
    exact hw.trans (ih hw.named)

theorem Anchored.grows {s s' : Sys} (hs : Anchored s) (hg : Grows s s') : Anchored s' := by
  refine ⟨hg.named, fun h a hm ha => ?_⟩
  rw [hg.handles] at hm ha ⊢
  obtain ⟨name, hz, hl⟩ := hs.files h a hm ha
  exact ⟨name, hz, hg.lookup _ _ hl⟩

/-- An empty list with no file open is anchored. -/
theorem Anchored.of_empty {s : Sys} (hf : s.gState.files = []) (hno : NoOpenFiles s) :
    Anchored s :=
  ⟨(fun a ha => by rw [hf] at ha; cases ha), fun h _ hm => by rw [hno h] at hm; cases hm⟩

theorem Anchored.init {s : Sys} (hs : Anchored s) {found : Option BaseVfs} {ps : UInt32}
    {rc : Int} (hg : found.isSome → s.gState.pRealVfs = none → NoOpenFiles s) :
    Anchored (vfsTrackingInit found ps rc s).2 := by
  unfold vfsTrackingInit
  by_cases hi : s.gState.pRealVfs.isSome
  · simp only [hi, if_true]
    exact hs
  simp only [hi, Bool.false_eq_true, if_false]
  cases found with
  | none => exact hs
  | some v =>
    have hno := hg rfl (Option.not_isSome_iff_eq_none.mp hi)
    dsimp only
    split_ifs <;> exact .of_empty rfl hno

/-- An open of file `hd`, not open before, keeps the registry anchored. -/
theorem Anchored.xOpen {s s' : Sys} (hs : Anchored s) {hd : Nat} {zName : Option (List Char)}
    {rc : Int} {c : Bool} (hl : (s.handles hd).pMethods = false)
    (h : step s (.xOpen hd zName rc c true) = .ok s') : Anchored s' := by
  rcases step_xOpen h with rfl | ⟨-, r, s1, s2, hg, hm, rfl⟩
  · exact hs
  -- the lookup grows the registry and its tracker is the one `zName` finds
  have h1 : Grows s s1 ∧ ∀ a, r = some a → ∃ name, zName = some name ∧
      lookup s1 (normalizeName name) = some a := by
    cases zName with
    | none =>
      cases hg
      exact ⟨.refl hs.named, fun _ ha => by cases ha⟩
    | some name =>
      have := getFile_grows hs.named hg
      exact ⟨this.1, fun a ha => ⟨name, rfl, this.2 a ha⟩⟩
  have h2 : Grows s1 s2 := by
    rcases hm with ⟨-, rfl⟩ | ⟨a, -, ha⟩
    · exact .refl h1.1.named
    · exact setIsOpen_grows h1.1.named ha
  have hg2 := h1.1.trans h2
  refine ⟨hg2.named, fun h a hm ha => ?_⟩
  by_cases hh : h = hd
  · subst hh
    simp only [Sys.setHandle_handles_same] at ha ⊢
    obtain ⟨name, hz, hl1⟩ := h1.2 a ha
    exact ⟨name, hz, h2.lookup _ _ hl1⟩
  · rw [Sys.setHandle_handles_ne _ _ hh, hg2.handles] at hm ha ⊢
    obtain ⟨name, hz, hl0⟩ := hs.files h a hm ha
    exact ⟨name, hz, hg2.lookup _ _ hl0⟩

/-- A close keeps the registry anchored. -/
theorem Anchored.xClose {s s' : Sys} (hs : Anchored s) {hd : Nat} {rc : Int}
    (h : step s (.xClose hd rc) = .ok s') : Anchored s' := by
  obtain ⟨s1, hm, rfl⟩ := step_xClose h
  have h1 : Grows s s1 := by
    rcases hm with ⟨-, rfl⟩ | ⟨a, -, ha⟩
    · exact .refl hs.named
    · exact setIsOpen_grows hs.named ha
  refine ⟨h1.named, fun h a hm ha => ?_⟩
  by_cases hh : h = hd
  · subst hh
    simp at hm
  · rw [Sys.setHandle_handles_ne _ _ hh, h1.handles] at hm ha ⊢
    obtain ⟨name, hz, hl0⟩ := hs.files h a hm ha
    exact ⟨name, hz, h1.lookup _ _ hl0⟩

/-- **One step of a tidy run keeps the registry anchored.** -/
theorem Anchored.step {s s' : Sys} {e : Event} (hs : Anchored s) (hl : engineLegal s e = true)
    (hg : Tidy s e) (h : step s e = .ok s') : Anchored s' := by
  cases e with
  | init found ps rc => cases h; exact hs.init hg
  | shutdown =>
    cases h
    exact .of_empty rfl hg
  | getDirtyPages n c d m =>
    cases (hg : d = true)
    exact hs.grows ((step_quiet h rfl).grows hs.named)
  | resetDirty n c d =>
    cases (hg : d = true)
    exact hs.grows ((step_quiet h rfl).grows hs.named)
  | xOpen hd zName rc c d =>
    cases (hg : d = true)
    exact hs.xOpen (by simpa [engineLegal] using hl) h
  | xClose hd rc => exact hs.xClose h
  | xWrite => exact hs.grows ((step_quiet h rfl).grows hs.named)
  | xTruncate => exact hs.grows ((step_quiet h rfl).grows hs.named)

theorem Anchored.reach {host : List BaseVfs} {s : Sys} (hr : Reach host Tidy s) : Anchored s := by
  induction hr with
  | start => exact .of_empty rfl fun _ => rfl
  | step _ hl hg h ih => exact ih.step hl hg h

/-- **An open file's tracker is its name's tracker.** In every tidy run, a
tracker that an open file points at (the one its writes mark) is on the list,
and `vfs_tracking_get_file` of any name with the same normalisation as the
file's own name returns that tracker and changes nothing, whatever `calloc` and
`strdup` would do; the query and the reset read the tracker this lookup
returns. -/
theorem open_file_tracker {host : List BaseVfs} {s : Sys} (hr : Reach host Tidy s) {h a : Nat}
    (hm : (s.handles h).pMethods = true) (ha : (s.handles h).pTracker = some a) :
    a ∈ s.gState.files ∧ ∃ name, (s.handles h).zName = some name ∧
      ∀ calloc strdup m, normalizeName m = normalizeName name →
        vfsTrackingGetFile calloc strdup s (some m) = .ok (some a, s) := by
  have hs := Anchored.reach hr
  obtain ⟨name, hz, hl⟩ := hs.files h a hm ha
  exact ⟨(lookup_mem hl).1, name, hz, fun _ _ m hm' => getFile_found hs.named (hm' ▸ hl)⟩

/-- After an init and an open of `/db`, the file's tracker `0` is what a
lookup of `db` returns. -/
theorem open_file_tracker_db :
    ∃ s, Reach [] Tidy s ∧ (s.handles 0).pMethods = true ∧ (s.handles 0).pTracker = some 0 ∧
      (0 ∈ s.gState.files ∧ ∃ name, (s.handles 0).zName = some name ∧
        ∀ calloc strdup m, normalizeName m = normalizeName name →
          vfsTrackingGetFile calloc strdup s (some m) = .ok (some 0, s)) := by
  have h1 := @Reach.step [] Tidy _ _ (.init (some ⟨"memfs".toList, 0, 0, []⟩) 4096 SQLITE_OK)
    .start rfl (fun _ _ _ => rfl) rfl
  have h2 := @Reach.step [] Tidy _ _ (.xOpen 0 (some "/db".toList) SQLITE_OK true true) h1 rfl rfl rfl
  exact ⟨_, h2, rfl, rfl, open_file_tracker h2 rfl rfl⟩

/-! ### The registry's names

The part of the registry's design that survives every run in which no `strdup`
fails: the trackers on the list have pairwise different names, so the tracker a
lookup finds is the one tracker carrying the name (`Distinct.lookup_iff`), and
a lookup links a fresh tracker only for a name no tracker carries
(`getFile_named`). -/

/-- The runs in which no `strdup` of a lookup fails. -/
def StrdupOk (_ : Sys) : Event → Prop
  | .getDirtyPages _ _ d _ | .resetDirty _ _ d | .xOpen _ _ _ _ d => d = true
  | _ => True

/-- The list is named, holds no address twice, and no two of its trackers
carry the same name. -/
structure Distinct (s : Sys) : Prop where
  named : Named s
  nodup : s.gState.files.Nodup
  names : ∀ a ∈ s.gState.files, ∀ b ∈ s.gState.files, s.nameAt a = s.nameAt b → a = b

namespace Distinct

theorem of_empty {s : Sys} (hf : s.gState.files = []) : Distinct s :=
  ⟨(fun a ha => by rw [hf] at ha; cases ha), (by rw [hf]; exact List.nodup_nil),
    fun a ha => by rw [hf] at ha; cases ha⟩

/-- On a distinct list the tracker a name finds is the one that carries it. -/
theorem lookup_iff {s : Sys} (hs : Distinct s) (n : List Char) (a : Nat) :
    lookup s n = some a ↔ a ∈ s.gState.files ∧ s.nameAt a = some n := by
  refine ⟨lookup_mem, fun ⟨ha, hn⟩ => ?_⟩
  cases hl : lookup s n with
  | none => exact absurd hn (lookup_eq_none.mp hl a ha)
  | some b =>
    have hb := lookup_mem hl
    rw [hs.names b hb.1 a ha (hb.2.trans hn.symm)]

theorem setTracker {s : Sys} (hs : Distinct s) {a : Nat} {t t' : FileTracker}
    (ht : s.heap a = some t) (hn : t'.filename = t.filename) : Distinct (s.setTracker a t') := by
  have hnA : t'.filename = s.nameAt a := by simp [Sys.nameAt, ht, hn]
  refine ⟨hs.named.setTracker hnA, hs.nodup, ?_⟩
  rw [nameAt_setTracker_same ht hn]
  exact hs.names

theorem insertFresh {s : Sys} (hs : Distinct s) {name : List Char} (hl : lookup s name = none) :
    Distinct (s.insertFresh name) := by
  have hout : s.nextAddr ∉ s.gState.files := fun h => (hs.named _ h).1.false
  have hnew : (s.insertFresh name).nameAt s.nextAddr = some name := by
    simp [Sys.insertFresh, Sys.nameAt]
  have hold := fun a (ha : a ∈ s.gState.files) => insertFresh_nameAt_ne hs.named name ha
  refine ⟨insertFresh_named hs.named name, List.nodup_cons.mpr ⟨hout, hs.nodup⟩, ?_⟩
  -- the fresh name is carried by no tracker of the list
  have hfresh : ∀ b ∈ s.gState.files, (s.insertFresh name).nameAt b ≠ some name :=
    fun b hb => by rw [hold b hb]; exact lookup_eq_none.mp hl b hb
  simp only [Sys.insertFresh, List.mem_cons] at *
  rintro a (rfl | ha) b (rfl | hb) he
  · rfl
  · exact absurd (he.symm.trans hnew) (hfresh b hb)
  · exact absurd (he.trans hnew) (hfresh a ha)
  · rw [hold a ha, hold b hb] at he
    exact hs.names a ha b hb he

theorem getFile {s s1 : Sys} (hs : Distinct s) {c : Bool} {name : List Char} {r : Option Nat}
    (hg : vfsTrackingGetFile c true s (some name) = .ok (r, s1)) : Distinct s1 := by
  rw [getFile_named hs.named] at hg
  cases hl : lookup s (normalizeName name) with
  | some b =>
    simp only [hl, Except.ok.injEq, Prod.mk.injEq] at hg
    rw [← hg.2]
    exact hs
  | none =>
    cases c <;> simp only [hl, Bool.false_eq_true, if_false, if_true, Except.ok.injEq,
      Prod.mk.injEq] at hg <;> rw [← hg.2]
    · exact hs
    · exact hs.insertFresh hl

theorem quiet {s s' : Sys} (hq : Quiet true s s') (hs : Distinct s) : Distinct s' := by
  induction hq with
  | refl => exact hs
  | getFile hg _ ih => exact ih (hs.getFile hg)
  | write ht hf _ ih => exact ih (hs.setTracker ht hf.1)

theorem setIsOpen {s s' : Sys} (hs : Distinct s) {a : Nat} {b : Bool}
    (h : s.setIsOpen a b = .ok s') : Distinct s' := by
  obtain ⟨t, ht, rfl⟩ := Sys.setIsOpen_ok h
  exact hs.setTracker ht rfl

theorem setHandle {s : Sys} (hs : Distinct s) (hd : Nat) (f : Handle) :
    Distinct (s.setHandle hd f) :=
  ⟨hs.named, hs.nodup, hs.names⟩

/-- One step whose lookups' `strdup` succeeds keeps the names distinct. -/
theorem step {s s' : Sys} {e : Event} (hs : Distinct s) (hg : StrdupOk s e)
    (h : step s e = .ok s') : Distinct s' := by
  cases e with
  | init found ps rc =>
    cases h
    rcases vfsTrackingInit_files found ps rc s with he | he
    · rw [he]; exact hs
    · exact .of_empty he
  | shutdown => cases h; exact .of_empty rfl
  | getDirtyPages n c d m =>
    cases (hg : d = true)
    exact hs.quiet (step_quiet h rfl)
  | resetDirty n c d =>
    cases (hg : d = true)
    exact hs.quiet (step_quiet h rfl)
  | xOpen hd zName rc c d =>
    cases (hg : d = true)
    rcases step_xOpen h with rfl | ⟨-, r, s1, s2, hgf, hm, rfl⟩
    · exact hs
    have h1 : Distinct s1 := by
      cases zName with
      | none => cases hgf; exact hs
      | some name => exact hs.getFile hgf
    rcases hm with ⟨-, rfl⟩ | ⟨a, -, ha⟩
    · exact h1.setHandle hd _
    · exact (h1.setIsOpen ha).setHandle hd _
  | xClose hd rc =>
    obtain ⟨s1, hm, rfl⟩ := step_xClose h
    rcases hm with ⟨-, rfl⟩ | ⟨a, -, ha⟩
    · exact hs.setHandle hd _
    · exact (hs.setIsOpen ha).setHandle hd _
  | xWrite => exact hs.quiet (step_quiet h rfl)
  | xTruncate => exact hs.quiet (step_quiet h rfl)

theorem reach {host : List BaseVfs} {s : Sys} (hr : Reach host StrdupOk s) : Distinct s := by
  induction hr with
  | start => exact .of_empty rfl
  | step _ _ hg h ih => exact ih.step hg h

end Distinct

/-- **The registry's names are distinct.** In every run whose lookups'
`strdup` succeeds, every tracker on the list is allocated and named, no two
carry the same name, and so a name finds exactly the tracker that carries it. -/
theorem registry_distinct {host : List BaseVfs} {s : Sys} (hr : Reach host StrdupOk s) :
    Named s ∧ (∀ a ∈ s.gState.files, ∀ b ∈ s.gState.files, s.nameAt a = s.nameAt b → a = b) ∧
      ∀ n a, lookup s n = some a ↔ a ∈ s.gState.files ∧ s.nameAt a = some n := by
  have hs := Distinct.reach hr
  exact ⟨hs.named, hs.names, hs.lookup_iff⟩

/-- After an init and opens of `db`, `/db` and `x`, the list holds two
trackers, named `x` and `db`. -/
theorem registry_distinct_db :
    ∃ s, Reach [] StrdupOk s ∧ s.gState.files = [1, 0] ∧ Named s ∧
      (∀ a ∈ s.gState.files, ∀ b ∈ s.gState.files, s.nameAt a = s.nameAt b → a = b) ∧
      ∀ n a, lookup s n = some a ↔ a ∈ s.gState.files ∧ s.nameAt a = some n := by
  have h1 := @Reach.step [] StrdupOk _ _ (.init (some ⟨"memfs".toList, 0, 0, []⟩) 4096 SQLITE_OK)
    .start rfl trivial rfl
  have h2 := @Reach.step [] StrdupOk _ _ (.xOpen 0 (some "db".toList) SQLITE_OK true true) h1 rfl
    rfl rfl
  have h3 := @Reach.step [] StrdupOk _ _ (.xOpen 1 (some "/db".toList) SQLITE_OK true true) h2 rfl
    rfl rfl
  have h4 := @Reach.step [] StrdupOk _ _ (.xOpen 2 (some "x".toList) SQLITE_OK true true) h3 rfl
    rfl rfl
  exact ⟨_, h4, rfl, registry_distinct h4⟩

end TrackingVfs
