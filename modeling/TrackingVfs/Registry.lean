/-
# The registry: `g_state`, the trackers and their lifecycle

The process-wide state of `vfs_tracking.c` (`g_state`, the trackers that
`calloc` put on the heap, the static `trackingVfs` and the host's list of
registered VFSes), the engine's open files, and the registry operations:
`vfs_tracking_get_file`, `vfs_tracking_init`, `vfs_tracking_shutdown`,
`vfs_tracking_get_dirty_pages` and `vfs_tracking_reset_dirty`.

The outcome of each call out of the module is an argument: what
`sqlite3_vfs_find` returns, what `sqlite3_vfs_register` returns, whether
`calloc`, `strdup`, `realloc` and `malloc` succeed. A `calloc` that succeeds
returns `nextAddr`, an address never used before.

`lookup` is the tracker the list walk of `vfs_tracking_get_file` finds; on a
list of named trackers the walk never faults (`findTracker_eq`), and a lookup
either returns that tracker and changes nothing, or inserts a fresh one and
leaves every other lookup as it was (`getFile_found`, `getFile_fresh`).
-/
import TrackingVfs.Tracker

namespace TrackingVfs

/-- The optional methods of `sqlite3_vfs` past `xFullPathname`, which
`vfs_tracking_init` copies from the base VFS. -/
inductive VfsMethod where
  | xDlOpen | xDlError | xDlSym | xDlClose | xRandomness | xSleep | xCurrentTime
  | xGetLastError | xCurrentTimeInt64 | xSetSystemCall | xGetSystemCall | xNextSystemCall
  deriving DecidableEq, Repr

/-- A base `sqlite3_vfs` of the host, with the fields `vfs_tracking_init` reads:
`szOsFile`, `mxPathname`, and which of the copied methods it provides. -/
structure BaseVfs where
  zName : List Char
  szOsFile : Nat
  mxPathname : Nat
  methods : List VfsMethod
  deriving DecidableEq, Repr

/-- The static `trackingVfs`, in the fields `vfs_tracking_init` fills in:
`szOsFile`, `mxPathname`, `pAppData` (the real VFS) and the copied methods that
are not `0`. -/
structure SqliteVfs where
  szOsFile : Nat
  mxPathname : Nat
  pAppData : Option BaseVfs
  methods : List VfsMethod
  deriving DecidableEq, Repr

/-- An entry of the host's list of registered VFSes. -/
inductive VfsRef where
  | tracking
  | base (v : BaseVfs)
  deriving DecidableEq, Repr

/-- `VfsTrackingState` of `vfs_tracking.h`: `files` is the linked list of
trackers, as the addresses of its nodes in list order. -/
structure VfsTrackingState where
  files : List Nat
  pRealVfs : Option BaseVfs
  defaultPageSize : Nat
  deriving DecidableEq, Repr

/-- An `sqlite3_file` the engine holds through the tracking VFS: whether its
`pMethods` is set, the `pTracker` of its `TrackingFile`, and the name the engine
opened it under (the engine keeps that name beside the file). -/
structure Handle where
  pMethods : Bool
  pTracker : Option Nat
  zName : Option (List Char)
  deriving DecidableEq, Repr

/-- The whole state: `g_state`, the heap of trackers, where the next `calloc`
goes, the static `trackingVfs`, the host's registered VFSes (the default
first), and the engine's files. -/
structure Sys where
  gState : VfsTrackingState
  heap : Nat → Option FileTracker
  nextAddr : Nat
  trackingVfs : SqliteVfs
  vfsList : List VfsRef
  handles : Nat → Handle

/-- The state at process start, with the host's own VFSes registered. -/
def Sys.start (host : List BaseVfs) : Sys where
  gState := ⟨[], none, 0⟩
  heap := fun _ => none
  nextAddr := 0
  trackingVfs := ⟨0, 0, none, []⟩
  vfsList := host.map .base
  handles := fun _ => ⟨false, none, none⟩

namespace Sys

/-- Write tracker `a`. -/
def setTracker (s : Sys) (a : Nat) (t : FileTracker) : Sys :=
  { s with heap := Function.update s.heap a (some t) }

/-- Apply `f` to tracker `a`: an access to a freed tracker is a use after free. -/
def updTracker (s : Sys) (a : Nat) (f : FileTracker → Except Fault FileTracker) :
    Except Fault Sys :=
  match s.heap a with
  | none => .error .useAfterFree
  | some t => do
    let t' ← f t
    pure (s.setTracker a t')

/-- The name of the tracker at `a`, if there is one and it has a name. -/
def nameAt (s : Sys) (a : Nat) : Option (List Char) := (s.heap a).bind (·.filename)

@[simp] theorem setTracker_heap_same (s : Sys) (a : Nat) (t : FileTracker) :
    (s.setTracker a t).heap a = some t := by simp [setTracker]

theorem setTracker_heap_ne (s : Sys) {a b : Nat} (t : FileTracker) (h : b ≠ a) :
    (s.setTracker a t).heap b = s.heap b := by simp [setTracker, Function.update_noteq h]

theorem setTracker_self {s : Sys} {a : Nat} {t : FileTracker} (h : s.heap a = some t) :
    s.setTracker a t = s := by
  simp only [setTracker, ← h, Function.update_eq_self]

@[simp] theorem setTracker_setTracker (s : Sys) (a : Nat) (t t' : FileTracker) :
    (s.setTracker a t).setTracker a t' = s.setTracker a t' := by
  simp [setTracker]

@[simp] theorem setTracker_gState (s : Sys) (a : Nat) (t : FileTracker) :
    (s.setTracker a t).gState = s.gState := rfl

@[simp] theorem setTracker_handles (s : Sys) (a : Nat) (t : FileTracker) :
    (s.setTracker a t).handles = s.handles := rfl

@[simp] theorem setTracker_nextAddr (s : Sys) (a : Nat) (t : FileTracker) :
    (s.setTracker a t).nextAddr = s.nextAddr := rfl

theorem updTracker_ok {s s' : Sys} {a : Nat} {f : FileTracker → Except Fault FileTracker}
    (h : s.updTracker a f = .ok s') :
    ∃ t t', s.heap a = some t ∧ f t = .ok t' ∧ s' = s.setTracker a t' := by
  unfold updTracker at h
  cases ht : s.heap a with
  | none => simp [ht] at h
  | some t =>
    rw [ht] at h
    cases hf : f t with
    | error e => simp [hf, bind, Except.bind] at h
    | ok t' =>
      simp only [hf, bind, Except.bind, pure, Except.pure, Except.ok.injEq] at h
      exact ⟨t, t', rfl, hf, h.symm⟩

end Sys

/-! ### `vfs_tracking_get_file` -/

/-- The list walk of `vfs_tracking_get_file`: the first tracker whose
`filename` `strcmp` finds equal to `name`. `strcmp` of a `NULL` filename is a
null dereference. -/
def findTracker (heap : Nat → Option FileTracker) (name : List Char) :
    List Nat → Except Fault (Option Nat)
  | [] => .ok none
  | a :: rest =>
    match heap a with
    | none => .error .useAfterFree
    | some t =>
      match t.filename with
      | none => .error .nullDeref
      | some n => if n = name then .ok (some a) else findTracker heap name rest

/-- `vfs_tracking_get_file(filename)`: find the tracker of the normalised name,
or `calloc` a fresh one with the default page size and link it at the head of
the list; `strdup` succeeds when `strdup` holds (when it fails the tracker is
linked with a `NULL` filename). -/
def vfsTrackingGetFile (calloc strdup : Bool) (s : Sys) :
    Option (List Char) → Except Fault (Option Nat × Sys)
  | none => .ok (none, s)
  | some filename => do
    let normalizedName := normalizeName filename
    match ← findTracker s.heap normalizedName s.gState.files with
    | some a => pure (some a, s)
    | none =>
      if calloc then
        let t : FileTracker := ⟨if strdup then some normalizedName else none, none, 0, 0,
          s.gState.defaultPageSize, false⟩
        pure (some s.nextAddr, { s.setTracker s.nextAddr t with
          nextAddr := s.nextAddr + 1,
          gState := { s.gState with files := s.nextAddr :: s.gState.files } })
      else pure (none, s)

/-- The tracker a walk of the list finds for `name`, when every tracker on it
is allocated and named. -/
def lookup (s : Sys) (name : List Char) : Option Nat :=
  s.gState.files.find? fun a => s.nameAt a = some name

/-- Every tracker on the list is allocated below `nextAddr` and has a name. -/
def Named (s : Sys) : Prop :=
  ∀ a ∈ s.gState.files, a < s.nextAddr ∧ ∃ t, s.heap a = some t ∧ t.filename.isSome

theorem findTracker_eq (heap : Nat → Option FileTracker) (name : List Char) :
    ∀ files : List Nat, (∀ a ∈ files, ∃ t, heap a = some t ∧ t.filename.isSome) →
      findTracker heap name files =
        .ok (files.find? fun a => (heap a).bind (·.filename) = some name)
  | [], _ => rfl
  | a :: rest, h => by
    obtain ⟨t, ht, hn⟩ := h a (List.mem_cons_self _ _)
    obtain ⟨n, hn⟩ := Option.isSome_iff_exists.mp hn
    by_cases he : n = name
    · simp [findTracker, ht, hn, he]
    · have ih := findTracker_eq heap name rest fun b hb => h b (List.mem_cons_of_mem _ hb)
      simp [findTracker, ht, hn, he, ih]

/-- The walk returns a tracker of the list that carries the name. -/
theorem findTracker_mem {heap : Nat → Option FileTracker} {name : List Char} :
    ∀ {files : List Nat} {a : Nat}, findTracker heap name files = .ok (some a) →
      a ∈ files ∧ (heap a).bind (·.filename) = some name
  | [], _, h => by cases h
  | b :: rest, a, h => by
    unfold findTracker at h
    cases ht : heap b with
    | none => simp [ht] at h
    | some t =>
      cases hn : t.filename with
      | none => simp [ht, hn] at h
      | some n =>
        by_cases he : n = name
        · simp only [ht, hn, he, if_true, Except.ok.injEq, Option.some.injEq] at h
          subst h
          simp [ht, hn, he]
        · simp only [ht, hn, he, if_false] at h
          have ih := findTracker_mem h
          exact ⟨List.mem_cons_of_mem _ ih.1, ih.2⟩

theorem findTracker_named {s : Sys} (h : Named s) (name : List Char) :
    findTracker s.heap name s.gState.files = .ok (lookup s name) :=
  findTracker_eq _ _ _ fun a ha => (h a ha).2

theorem lookup_mem {s : Sys} {name : List Char} {a : Nat} (h : lookup s name = some a) :
    a ∈ s.gState.files ∧ s.nameAt a = some name := by
  have := List.find?_some h
  exact ⟨List.mem_of_find?_eq_some h, by simpa using this⟩

/-- The state a lookup leaves when it links a fresh tracker with name
`filename` (`NULL` when `strdup` failed) at the head of the list. -/
def Sys.linkFresh (s : Sys) (filename : Option (List Char)) : Sys :=
  { s.setTracker s.nextAddr ⟨filename, none, 0, 0, s.gState.defaultPageSize, false⟩ with
    nextAddr := s.nextAddr + 1,
    gState := { s.gState with files := s.nextAddr :: s.gState.files } }

@[simp] theorem Sys.linkFresh_heap (s : Sys) (filename : Option (List Char)) :
    (s.linkFresh filename).heap =
      (s.setTracker s.nextAddr ⟨filename, none, 0, 0, s.gState.defaultPageSize, false⟩).heap :=
  rfl

@[simp] theorem Sys.linkFresh_handles (s : Sys) (filename : Option (List Char)) :
    (s.linkFresh filename).handles = s.handles := rfl

@[simp] theorem Sys.linkFresh_nextAddr (s : Sys) (filename : Option (List Char)) :
    (s.linkFresh filename).nextAddr = s.nextAddr + 1 := rfl

/-- **What a lookup can do**: return a tracker of the list that carries the
name, or `NULL` when `calloc` fails, and change nothing; or link a fresh
tracker at `nextAddr`, named when `strdup` succeeds. -/
theorem getFile_ok {calloc strdup : Bool} {s s' : Sys} {name : List Char} {r : Option Nat}
    (h : vfsTrackingGetFile calloc strdup s (some name) = .ok (r, s')) :
    (s' = s ∧ ∀ a, r = some a → a ∈ s.gState.files ∧ s.nameAt a = some (normalizeName name)) ∨
    (r = some s.nextAddr ∧
      s' = s.linkFresh (if strdup then some (normalizeName name) else none)) := by
  simp only [vfsTrackingGetFile, bind_eq_ok] at h
  obtain ⟨f, hf, h⟩ := h
  cases f with
  | some a =>
    simp only [pure, Except.pure, Except.ok.injEq, Prod.mk.injEq] at h
    obtain ⟨rfl, rfl⟩ := h
    exact .inl ⟨rfl, fun b hb => by cases hb; exact findTracker_mem hf⟩
  | none =>
    cases calloc <;> simp only [Bool.false_eq_true, if_false, if_true, pure, Except.pure,
      Except.ok.injEq, Prod.mk.injEq] at h <;> obtain ⟨rfl, rfl⟩ := h
    · exact .inl ⟨rfl, fun _ hb => by cases hb⟩
    · exact .inr ⟨rfl, rfl⟩

theorem lookup_eq_none {s : Sys} {name : List Char} :
    lookup s name = none ↔ ∀ a ∈ s.gState.files, s.nameAt a ≠ some name := by
  simp [lookup, List.find?_eq_none]

/-- **A lookup of a known name** returns its tracker and changes nothing. -/
theorem getFile_found {s : Sys} (h : Named s) {calloc strdup : Bool} {name : List Char}
    {a : Nat} (ha : lookup s (normalizeName name) = some a) :
    vfsTrackingGetFile calloc strdup s (some name) = .ok (some a, s) := by
  simp [vfsTrackingGetFile, findTracker_named h, ha, bind, Except.bind, pure, Except.pure]

/-- The state a lookup of an unknown name leaves when `calloc` and `strdup`
succeed: a fresh tracker at `nextAddr`, at the head of the list. -/
def Sys.insertFresh (s : Sys) (name : List Char) : Sys :=
  { s.setTracker s.nextAddr ⟨some name, none, 0, 0, s.gState.defaultPageSize, false⟩ with
    nextAddr := s.nextAddr + 1,
    gState := { s.gState with files := s.nextAddr :: s.gState.files } }

/-- **A lookup of an unknown name** inserts a fresh tracker when `calloc` and
`strdup` succeed. -/
theorem getFile_fresh {s : Sys} (h : Named s) {name : List Char}
    (ha : lookup s (normalizeName name) = none) :
    vfsTrackingGetFile true true s (some name) =
      .ok (some s.nextAddr, s.insertFresh (normalizeName name)) := by
  simp [vfsTrackingGetFile, findTracker_named h, ha, bind, Except.bind, pure, Except.pure,
    Sys.insertFresh]

/-- **A lookup on a named list**, with `strdup` succeeding: the tracker of the
name, or else a fresh one when `calloc` succeeds and `NULL` when it fails. -/
theorem getFile_named {s : Sys} (h : Named s) (calloc : Bool) (name : List Char) :
    vfsTrackingGetFile calloc true s (some name) =
      match lookup s (normalizeName name) with
      | some a => .ok (some a, s)
      | none => .ok (if calloc then (some s.nextAddr, s.insertFresh (normalizeName name))
          else (none, s)) := by
  cases hl : lookup s (normalizeName name) <;> cases calloc <;>
    simp [vfsTrackingGetFile, findTracker_named h, hl, bind, Except.bind, pure, Except.pure,
      Sys.insertFresh]

/-- **A failed `strdup` links a nameless tracker.** For a name the list does
not have, when `calloc` succeeds and `strdup` fails, `vfs_tracking_get_file`
returns the fresh tracker, not `NULL`, although its `filename` is `NULL`. The
tracker heads the list, so from then on the `strcmp` of every lookup
dereferences that `NULL`. -/
theorem getFile_strdup_fails {s : Sys} (h : Named s) {name : List Char}
    (hl : lookup s (normalizeName name) = none) :
    vfsTrackingGetFile true false s (some name) = .ok (some s.nextAddr, s.linkFresh none) ∧
      (s.linkFresh none).gState.files = s.nextAddr :: s.gState.files ∧
      (s.linkFresh none).nameAt s.nextAddr = none ∧
      ∀ calloc strdup m, vfsTrackingGetFile calloc strdup (s.linkFresh none) (some m) =
        .error .nullDeref := by
  refine ⟨?_, rfl, by simp [Sys.linkFresh, Sys.nameAt], fun _ _ _ => ?_⟩
  · simp [vfsTrackingGetFile, findTracker_named h, hl, bind, Except.bind, pure, Except.pure,
      Sys.linkFresh]
  · simp [vfsTrackingGetFile, findTracker, Sys.linkFresh, bind, Except.bind]

/-- On the empty list of process start, a lookup of `db` whose `strdup` fails
links tracker `0` without a name, and every later lookup faults. -/
theorem getFile_strdup_fails_db :
    Named (Sys.start []) ∧ lookup (Sys.start []) (normalizeName "db".toList) = none ∧
    (vfsTrackingGetFile true false (Sys.start []) (some "db".toList) =
        .ok (some 0, (Sys.start []).linkFresh none) ∧
      ((Sys.start []).linkFresh none).gState.files = [0] ∧
      ((Sys.start []).linkFresh none).nameAt 0 = none ∧
      ∀ calloc strdup m, vfsTrackingGetFile calloc strdup ((Sys.start []).linkFresh none)
        (some m) = .error .nullDeref) :=
  ⟨(fun _ h => by cases h), rfl, getFile_strdup_fails (fun _ h => by cases h) rfl⟩

theorem insertFresh_named {s : Sys} (h : Named s) (name : List Char) :
    Named (s.insertFresh name) := by
  intro a ha
  simp only [Sys.insertFresh, List.mem_cons] at ha
  rcases ha with rfl | ha
  · exact ⟨by simp [Sys.insertFresh], ⟨some name, none, 0, 0, s.gState.defaultPageSize, false⟩,
      by simp [Sys.insertFresh], rfl⟩
  · obtain ⟨hlt, t, ht, hn⟩ := h a ha
    exact ⟨by simp [Sys.insertFresh]; omega, t,
      by simp [Sys.insertFresh, Sys.setTracker_heap_ne _ _ (Nat.ne_of_lt hlt), ht], hn⟩

theorem insertFresh_nameAt_ne {s : Sys} (h : Named s) (name : List Char) {a : Nat}
    (ha : a ∈ s.gState.files) : (s.insertFresh name).nameAt a = s.nameAt a := by
  simp [Sys.insertFresh, Sys.nameAt, Sys.setTracker_heap_ne _ _ (Nat.ne_of_lt (h a ha).1)]

theorem find?_congr {α : Type} {p q : α → Bool} :
    ∀ {l : List α}, (∀ x ∈ l, p x = q x) → l.find? p = l.find? q
  | [], _ => rfl
  | x :: l, h => by
    simp only [List.find?_cons, h x (List.mem_cons_self _ _),
      find?_congr fun y hy => h y (List.mem_cons_of_mem _ hy)]

/-- After the insertion the new name finds the fresh tracker and every other
name finds what it found before. -/
theorem lookup_insertFresh {s : Sys} (h : Named s) (name n : List Char) :
    lookup (s.insertFresh name) n = if n = name then some s.nextAddr else lookup s n := by
  have hrest : (s.gState.files.find? fun a => (s.insertFresh name).nameAt a = some n) =
      lookup s n := by
    unfold lookup
    exact find?_congr fun a ha => by rw [insertFresh_nameAt_ne h name ha]
  by_cases hn : n = name
  · subst hn
    simp [lookup, Sys.insertFresh, Sys.nameAt]
  · simp only [lookup, Sys.insertFresh, List.find?_cons] at hrest ⊢
    simp [Sys.nameAt, Ne.symm hn, hn] at hrest ⊢
    exact hrest

theorem nameAt_setTracker (s : Sys) (A : Nat) (t : FileTracker) (b : Nat) :
    (s.setTracker A t).nameAt b = if b = A then t.filename else s.nameAt b := by
  by_cases h : b = A
  · simp [Sys.nameAt, h]
  · simp [Sys.nameAt, h, Sys.setTracker_heap_ne]

/-- A write that keeps a tracker's name changes no name. -/
theorem nameAt_setTracker_same {s : Sys} {A : Nat} {t t' : FileTracker} (ht : s.heap A = some t)
    (hn : t'.filename = t.filename) : (s.setTracker A t').nameAt = s.nameAt := by
  funext b
  rw [nameAt_setTracker]
  split
  · subst b
    simp [Sys.nameAt, ht, hn]
  · rfl

/-- A write that keeps a tracker's name changes no lookup. -/
theorem lookup_setTracker {s : Sys} {A : Nat} {t : FileTracker} (h : t.filename = s.nameAt A)
    (n : List Char) : lookup (s.setTracker A t) n = lookup s n := by
  unfold lookup
  exact find?_congr fun b _ => by rw [nameAt_setTracker]; split <;> simp_all

theorem Named.setTracker {s : Sys} (hs : Named s) {A : Nat} {t : FileTracker}
    (h : t.filename = s.nameAt A) : Named (s.setTracker A t) := by
  intro b hb
  obtain ⟨hlt, t0, ht0, hn⟩ := hs b hb
  refine ⟨hlt, ?_⟩
  by_cases hbA : b = A
  · subst hbA
    exact ⟨t, by simp, by simp [h, Sys.nameAt, ht0, hn]⟩
  · exact ⟨t0, by rw [Sys.setTracker_heap_ne _ _ hbA]; exact ht0, hn⟩

/-! ### Lifecycle, query and reset -/

/-- `sizeof(TrackingFile)` on the wasm32 target: three 4-byte pointers. -/
def sizeofTrackingFile : Nat := 12

/-- `vfs_tracking_init(baseVfsName, pageSize)`, where `found` is what
`sqlite3_vfs_find(baseVfsName)` returns and `registerRc` what
`sqlite3_vfs_register(&trackingVfs, 1)` returns. -/
def vfsTrackingInit (found : Option BaseVfs) (pageSize : UInt32) (registerRc : Int) (s : Sys) :
    Int × Sys :=
  if s.gState.pRealVfs.isSome then (SQLITE_OK, s)
  else
    match found with
    | none => (SQLITE_ERROR, s)
    | some pRealVfs =>
      let s1 := { s with
        gState := ⟨[], some pRealVfs,
          if pageSize.toNat > 0 then pageSize.toNat else DEFAULT_PAGE_SIZE⟩
        trackingVfs := ⟨sizeofTrackingFile + pRealVfs.szOsFile, pRealVfs.mxPathname,
          some pRealVfs, pRealVfs.methods⟩ }
      if registerRc = SQLITE_OK then
        (SQLITE_OK, { s1 with vfsList := .tracking :: s1.vfsList.erase .tracking })
      else (registerRc, s1)

@[simp] theorem vfsTrackingInit_heap (found : Option BaseVfs) (pageSize : UInt32) (registerRc : Int)
    (s : Sys) : (vfsTrackingInit found pageSize registerRc s).2.heap = s.heap := by
  unfold vfsTrackingInit
  cases found <;> dsimp only <;> split_ifs <;> rfl

@[simp] theorem vfsTrackingInit_handles (found : Option BaseVfs) (pageSize : UInt32)
    (registerRc : Int) (s : Sys) : (vfsTrackingInit found pageSize registerRc s).2.handles = s.handles := by
  unfold vfsTrackingInit
  cases found <;> dsimp only <;> split_ifs <;> rfl

@[simp] theorem vfsTrackingInit_nextAddr (found : Option BaseVfs) (pageSize : UInt32)
    (registerRc : Int) (s : Sys) :
    (vfsTrackingInit found pageSize registerRc s).2.nextAddr = s.nextAddr := by
  unfold vfsTrackingInit
  cases found <;> dsimp only <;> split_ifs <;> rfl

/-- An init either changes nothing or empties the list. -/
theorem vfsTrackingInit_files (found : Option BaseVfs) (pageSize : UInt32) (registerRc : Int)
    (s : Sys) : (vfsTrackingInit found pageSize registerRc s).2 = s ∨
      (vfsTrackingInit found pageSize registerRc s).2.gState.files = [] := by
  unfold vfsTrackingInit
  cases found <;> dsimp only <;> split_ifs <;> simp

/-- `vfs_tracking_shutdown()`: free every tracker on the list, with its name
and bitmap, unregister the tracking VFS, and clear `g_state`'s list and base
VFS. `defaultPageSize` and the static `trackingVfs` keep their values. -/
def vfsTrackingShutdown (s : Sys) : Sys :=
  { s with
    heap := fun a => if a ∈ s.gState.files then none else s.heap a
    vfsList := s.vfsList.erase .tracking
    gState := { s.gState with files := [], pRealVfs := none } }

/-- A shutdown only frees trackers. -/
theorem shutdown_heap {s : Sys} {a : Nat} {t : FileTracker}
    (h : (vfsTrackingShutdown s).heap a = some t) : s.heap a = some t := by
  simp only [vfsTrackingShutdown] at h
  split_ifs at h
  exact h

/-- `vfs_tracking_get_dirty_pages(filename, pPageCount, ppPages)`; `outs` says
that both out-pointers are not `NULL`. -/
def vfsTrackingGetDirtyPages (calloc strdup malloc : Bool) (s : Sys)
    (filename : Option (List Char)) (outs : Bool) : Except Fault (DirtyPages × Sys) :=
  match filename, outs with
  | some name, true => do
    let (tracker, s') ← vfsTrackingGetFile calloc strdup s (some name)
    match tracker with
    | none => pure (⟨SQLITE_OK, some (0, none)⟩, s')
    | some a =>
      match s'.heap a with
      | none => .error .useAfterFree
      | some t => do
        let r ← dirtyPagesOf malloc t
        pure (r, s')
  | _, _ => .ok (⟨SQLITE_ERROR, none⟩, s)

/-- `vfs_tracking_reset_dirty(filename)`. -/
def vfsTrackingResetDirty (calloc strdup : Bool) (s : Sys) :
    Option (List Char) → Except Fault (Int × Sys)
  | none => .ok (SQLITE_ERROR, s)
  | some name => do
    let (tracker, s') ← vfsTrackingGetFile calloc strdup s (some name)
    match tracker with
    | none => pure (SQLITE_OK, s')
    | some a =>
      match s'.heap a with
      | none => .error .useAfterFree
      | some t =>
        match t.dirtyBitmap with
        | none => pure (SQLITE_OK, s')
        | some ws => do
          let t' ← clearBitmap t ws
          pure (SQLITE_OK, s'.setTracker a t')

/-- **What a query can do**: nothing, or a lookup of its name. -/
theorem getDirtyPages_ok {c d m outs : Bool} {s s' : Sys} {n : Option (List Char)}
    {q : DirtyPages} (h : vfsTrackingGetDirtyPages c d m s n outs = .ok (q, s')) :
    s' = s ∨ ∃ name r, n = some name ∧ vfsTrackingGetFile c d s (some name) = .ok (r, s') := by
  unfold vfsTrackingGetDirtyPages at h
  split at h
  · obtain ⟨⟨r, s1⟩, hg, h⟩ := bind_eq_ok.mp h
    refine .inr ⟨_, r, rfl, ?_⟩
    rcases r with _ | a
    · cases h; exact hg
    dsimp only at h
    split at h
    · cases h
    · obtain ⟨_, -, h⟩ := bind_eq_ok.mp h
      cases h; exact hg
  · cases h; exact .inl rfl

/-- **What a reset can do**: nothing, a lookup of its name, or that lookup and
the clearing of the bitmap of the tracker it returns. -/
theorem resetDirty_ok {c d : Bool} {s s' : Sys} {n : Option (List Char)} {rc : Int}
    (h : vfsTrackingResetDirty c d s n = .ok (rc, s')) :
    s' = s ∨ ∃ name r s1, n = some name ∧ vfsTrackingGetFile c d s (some name) = .ok (r, s1) ∧
      (s' = s1 ∨ ∃ a t ws t', r = some a ∧ s1.heap a = some t ∧ t.dirtyBitmap = some ws ∧
        clearBitmap t ws = .ok t' ∧ s' = s1.setTracker a t') := by
  cases n with
  | none => cases h; exact .inl rfl
  | some name =>
    obtain ⟨⟨r, s1⟩, hg, h⟩ := bind_eq_ok.mp h
    refine .inr ⟨name, r, s1, rfl, hg, ?_⟩
    rcases r with _ | a
    · cases h; exact .inl rfl
    dsimp only at h
    split at h
    · cases h
    rename_i t ht
    split at h
    · cases h; exact .inl rfl
    · rename_i ws hb
      obtain ⟨t', hc, h⟩ := bind_eq_ok.mp h
      cases h
      exact .inr ⟨a, t, ws, t', rfl, ht, hb, hc, rfl⟩

end TrackingVfs
