/-
# `isOpen` and the files that point at a tracker

`trackingOpen` sets a tracker's `isOpen` to `1` and `fileClose` sets it to `0`;
nothing counts the files that share the tracker. So when two files point at
one tracker (two connections to one database, or `db` and `/db`), closing
either clears `isOpen` while the other is still open
(`isOpen_shared_close`).

What does hold (`isOpen_referenced`): in every run, a tracker whose `isOpen`
is `1` has an open file pointing at it (`OpenFlag false`); and in the runs
where no two open files point at one tracker at any time (`KeepsExclusive`),
`isOpen` is `1` exactly when an open file points at the tracker
(`OpenFlag true`).

Every event but an open and a close is `Frozen`: it keeps the engine's files,
and each tracker after it is a tracker before it with the same `isOpen`, or a
fresh one that is not open. `Allocated` (nothing lives at or past `nextAddr`,
and no file points there) is what makes a fresh tracker unreferenced.
-/
import TrackingVfs.System

namespace TrackingVfs

/-- Some open file of the engine points at tracker `a`. -/
def Referenced (s : Sys) (a : Nat) : Prop :=
  ∃ h, (s.handles h).pMethods = true ∧ (s.handles h).pTracker = some a

/-- Nothing is allocated at or past `nextAddr`, and no file points there. -/
structure Allocated (s : Sys) : Prop where
  fresh : ∀ a, s.nextAddr ≤ a → s.heap a = none
  below : ∀ h a, (s.handles h).pTracker = some a → a < s.nextAddr

/-- `s'` keeps the engine's files, and each tracker of `s'` is a tracker of `s`
with the same `isOpen`, or one allocated in between that is not open. -/
structure Frozen (s s' : Sys) : Prop where
  handles : s'.handles = s.handles
  next : s.nextAddr ≤ s'.nextAddr
  heap : ∀ a t', s'.heap a = some t' →
    (∃ t, s.heap a = some t ∧ t'.isOpen = t.isOpen) ∨
      (s.nextAddr ≤ a ∧ a < s'.nextAddr ∧ t'.isOpen = false)

/-! ### Frozen steps -/

namespace Frozen

theorem refl (s : Sys) : Frozen s s := ⟨rfl, le_rfl, fun _ t h => .inl ⟨t, h, rfl⟩⟩

theorem trans {s s1 s2 : Sys} (h1 : Frozen s s1) (h2 : Frozen s1 s2) : Frozen s s2 := by
  refine ⟨h2.handles.trans h1.handles, h1.next.trans h2.next, fun a t2 ht2 => ?_⟩
  rcases h2.heap a t2 ht2 with ⟨t1, ht1, he1⟩ | ⟨hlo, hhi, hf⟩
  · rcases h1.heap a t1 ht1 with ⟨t, ht, he⟩ | ⟨hlo', hhi', hf'⟩
    · exact .inl ⟨t, ht, he1.trans he⟩
    · exact .inr ⟨hlo', hhi'.trans_le h2.next, he1.trans hf'⟩
  · exact .inr ⟨h1.next.trans hlo, hhi, hf⟩

end Frozen

theorem linkFresh_frozen (s : Sys) (filename : Option (List Char)) :
    Frozen s (s.linkFresh filename) := by
  refine ⟨rfl, Nat.le_succ _, fun a t' ht' => ?_⟩
  by_cases ha : a = s.nextAddr
  · subst ha
    simp only [Sys.linkFresh_heap, Sys.setTracker_heap_same, Option.some.injEq] at ht'
    exact .inr ⟨le_rfl, by simp, by rw [← ht']⟩
  · rw [Sys.linkFresh_heap, Sys.setTracker_heap_ne _ _ ha] at ht'
    exact .inl ⟨t', ht', rfl⟩

theorem getFile_frozen {c d : Bool} {s s' : Sys} {n : Option (List Char)} {r : Option Nat}
    (hg : vfsTrackingGetFile c d s n = .ok (r, s')) : Frozen s s' := by
  cases n with
  | none => cases hg; exact .refl s
  | some name =>
    rcases getFile_ok hg with ⟨rfl, -⟩ | ⟨-, rfl⟩
    · exact .refl _
    · exact linkFresh_frozen _ _

theorem setTracker_frozen {s : Sys} {a : Nat} {t t' : FileTracker} (ht : s.heap a = some t)
    (ho : t'.isOpen = t.isOpen) : Frozen s (s.setTracker a t') := by
  refine ⟨rfl, le_rfl, fun b t'' hb => .inl ?_⟩
  by_cases hba : b = a
  · subst hba
    simp only [Sys.setTracker_heap_same, Option.some.injEq] at hb
    subst hb
    exact ⟨t, ht, ho⟩
  · rw [Sys.setTracker_heap_ne _ _ hba] at hb
    exact ⟨t'', hb, rfl⟩

theorem Quiet.frozen {d : Bool} {s s' : Sys} (hq : Quiet d s s') : Frozen s s' := by
  induction hq with
  | refl => exact .refl _
  | getFile hg _ ih => exact (getFile_frozen hg).trans ih
  | write ht hf _ ih => exact (setTracker_frozen ht hf.2.2).trans ih

theorem init_frozen (s : Sys) (found : Option BaseVfs) (ps : UInt32) (rc : Int) :
    Frozen s (vfsTrackingInit found ps rc s).2 :=
  ⟨by simp, by simp, fun _ t h => .inl ⟨t, by simpa using h, rfl⟩⟩

theorem shutdown_frozen (s : Sys) : Frozen s (vfsTrackingShutdown s) := by
  refine ⟨rfl, le_rfl, fun a t h => .inl ⟨t, ?_, rfl⟩⟩
  simp only [vfsTrackingShutdown] at h
  split_ifs at h
  exact h

/-- **Every event but an open and a close is frozen.** -/
theorem step_frozen {s s' : Sys} {e : Event} (h : step s e = .ok s')
    (he : ∀ hd zName rc c d, e ≠ .xOpen hd zName rc c d) (hc : ∀ hd rc, e ≠ .xClose hd rc) :
    Frozen s s' := by
  cases e with
  | init found ps rc => cases h; exact init_frozen s found ps rc
  | shutdown => cases h; exact shutdown_frozen s
  | xOpen => exact absurd rfl (he _ _ _ _ _)
  | xClose => exact absurd rfl (hc _ _)
  | getDirtyPages => exact (step_quiet h rfl).frozen
  | resetDirty => exact (step_quiet h rfl).frozen
  | xWrite => exact (step_quiet h rfl).frozen
  | xTruncate => exact (step_quiet h rfl).frozen

/-! ### Allocation -/

namespace Allocated

theorem frozen {s s' : Sys} (ha : Allocated s) (hf : Frozen s s') : Allocated s' := by
  refine ⟨fun a hle => ?_, fun h a hp => ?_⟩
  · cases ht : s'.heap a with
    | none => rfl
    | some t' =>
      rcases hf.heap a t' ht with ⟨t, ht0, -⟩ | ⟨-, hlt, -⟩
      · rw [ha.fresh a (hf.next.trans hle)] at ht0
        cases ht0
      · omega
  · rw [hf.handles] at hp
    exact (ha.below h a hp).trans_le hf.next

/-- A tracker that is allocated lies below `nextAddr`. -/
theorem lt_of_heap {s : Sys} (ha : Allocated s) {a : Nat} {t : FileTracker}
    (ht : s.heap a = some t) : a < s.nextAddr :=
  Nat.lt_of_not_le fun hle => by rw [ha.fresh a hle] at ht; cases ht

theorem setIsOpen {s s' : Sys} (ha : Allocated s) {a : Nat} {b : Bool}
    (hs : s.setIsOpen a b = .ok s') : Allocated s' ∧ a < s'.nextAddr := by
  obtain ⟨t, ht, rfl⟩ := Sys.setIsOpen_ok hs
  have hlt := ha.lt_of_heap ht
  refine ⟨⟨fun c hc => ?_, ha.below⟩, hlt⟩
  rw [Sys.setTracker_heap_ne _ _ (by simp at hc; omega)]
  exact ha.fresh c hc

theorem setHandle {s : Sys} (ha : Allocated s) (hd : Nat) {f : Handle}
    (hf : ∀ a, f.pTracker = some a → a < s.nextAddr) : Allocated (s.setHandle hd f) := by
  refine ⟨ha.fresh, fun h a hp => ?_⟩
  by_cases hh : h = hd
  · subst hh
    exact hf a (by simpa using hp)
  · rw [Sys.setHandle_handles_ne _ _ hh] at hp
    exact ha.below h a hp

/-- **Every step keeps the allocation invariant.** -/
theorem step {s s' : Sys} {e : Event} (ha : Allocated s) (h : step s e = .ok s') :
    Allocated s' := by
  cases e with
  | xOpen hd zName rc c d =>
    rcases step_xOpen h with rfl | ⟨-, r, s1, s2, hg, hm, rfl⟩
    · exact ha
    have ha1 := ha.frozen (getFile_frozen hg)
    rcases hm with ⟨rfl, rfl⟩ | ⟨a, rfl, hs⟩
    · exact ha1.setHandle hd fun _ h => by cases h
    · obtain ⟨ha2, hlt⟩ := ha1.setIsOpen hs
      exact ha2.setHandle hd fun b hb => by cases hb; exact hlt
  | xClose hd rc =>
    obtain ⟨s1, hm, rfl⟩ := step_xClose h
    -- marking the tracker closed allocates nothing
    have h1 : Allocated s1 ∧ s1.nextAddr = s.nextAddr := by
      rcases hm with ⟨-, rfl⟩ | ⟨a, -, hs⟩
      · exact ⟨ha, rfl⟩
      · exact ⟨(ha.setIsOpen hs).1, (Sys.setIsOpen_frame hs).2⟩
    exact h1.1.setHandle hd fun a hp => h1.2 ▸ ha.below hd a hp
  | _ => exact ha.frozen (step_frozen h (fun _ _ _ _ _ e => nomatch e) (fun _ _ e => nomatch e))

end Allocated

/-! ### `isOpen` -/

/-- `isOpen` is `1` only on trackers an open file points at and, when `exact`,
on every such tracker. -/
def OpenFlag (exact : Bool) (s : Sys) : Prop :=
  ∀ a t, s.heap a = some t →
    (t.isOpen = true → Referenced s a) ∧ (exact = true → Referenced s a → t.isOpen = true)

/-- No two open files point at one tracker. -/
def Exclusive (s : Sys) : Prop :=
  ∀ h h' a, (s.handles h).pMethods = true → (s.handles h').pMethods = true →
    (s.handles h).pTracker = some a → (s.handles h').pTracker = some a → h = h'

/-- The runs in which no two open files point at one tracker at any time. -/
def KeepsExclusive (s : Sys) (e : Event) : Prop := ∀ s', step s e = .ok s' → Exclusive s'

theorem referenced_congr {s s' : Sys} (h : s'.handles = s.handles) (b : Nat) :
    Referenced s' b ↔ Referenced s b := by
  simp only [Referenced, h]

theorem referenced_setHandle {s : Sys} {hd b : Nat} {f : Handle} :
    Referenced (s.setHandle hd f) b ↔ (f.pMethods = true ∧ f.pTracker = some b) ∨
      ∃ h, h ≠ hd ∧ (s.handles h).pMethods = true ∧ (s.handles h).pTracker = some b := by
  constructor
  · rintro ⟨h, hm, hp⟩
    by_cases hh : h = hd
    · subst hh
      exact .inl ⟨by simpa using hm, by simpa using hp⟩
    · rw [Sys.setHandle_handles_ne _ _ hh] at hm hp
      exact .inr ⟨h, hh, hm, hp⟩
  · rintro (⟨hm, hp⟩ | ⟨h, hh, hm, hp⟩)
    · exact ⟨hd, by simpa using hm, by simpa using hp⟩
    · exact ⟨h, by rwa [Sys.setHandle_handles_ne _ _ hh], by rwa [Sys.setHandle_handles_ne _ _ hh]⟩

/-- Opening a file that was not open adds its tracker to the referenced ones. -/
theorem referenced_setHandle_open {s : Sys} {hd : Nat} (hl : (s.handles hd).pMethods = false)
    (r : Option Nat) (zName : Option (List Char)) (b : Nat) :
    Referenced (s.setHandle hd ⟨true, r, zName⟩) b ↔ r = some b ∨ Referenced s b := by
  rw [referenced_setHandle]
  constructor
  · rintro (⟨-, hp⟩ | ⟨h, -, hm, hp⟩)
    · exact .inl hp
    · exact .inr ⟨h, hm, hp⟩
  · rintro (hp | ⟨h, hm, hp⟩)
    · exact .inl ⟨rfl, hp⟩
    · refine .inr ⟨h, ?_, hm, hp⟩
      rintro rfl
      rw [hl] at hm
      cases hm

/-- Closing a file leaves the trackers the other open files point at. -/
theorem referenced_setHandle_close {s : Sys} {hd : Nat} (p : Option Nat)
    (zName : Option (List Char)) (b : Nat) :
    Referenced (s.setHandle hd ⟨false, p, zName⟩) b ↔
      ∃ h, h ≠ hd ∧ (s.handles h).pMethods = true ∧ (s.handles h).pTracker = some b := by
  rw [referenced_setHandle]
  simp

theorem OpenFlag.frozen {exact : Bool} {s s' : Sys} (ha : Allocated s) (hs : OpenFlag exact s)
    (hf : Frozen s s') : OpenFlag exact s' := by
  intro a t' ht'
  rw [referenced_congr hf.handles]
  rcases hf.heap a t' ht' with ⟨t, ht, he⟩ | ⟨hlo, -, hf'⟩
  · rw [he]
    exact hs a t ht
  · refine ⟨(fun h => by rw [hf'] at h; cases h), fun _ ⟨h, _, hp⟩ => ?_⟩
    have := ha.below h a hp
    omega

/-- An open of a file that is not open keeps `OpenFlag`: the tracker it marks
open is the one the file now points at. -/
theorem OpenFlag.xOpen {exact : Bool} {s s' : Sys} (ha : Allocated s) (hs : OpenFlag exact s)
    {hd : Nat} {zName : Option (List Char)} {rc : Int} {c d : Bool}
    (hl : (s.handles hd).pMethods = false) (h : step s (.xOpen hd zName rc c d) = .ok s') :
    OpenFlag exact s' := by
  rcases step_xOpen h with rfl | ⟨-, r, s1, s2, hg, hm, rfl⟩
  · exact hs
  have hf1 := getFile_frozen hg
  have hs1 := hs.frozen ha hf1
  -- the open leaves every tracker but `r`'s as the lookup left it
  have h2 : s2.handles = s1.handles ∧ ∀ b t', s2.heap b = some t' →
      (r = some b ∧ t'.isOpen = true) ∨ (r ≠ some b ∧ s1.heap b = some t') := by
    rcases hm with ⟨rfl, rfl⟩ | ⟨a, rfl, hso⟩
    · exact ⟨rfl, fun b t' hb => .inr ⟨(by simp), hb⟩⟩
    · refine ⟨(Sys.setIsOpen_frame hso).1, fun b t' hb => ?_⟩
      rcases Sys.setIsOpen_heap hso hb with ⟨rfl, ho⟩ | ⟨hba, hb⟩
      · exact .inl ⟨rfl, ho⟩
      · exact .inr ⟨fun e => hba (Option.some.inj e).symm, hb⟩
  have hl1 : (s1.handles hd).pMethods = false := by rw [hf1.handles]; exact hl
  intro b t' hb
  simp only [Sys.setHandle_heap] at hb
  rw [referenced_setHandle_open (h2.1 ▸ hl1), referenced_congr h2.1]
  rcases h2.2 b t' hb with ⟨hr, ho⟩ | ⟨hr, hb1⟩
  · exact ⟨fun _ => .inl hr, fun _ _ => ho⟩
  · simp only [hr, false_or]
    exact hs1 b t' hb1

/-- A close keeps `OpenFlag`; for the exact form the closed file must have been
the only open file on its tracker. -/
theorem OpenFlag.xClose {exact : Bool} {s s' : Sys} (hs : OpenFlag exact s)
    (hx : exact = true → Exclusive s) {hd : Nat} {rc : Int} (hl : (s.handles hd).pMethods = true)
    (h : step s (.xClose hd rc) = .ok s') : OpenFlag exact s' := by
  obtain ⟨s1, hm, rfl⟩ := step_xClose h
  -- the close leaves every tracker but the file's own as it was
  have h1 : s1.handles = s.handles ∧ ∀ b t', s1.heap b = some t' →
      ((s.handles hd).pTracker = some b ∧ t'.isOpen = false) ∨
        ((s.handles hd).pTracker ≠ some b ∧ s.heap b = some t') := by
    rcases hm with ⟨hp, rfl⟩ | ⟨a, hp, hso⟩
    · exact ⟨rfl, fun b t' hb => .inr ⟨(by rw [hp]; simp), hb⟩⟩
    · refine ⟨(Sys.setIsOpen_frame hso).1, fun b t' hb => ?_⟩
      rcases Sys.setIsOpen_heap hso hb with ⟨rfl, ho⟩ | ⟨hba, hb⟩
      · exact .inl ⟨hp, ho⟩
      · exact .inr ⟨(by rw [hp]; exact fun e => hba (Option.some.inj e).symm), hb⟩
  intro b t' hb
  simp only [Sys.setHandle_heap] at hb
  rw [referenced_setHandle_close, h1.1]
  rcases h1.2 b t' hb with ⟨hp, ho⟩ | ⟨hp, hb0⟩
  · -- the file's own tracker: in an exclusive state no other open file points at it
    refine ⟨(fun e => by rw [ho] at e; cases e), fun hex ⟨h, hh, hm, hph⟩ => ?_⟩
    exact absurd (hx hex h hd b hm hl hph hp) hh
  · have hiff : (∃ h, h ≠ hd ∧ (s.handles h).pMethods = true ∧ (s.handles h).pTracker = some b) ↔
        Referenced s b := by
      refine ⟨fun ⟨h, _, hm, hph⟩ => ⟨h, hm, hph⟩, fun ⟨h, hm, hph⟩ => ⟨h, ?_, hm, hph⟩⟩
      rintro rfl
      exact hp hph
    rw [hiff]
    exact hs b t' hb0

/-- An open changes no other file. -/
theorem step_xOpen_handles_ne {s s' : Sys} {hd : Nat} {zName : Option (List Char)} {rc : Int}
    {c d : Bool} (h : step s (.xOpen hd zName rc c d) = .ok s') {h' : Nat} (hne : h' ≠ hd) :
    s'.handles h' = s.handles h' := by
  rcases step_xOpen h with rfl | ⟨-, r, s1, s2, hg, hm, rfl⟩
  · rfl
  have h2 : s2.handles = s1.handles := by
    rcases hm with ⟨-, rfl⟩ | ⟨a, -, hso⟩
    · rfl
    · exact (Sys.setIsOpen_frame hso).1
  rw [Sys.setHandle_handles_ne _ _ hne, h2, (getFile_frozen hg).handles]

/-- A state with at most one open file is exclusive. -/
theorem exclusive_of_one {s : Sys} (hd : Nat) (h1 : ∀ h, (s.handles h).pMethods = true → h = hd) :
    Exclusive s :=
  fun h h' _ hm hm' _ _ => (h1 h hm).trans (h1 h' hm').symm

/-- One legal step keeps the invariant of the runs (`exact`: of the exclusive
runs). -/
theorem OpenFlag.step {exact : Bool} {s s' : Sys} {e : Event} (ha : Allocated s)
    (hs : OpenFlag exact s) (hx : exact = true → Exclusive s) (hl : engineLegal s e = true)
    (h : step s e = .ok s') : OpenFlag exact s' := by
  cases e with
  | xOpen => exact hs.xOpen ha (by simpa [engineLegal] using hl) h
  | xClose => exact hs.xClose hx (by simpa [engineLegal] using hl) h
  | _ => exact hs.frozen ha (step_frozen h (fun _ _ _ _ _ e => nomatch e) (fun _ _ e => nomatch e))

/-- The invariant along every run whose guard keeps states exclusive when
`exact` asks for it. -/
theorem openFlag_reach {host : List BaseVfs} {G : Sys → Event → Prop} (exact : Bool)
    (hG : ∀ s e, G s e → exact = true → KeepsExclusive s e) {s : Sys} (hr : Reach host G s) :
    Allocated s ∧ OpenFlag exact s ∧ (exact = true → Exclusive s) := by
  induction hr with
  | start =>
    exact ⟨⟨fun _ _ => rfl, fun _ _ h => by cases h⟩, (fun _ _ h => by cases h),
      fun _ _ _ _ hm => by cases hm⟩
  | step _ hl hg h ih =>
    obtain ⟨ha, hs, hx⟩ := ih
    exact ⟨ha.step h, hs.step ha hx hl h, fun he => hG _ _ hg he _ h⟩

/-! ### Shared trackers -/

/-- **Closing one of two files on a tracker clears its `isOpen`.** From any
state, when two different files `h1` and `h2` point at one allocated tracker
and `h2` is open, a close of `h1` succeeds whatever the real `xClose` returns,
and after it `h2` is still open and points at the tracker, whose `isOpen` is
`0`. -/
theorem isOpen_shared_close {s : Sys} {h1 h2 a : Nat} {t : FileTracker} (hne : h2 ≠ h1)
    (hp1 : (s.handles h1).pTracker = some a) (hm2 : (s.handles h2).pMethods = true)
    (hp2 : (s.handles h2).pTracker = some a) (ht : s.heap a = some t) (rc : Int) :
    ∃ s', step s (.xClose h1 rc) = .ok s' ∧ (s'.handles h2).pMethods = true ∧
      (s'.handles h2).pTracker = some a ∧ ∃ t', s'.heap a = some t' ∧ t'.isOpen = false := by
  have hc : fileClose s h1 rc = .ok (rc, s.setTracker a { t with isOpen := false }) := by
    simp only [fileClose, hp1, Sys.setIsOpen_eq ht]
    rfl
  refine ⟨_, by rw [step, hc]; rfl, ?_, ?_, { t with isOpen := false }, by simp, rfl⟩ <;>
    rw [Sys.setHandle_handles_ne _ _ hne] <;> assumption

/-- `db` and `/db` share tracker `0`; closing `db` leaves `/db` open on a
tracker whose `isOpen` is `0`. -/
theorem isOpen_shared_close_db :
    ∃ s t, Reach [] (fun _ _ => True) s ∧ (s.handles 0).zName = some "db".toList ∧
      (s.handles 1).zName = some "/db".toList ∧ (s.handles 0).pTracker = some 0 ∧
      (s.handles 1).pMethods = true ∧ (s.handles 1).pTracker = some 0 ∧ s.heap 0 = some t ∧
      ∃ s', step s (.xClose 0 SQLITE_OK) = .ok s' ∧ (s'.handles 1).pMethods = true ∧
        (s'.handles 1).pTracker = some 0 ∧ ∃ t', s'.heap 0 = some t' ∧ t'.isOpen = false := by
  have hr := @reach_of_legalRun [] _ _ [.init (some ⟨"memfs".toList, 0, 0, []⟩) 4096 SQLITE_OK,
    .xOpen 0 (some "db".toList) SQLITE_OK true true,
    .xOpen 1 (some "/db".toList) SQLITE_OK true true] .start rfl
  exact ⟨_, _, hr, rfl, rfl, rfl, rfl, rfl, rfl,
    isOpen_shared_close (by decide) rfl rfl rfl rfl _⟩

/-! ### What `isOpen` does say -/

/-- **`isOpen` and the open files.** In every run, a tracker whose `isOpen` is
`1` has an open file pointing at it; in the runs where no two open files point
at one tracker at any time, a tracker's `isOpen` is `1` exactly when an open
file points at it. -/
theorem isOpen_referenced (host : List BaseVfs) :
    (∀ s, Reach host (fun _ _ => True) s → ∀ a t, s.heap a = some t → t.isOpen = true →
      Referenced s a) ∧
    (∀ s, Reach host KeepsExclusive s → ∀ a t, s.heap a = some t →
      (t.isOpen = true ↔ Referenced s a)) :=
  ⟨fun _ hr a t ht => ((openFlag_reach false (fun _ _ _ h => by cases h) hr).2.1 a t ht).1,
    fun _ hr a t ht =>
      have h := (openFlag_reach true (fun _ _ h _ => h) hr).2.1 a t ht
      ⟨h.1, h.2 rfl⟩⟩

/-- After an init and an open of `db`, a run with one open file, tracker `0` is
open and file `0` points at it. -/
theorem isOpen_referenced_db :
    ∃ s, Reach [] (fun _ _ => True) s ∧ Reach [] KeepsExclusive s ∧ ∃ t, s.heap 0 = some t ∧
      t.isOpen = true ∧ Referenced s 0 ∧ (t.isOpen = true ↔ Referenced s 0) := by
  have hx1 : KeepsExclusive (Sys.start []) (.init (some ⟨"memfs".toList, 0, 0, []⟩) 4096 SQLITE_OK) :=
    fun s' hs' => by
      cases hs'
      exact exclusive_of_one 0 fun h hm => by simp [Sys.start] at hm
  have h1 := @Reach.step [] KeepsExclusive _ _
    (.init (some ⟨"memfs".toList, 0, 0, []⟩) 4096 SQLITE_OK) .start rfl hx1 rfl
  have hx2 : KeepsExclusive (vfsTrackingInit (some ⟨"memfs".toList, 0, 0, []⟩) 4096 SQLITE_OK
      (Sys.start [])).2 (.xOpen 0 (some "db".toList) SQLITE_OK true true) :=
    fun s' hs' => exclusive_of_one 0 fun h hm => by
      by_contra hne
      rw [step_xOpen_handles_ne hs' hne] at hm
      simp [Sys.start] at hm
  have h2 := @Reach.step [] KeepsExclusive _ _
    (.xOpen 0 (some "db".toList) SQLITE_OK true true) h1 rfl hx2 rfl
  have hr : Reach [] (fun _ _ => True) _ := reach_of_legalRun [.init (some ⟨"memfs".toList, 0, 0, []⟩) 4096 SQLITE_OK,
    .xOpen 0 (some "db".toList) SQLITE_OK true true] .start rfl
  obtain ⟨ha, hb⟩ := isOpen_referenced []
  exact ⟨_, hr, h2, _, rfl, rfl, ha _ hr 0 _ rfl rfl, hb _ h2 0 _ rfl⟩

end TrackingVfs
