/-
# Each session of the module tracks its own writes

`Refinement` relates one session of the module, from a successful init on,
to `Spec`. Over its whole life the module passes through sessions: each
`vfs_tracking_init` of an uninitialised module (at process start, or after
`vfs_tracking_shutdown`) records a page size and starts an empty list, each
shutdown frees the list and makes the module uninitialised again, and an init
of an initialised module changes nothing.

`Spec.lifeStep` states this over `Spec`: uninitialised (`none`), or a session
with its page size and spec state. The runs are the good runs of `Refinement`
within each session, plus any init and any shutdown, and no other call while
uninitialised (`Spec.LifeGood`). `LifeRel` ties the C state to it, one event
keeps it (`LifeRel.step`), and so, from process start, every such run completes
and a query then returns the pages written to the name in the current session
since its last reset, counted and ascending (`getDirtyPages_life`): a session
sees nothing of the sessions before it, and uses its own page size.

Key definitions: `Spec.lifeStep`, `Spec.LifeGood`, `LifeRel`.
Key theorems: `LifeRel.step`, `LifeRel.run`, `getDirtyPages_life`.
-/
import TrackingVfs.Refinement
import TrackingVfs.Sync

namespace TrackingVfs

namespace Spec

/-- What one event does over the module's life: an init of an uninitialised
module that finds its base VFS starts a session with nothing open and nothing
written; a shutdown ends the session; any other event acts on the session. -/
def lifeStep : Option (Nat × Spec) → Event → Option (Nat × Spec)
  | none, .init (some _) pageSize _ => some (effectivePageSize pageSize, empty)
  | some _, .shutdown => none
  | some (ps, a), e => some (ps, a.step ps e)
  | none, _ => none

/-- The module's state after a run. -/
def lifeRun (l : Option (Nat × Spec)) (es : List Event) : Option (Nat × Spec) :=
  es.foldl lifeStep l

/-- The events of the runs over the module's life: while uninitialised only an
init, which registers when it finds its base VFS; a shutdown at any time in a
session; and the good events (`Spec.Good`) within a session. -/
def LifeGood : Option (Nat × Spec) → Event → Prop
  | none, .init found _ rc => found.isSome → rc = SQLITE_OK
  | none, _ => False
  | some _, .shutdown => True
  | some (ps, a), e => Good ps a e

/-- A run all of whose events are `LifeGood` where they happen. -/
def LifeGoodRun : Option (Nat × Spec) → List Event → Prop
  | _, [] => True
  | l, e :: es => LifeGood l e ∧ LifeGoodRun (lifeStep l e) es

/-- The pages of a name the module records: none while uninitialised. -/
def lifeDirty : Option (Nat × Spec) → List Char → Finset Nat
  | none, _ => ∅
  | some (_, a), n => a.dirty n

end Spec

/-- The C state `s` implements the module's state: uninitialised with an empty
list, or related to the session's spec state with its page size. -/
def LifeRel (s : Sys) : Option (Nat × Spec) → Prop
  | none => s.gState.pRealVfs = none ∧ s.gState.files = []
  | some (ps, a) => Rel ps s a

namespace LifeRel

theorem start (host : List BaseVfs) : LifeRel (Sys.start host) none := ⟨rfl, rfl⟩

/-- **One event over the module's life keeps the relation**, and does not
fault. -/
theorem step {s : Sys} {l : Option (Nat × Spec)} (h : LifeRel s l) {e : Event}
    (he : Spec.LifeGood l e) :
    ∃ s', TrackingVfs.step s e = .ok s' ∧ LifeRel s' (Spec.lifeStep l e) := by
  rcases l with _ | ⟨ps, a⟩
  · cases e with
    | init found pageSize rc =>
      cases found with
      | none => exact ⟨s, by simp [TrackingVfs.step, vfsTrackingInit, h.1], h⟩
      | some v =>
        exact ⟨_, rfl,
          @Rel.start s h.1 (some v) pageSize rc (by simp [vfsTrackingInit, h.1, he rfl])⟩
    | _ => exact he.elim
  · cases e with
    | shutdown => exact ⟨_, rfl, rfl, rfl⟩
    | _ =>
      refine Rel.step h ?_
      exact he

theorem run : ∀ {s : Sys} {l : Option (Nat × Spec)} (es : List Event), LifeRel s l →
    Spec.LifeGoodRun l es → ∃ s', TrackingVfs.run s es = .ok s' ∧ LifeRel s' (Spec.lifeRun l es)
  | s, _, [], h, _ => ⟨s, rfl, h⟩
  | _, _, _ :: es, h, ⟨he, hes⟩ => by
    obtain ⟨s1, h1, hr1⟩ := h.step he
    obtain ⟨s2, h2, hr2⟩ := run es hr1 hes
    exact ⟨s2, by simp [TrackingVfs.run, h1, h2, bind, Except.bind], hr2⟩

/-- In a related state the query returns the name's pages, counted and
ascending. -/
theorem getDirtyPages {s : Sys} {l : Option (Nat × Spec)} (h : LifeRel s l) (n : List Char) :
    let D := Spec.lifeDirty l (normalizeName n)
    ∃ s', vfsTrackingGetDirtyPages true true true s (some n) true =
      .ok (⟨SQLITE_OK, some (D.card, if D = ∅ then none else some (D.sort (· ≤ ·)))⟩, s') := by
  rcases l with _ | ⟨ps, a⟩
  · simpa [Spec.lifeDirty] using query_empty h.2 n true true true
  · obtain ⟨s', hq, -⟩ := Rel.getDirtyPages h n
    exact ⟨s', hq⟩

end LifeRel

end TrackingVfs
