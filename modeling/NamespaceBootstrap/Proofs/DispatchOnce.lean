import NamespaceBootstrap.Bootstrap.Images
import NamespaceBootstrap.Proofs.Handshake

/-! An image dispatches its command at most once. The bootstrap runs the continuation at most
once per image, as the parent and only when it gets through, and the parent's side leaves the
command in the slot; so the entry point's own finishing, which happens only when no bootstrap
was asked for, finds the command, and a parent image never finishes. A cloned child starts from
the slot as it was filled and its copy of the point the bootstrap established, which has not
resumed, so its one resumption, as the child, finds the command too. -/

namespace NamespaceBootstrap

namespace Slot

variable {α : Type} (dispatch : α → Option Tag → Int) (cmd : α)

@[simp] theorem afterCalls_nil (s : Slot α) : s.afterCalls dispatch [] = s := rfl

@[simp] theorem afterCalls_asParent (s : Slot α) : s.afterCalls dispatch [.asParent] = s := rfl

theorem finish_init (r : Option Tag) :
    (init cmd).finish dispatch r = (dispatch cmd r, { command := none, taken := [some cmd] }) := rfl

theorem afterCalls_asChild_init :
    (init cmd).afterCalls dispatch [.asChild] = { command := none, taken := [some cmd] } := rfl

end Slot

namespace ResumePoint

theorem signal_establish (cont : Tag → Int) (t : Tag) :
    establish.signal cont t = (.ok (cont t), { consumed := some t, calls := [t] }) := rfl

end ResumePoint

/-- The child's copy of the point is the point as the bootstrap established it. -/
theorem ChildCopy.point_eq (c : ChildCopy) : c.point = ResumePoint.establish := by
  obtain ⟨channel, ⟨consumed, calls⟩, hconsumed, hcalls⟩ := c
  dsimp only at hconsumed hcalls
  subst hconsumed hcalls
  rfl

namespace Machine

variable (m : Machine) (s : Wire.Stream) (cont : Tag → Int)

/-- A run resumes at most once, as the parent, and only when it gets through. -/
theorem run_calls :
    ((m.run s cont).calls = [] ∧ ∀ o, (m.run s cont).ending ≠ .done o) ∨
    ((m.run s cont).calls = [.asParent] ∧
      ∃ p, (m.run s cont).ending = .done (.parent p (cont .asParent))) := by
  unfold Machine.run
  rcases s.readPathList with ⟨e | l, s1⟩ <;> dsimp only
  · exact .inl ⟨rfl, by simp⟩
  rcases m.joiner.joinAll l with ⟨e | ⟨⟩, j⟩ <;> dsimp only
  · exact .inl ⟨rfl, by simp⟩
  rcases s1.readFlags with ⟨e | f, s2⟩ <;> dsimp only
  · exact .inl ⟨rfl, by simp⟩
  rcases m.cloner.spawn f with ⟨p | e | _, c⟩ <;> dsimp only
  · rcases s2.writeChildPid p with ⟨e | ⟨⟩, s3⟩ <;> dsimp only
    · exact .inl ⟨rfl, by simp⟩
    rcases s3.releaseStep with ⟨e | ⟨⟩, s4⟩ <;> dsimp only
    · exact .inl ⟨rfl, by simp⟩
    rw [ResumePoint.signal_establish]
    exact .inr ⟨rfl, _, rfl⟩
  · exact .inl ⟨rfl, by simp⟩
  · exact .inl ⟨rfl, by simp⟩

/-- Entered from a trigger, the bootstrap resumes at most once, as the parent, and only when it
gets through; without a trigger it does nothing. -/
theorem enter_calls (trigger : Option String) (open? : Int → Option Wire.Stream) :
    ((m.enter trigger open? cont).1 = .done .notRequested ∧
      (m.enter trigger open? cont).2.2.2 = []) ∨
    ((m.enter trigger open? cont).2.2.2 = [] ∧ ∀ o, (m.enter trigger open? cont).1 ≠ .done o) ∨
    ((m.enter trigger open? cont).2.2.2 = [.asParent] ∧
      ∃ p, (m.enter trigger open? cont).1 = .done (.parent p (cont .asParent))) := by
  unfold enter
  rcases trigger with _ | text
  · exact .inl ⟨rfl, rfl⟩
  -- a descriptor that cannot be read or opened fails before the run, resuming nothing
  rcases hfd : parseDescriptor text with e | fd
  · simp [hfd]
  rcases hopen : open? fd with _ | s
  · simp [hfd, hopen]
  simp only [hfd, hopen]
  rcases m.run_calls s cont with h | h
  · exact .inr (.inl h)
  · exact .inr (.inr h)

theorem cloneChannel_release {s : Wire.Stream} {c : ChildCopy} (h : m.cloneChannel? s = some c) :
    c.channel.release = s.release := by
  unfold cloneChannel? at h
  rcases hlist : s.readPathList with ⟨e | l, s1⟩ <;> simp only [hlist] at h
  · cases h
  have hs1 : s.InputMoved s1 := by simpa [hlist] using s.inputMoved_readPathList
  rcases hjoin : m.joiner.joinAll l with ⟨e | ⟨⟩, j⟩ <;> simp only [hjoin] at h
  · cases h
  rcases hflags : s1.readFlags with ⟨e | f, s2⟩ <;> simp only [hflags] at h
  · cases h
  have hs2 : s.InputMoved s2 := hs1.trans (by simpa [hflags] using s1.readsAt_readFlags.moved)
  rcases hspawn : m.cloner.spawn f with ⟨p | e | _, c⟩ <;>
    simp only [hspawn, Option.some.injEq, reduceCtorEq] at h
  obtain ⟨u, c, rfl⟩ := hs2
  rw [← h]

theorem enterClone_release {trigger : Option String} {open? : Int → Option Wire.Stream}
    {c : ChildCopy} (h : m.enterClone? trigger open? = some c) :
    ∃ fd s, open? fd = some s ∧ c.channel.release = s.release := by
  unfold enterClone? at h
  rcases trigger with _ | text
  · cases h
  rcases hfd : parseDescriptor text with e | fd <;> simp only [hfd, reduceCtorEq] at h
  rcases hopen : open? fd with _ | s <;> simp only [hopen, Option.bind_none, Option.bind_some,
    reduceCtorEq] at h
  exact ⟨fd, s, hopen, m.cloneChannel_release h⟩

end Machine

theorem Wire.Stream.releaseStep_ok {s : Wire.Stream} (h : s.release ≠ .counted true) :
    s.releaseStep.1 = .ok () := by
  unfold Wire.Stream.releaseStep Wire.Stream.releaseOnce
  rcases hr : s.release with refuses | _ | _
  · cases refuses
    · rfl
    · exact absurd hr h
  · rfl
  · rfl

section Images

variable {α : Type} (dispatch : α → Option Tag → Int) (cmd : α)

theorem childImage_of_release {c : ChildCopy} (h : c.channel.release ≠ .counted true) :
    childImage dispatch cmd c =
      ⟨.exited (dispatch cmd (some .asChild)), { command := none, taken := [some cmd] },
        [.asChild]⟩ := by
  simp only [childImage, c.point_eq, Wire.Stream.releaseStep_ok h, ResumePoint.childEntry,
    ResumePoint.signal_establish]
  rfl

theorem childImage_taken (c : ChildCopy) : none ∉ (childImage dispatch cmd c).slot.taken := by
  unfold childImage
  rw [c.point_eq]
  rcases hr : c.channel.releaseStep with ⟨e | ⟨⟩, s'⟩
  · simp [ResumePoint.childEntry, ResumePoint.establish, Slot.init]
  · simp [ResumePoint.childEntry, ResumePoint.signal_establish, Slot.afterCalls_asChild_init]

theorem mainImage_cases (m : Machine) (trigger : Option String)
    (open? : Int → Option Wire.Stream) :
    ((mainImage dispatch m trigger open? cmd).1 = .done .notRequested ∧
      (mainImage dispatch m trigger open? cmd).2 =
        ⟨.exited (dispatch cmd none), { command := none, taken := [some cmd] }, []⟩) ∨
    ((∀ o, (mainImage dispatch m trigger open? cmd).1 ≠ .done o) ∧
      (mainImage dispatch m trigger open? cmd).2.calls = [] ∧
      (mainImage dispatch m trigger open? cmd).2.slot = Slot.init cmd) ∨
    (∃ p, (mainImage dispatch m trigger open? cmd).1 = .done (.parent p 0) ∧
      (mainImage dispatch m trigger open? cmd).2 = ⟨.exited 0, Slot.init cmd, [.asParent]⟩) := by
  have h := Machine.enter_calls m (fun t => ((Slot.init cmd).resume dispatch t).1) trigger open?
  dsimp only [mainImage]
  generalize m.enter trigger open? (fun t => ((Slot.init cmd).resume dispatch t).1) = r at h ⊢
  obtain ⟨e, m', s', calls⟩ := r
  rcases h with ⟨rfl, rfl⟩ | ⟨rfl, hnot⟩ | ⟨rfl, p, rfl⟩
  · exact .inl ⟨rfl, rfl⟩
  · refine .inr (.inl ⟨hnot, ?_, ?_⟩) <;> cases e <;> simp_all
  · exact .inr (.inr ⟨p, rfl, rfl⟩)

/-- Every process image dispatches its command at most once, so finishing never finds the slot
empty. When no bootstrap was asked for, the continuation never ran and the entry point finishes
with the command; when the bootstrap resumed as the parent, the continuation ran once, as the
parent, leaving the command, and the image exits with the status 0 it answered, without
finishing; and the child a clone starts, when its inherited channel releases without refusing,
runs the continuation once, as the child, which finishes with the command, and exits with the
entry's status. -/
theorem dispatches_at_most_once_per_image (m : Machine) (trigger : Option String)
    (open? : Int → Option Wire.Stream) :
    ((mainImage dispatch m trigger open? cmd).1 = .done .notRequested →
      (mainImage dispatch m trigger open? cmd).2.calls = [] ∧
      (mainImage dispatch m trigger open? cmd).2.slot.taken = [some cmd] ∧
      (mainImage dispatch m trigger open? cmd).2.ending = .exited (dispatch cmd none)) ∧
    (∀ p status, (mainImage dispatch m trigger open? cmd).1 = .done (.parent p status) →
      (mainImage dispatch m trigger open? cmd).2.calls = [.asParent] ∧ status = 0 ∧
      (mainImage dispatch m trigger open? cmd).2.slot.taken = [] ∧
      (mainImage dispatch m trigger open? cmd).2.ending = .exited 0) ∧
    ((∀ fd s, open? fd = some s → s.release ≠ .counted true) →
      ∀ s, m.enterClone? trigger open? = some s →
        (childImage dispatch cmd s).calls = [.asChild] ∧
        (childImage dispatch cmd s).slot.taken = [some cmd] ∧
        (childImage dispatch cmd s).ending = .exited (dispatch cmd (some .asChild))) ∧
    none ∉ (mainImage dispatch m trigger open? cmd).2.slot.taken ∧
    ∀ s, none ∉ (childImage dispatch cmd s).slot.taken := by
  refine ⟨?_, ?_, ?_, ?_, childImage_taken dispatch cmd⟩
  · intro hnone
    rcases mainImage_cases dispatch cmd m trigger open? with ⟨-, h⟩ | ⟨hnot, -⟩ | ⟨p, hp, -⟩
    · simp [h]
    · exact absurd hnone (hnot _)
    · rw [hp] at hnone
      cases hnone
  · intro p status hparent
    rcases mainImage_cases dispatch cmd m trigger open? with ⟨h, -⟩ | ⟨hnot, -⟩ | ⟨q, hq, h⟩
    · rw [h] at hparent
      cases hparent
    · exact absurd hparent (hnot _)
    · rw [hq] at hparent
      cases hparent
      simp [h, Slot.init]
  · intro hrelease s hs
    obtain ⟨fd, s0, hopen, hsame⟩ := m.enterClone_release hs
    rw [childImage_of_release dispatch cmd (hsame ▸ hrelease fd s0 hopen)]
    exact ⟨rfl, rfl, rfl⟩
  · rcases mainImage_cases dispatch cmd m trigger open? with ⟨-, h⟩ | ⟨-, -, h⟩ | ⟨p, -, h⟩ <;>
      simp [h, Slot.init]

end Images

end NamespaceBootstrap