import NamespaceBootstrap.Bootstrap.Handoff

/-! A resumption point resumes its process image at most once. Signals and runs of child
entries may come in any number and in any order; the point keeps only the side it first
resumed on, and that side alone decides every later answer. -/

namespace NamespaceBootstrap.ResumePoint

/-- An operation on a resumption point: a signal on a side, or one run of the child entry,
whose preparation came out as given. -/
inductive Op where
  | signal (t : Tag)
  | entry (prepared : Except BootstrapError Unit)

/-- What an operation answers: a signal's result, or the exit status of an entry's run. -/
inductive Answer where
  | signalled (r : Except BootstrapError Int)
  | entered (status : Int)

/-- The side an operation resumes on if it reaches the signal: its own for a signal, the
child's for an entry that prepared the child, and none for an entry whose preparation
failed. -/
def Op.side? : Op → Option Tag
  | .signal t => some t
  | .entry (.ok ()) => some .asChild
  | .entry (.error _) => none

def perform (cont : Tag → Int) (p : ResumePoint) : Op → Answer × ResumePoint
  | .signal t => (.signalled (p.signal cont t).1, (p.signal cont t).2)
  | .entry prepared => (.entered (p.childEntry cont prepared).1, (p.childEntry cont prepared).2)

def performAll (cont : Tag → Int) (p : ResumePoint) : List Op → List Answer × ResumePoint
  | [] => ([], p)
  | op :: ops =>
    let rest := performAll cont (perform cont p op).2 ops
    ((perform cont p op).1 :: rest.1, rest.2)

/-- The side of the first operation that reaches the signal. -/
def firstSide (ops : List Op) : Option Tag := ops.findSome? Op.side?

/-- What an operation answers on a point that resumed on `prev`, or that has not resumed. -/
def answerAfter (cont : Tag → Int) : Option Tag → Op → Answer
  | none, .signal t => .signalled (.ok (cont t))
  | some prev, .signal t => .signalled (.error (.handoff prev t))
  | none, .entry (.ok ()) => .entered (cont .asChild)
  | _, .entry _ => .entered fatalStatus

@[simp] theorem firstSide_nil : firstSide [] = none := rfl

@[simp] theorem firstSide_cons (op : Op) (ops : List Op) :
    firstSide (op :: ops) = op.side?.or (firstSide ops) := by
  cases h : op.side? <;> simp [firstSide, h]

@[simp] theorem firstSide_append (xs ys : List Op) :
    firstSide (xs ++ ys) = (firstSide xs).or (firstSide ys) := List.findSome?_append

section Step

variable (cont : Tag → Int) (p : ResumePoint) (op : Op)

theorem perform_answer : (perform cont p op).1 = answerAfter cont p.consumed op := by
  cases op with
  | signal t => cases h : p.consumed <;> simp [perform, signal, answerAfter, h]
  | entry prepared =>
    rcases prepared with e | ⟨⟩ <;> cases h : p.consumed <;>
      simp [perform, childEntry, signal, answerAfter, h]

theorem perform_consumed : (perform cont p op).2.consumed = p.consumed.or op.side? := by
  cases op with
  | signal t => cases h : p.consumed <;> simp [perform, signal, Op.side?, h]
  | entry prepared =>
    rcases prepared with e | ⟨⟩ <;> cases h : p.consumed <;>
      simp [perform, childEntry, signal, Op.side?, h]

theorem perform_calls : (perform cont p op).2.calls =
    p.calls ++ (if p.consumed = none then op.side?.toList else []) := by
  cases op with
  | signal t => cases h : p.consumed <;> simp [perform, signal, Op.side?, h]
  | entry prepared =>
    rcases prepared with e | ⟨⟩ <;> cases h : p.consumed <;>
      simp [perform, childEntry, signal, Op.side?, h]

end Step

section Run

variable (cont : Tag → Int)

theorem performAll_append (p : ResumePoint) (xs ys : List Op) :
    performAll cont p (xs ++ ys) =
      ((performAll cont p xs).1 ++ (performAll cont (performAll cont p xs).2 ys).1,
        (performAll cont (performAll cont p xs).2 ys).2) := by
  induction xs generalizing p with
  | nil => rfl
  | cons op xs ih => simp only [List.cons_append, performAll, ih]

theorem length_performAll (p : ResumePoint) (ops : List Op) :
    (performAll cont p ops).1.length = ops.length := by
  induction ops generalizing p with
  | nil => rfl
  | cons op ops ih => simp only [performAll, List.length_cons, ih]

/-- Once resumed, a point stays on the side it resumed on; before, it takes the side of the
first operation that reaches the signal. -/
theorem performAll_consumed (p : ResumePoint) (ops : List Op) :
    (performAll cont p ops).2.consumed = p.consumed.or (firstSide ops) := by
  induction ops generalizing p with
  | nil => simp [performAll]
  | cons op ops ih =>
    simp only [performAll, ih, perform_consumed, firstSide_cons, Option.or_assoc]

theorem performAll_calls (p : ResumePoint) (ops : List Op) :
    (performAll cont p ops).2.calls =
      p.calls ++ (if p.consumed = none then (firstSide ops).toList else []) := by
  induction ops generalizing p with
  | nil => simp [performAll]
  | cons op ops ih =>
    simp only [performAll, ih, perform_calls, perform_consumed, firstSide_cons]
    -- a point resumed by `op` stays resumed, so the rest adds no call
    cases hp : p.consumed <;> cases hs : op.side? <;> simp

/-- Every answer is the one due to the side the operations before it resumed on. -/
theorem performAll_answer (p : ResumePoint) (pre : List Op) (op : Op) (post : List Op) :
    (performAll cont p (pre ++ op :: post)).1[pre.length]? =
      some (answerAfter cont (p.consumed.or (firstSide pre)) op) := by
  have hlen := length_performAll cont p pre
  rw [performAll_append, List.getElem?_append_right (by omega), hlen, Nat.sub_self]
  simp only [performAll, List.getElem?_cons_zero, perform_answer, performAll_consumed]

end Run

/-- The at-most-once law of a resumption point: over any interleaving of signals and runs of
the child entry on a fresh point, the continuation runs at most once, exactly for the first
operation that reaches the signal and on its side; the point records that side for good;
every later signal is refused naming both sides; and an entry's run answers the
continuation's status only when it is that first operation, and the fatal status otherwise. -/
theorem resumes_at_most_once (cont : Tag → Int) (ops : List Op) :
    (performAll cont {} ops).2.calls = (firstSide ops).toList ∧
    (performAll cont {} ops).2.consumed = firstSide ops ∧
    ∀ pre op post, ops = pre ++ op :: post →
      (performAll cont {} ops).1[pre.length]? = some (answerAfter cont (firstSide pre) op) := by
  refine ⟨?_, ?_, ?_⟩
  · simpa using performAll_calls cont {} ops
  · simpa using performAll_consumed cont {} ops
  · rintro pre op post rfl
    simpa using performAll_answer cont {} pre op post

end NamespaceBootstrap.ResumePoint
